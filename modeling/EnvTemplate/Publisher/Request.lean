import EnvTemplate.Publisher.Basic

namespace EnvTemplate

instance decidableEqExcept {ε α : Type} [DecidableEq ε] [DecidableEq α] :
    DecidableEq (Except ε α)
  | .ok a, .ok b => decidable_of_iff (a = b) ⟨congrArg _, Except.ok.inj⟩
  | .error a, .error b => decidable_of_iff (a = b) ⟨congrArg _, Except.error.inj⟩
  | .ok _, .error _ | .error _, .ok _ => isFalse nofun

namespace Publisher

inductive Request
  | validate
  | publish
  | restore
  | forget
  | run (mode : Mode)
  deriving DecidableEq

inductive Reply
  | judged (verdicts : Verdicts)
  | published (answer : Except Verdicts Verdicts)
  | restored (found : Bool)
  | forgotten (answer : Except Cache.Error Unit)
  | ran (answer : Except PublishError Provenance)
  deriving DecidableEq

def serve (publisher : Publisher) (world : World) : Request → Reply × World
  | .validate => (publisher.validate world).map .judged id
  | .publish => (publisher.publish world).map .published id
  | .restore => (publisher.restore world).map .restored id
  | .forget => (publisher.forget world).map .forgotten id
  | .run mode => (publisher.run world mode).map .ran id

/-- What happens between one moment and the next: the publisher is asked for something, a value is
set in the store or verdicts are published into it, or other files take the place of those there. -/
inductive Step
  | ask (request : Request)
  | set (overwrite : Bool) (key value : String)
  | commit (overwrite : Bool) (verdicts : Verdicts)
  | edit (files : FileTree)

def step (publisher : Publisher) (world : World) : Step → World
  | .ask request => (publisher.serve world request).2
  | .set overwrite key value => { world with store := (world.store.set overwrite key value).2 }
  | .commit overwrite verdicts =>
    { world with store := (world.store.publish overwrite verdicts).2 }
  | .edit files => { world with files := files }

def trace (publisher : Publisher) : World → List Request → List (Reply × World)
  | _, [] => []
  | world, request :: requests =>
    publisher.serve world request ::
      trace publisher (publisher.serve world request).2 requests

end Publisher

end EnvTemplate
