import EnvTemplate.Store.Basic
import EnvTemplate.Validator.Rejection
import EnvTemplate.Verdict

namespace EnvTemplate.Store

def unstorable (key : String) : Rejection := ⟨"environment", key, .unstorable⟩

def screen (store : Store) (v : Verdict) : Verdict :=
  if v.isOk && !store.accepts v.key v.value then
    { v with outcome := .failed (unstorable v.key).text }
  else v

/-- Publish all values, or none if one has failed or is not accepted; the verdicts come back
either way. -/
def publish (store : Store) (overwrite : Bool) (verdicts : Verdicts) :
    Except Verdicts Verdicts × Store :=
  let screened : Verdicts := verdicts.map store.screen
  if screened.allOk then
    (.ok screened, store.setAll overwrite (screened.map fun v => (v.key, v.value)))
  else (.error screened, store)

end EnvTemplate.Store
