import EnvTemplate.Publisher.Cache
import EnvTemplate.Verdict

namespace EnvTemplate

inductive SetupError
  | missingDirectory
  deriving DecidableEq, Repr

def SetupError.message : SetupError → String
  | missingDirectory => "argument \"directory\" is required"

inductive PublishError
  | configuration (error : SetupError)
  | validation (verdicts : Verdicts)
  | cache (error : Cache.Error)
  deriving DecidableEq, Repr

namespace PublishError

def message : PublishError → String
  | configuration error => error.message
  | validation verdicts => "Environment validation failed:\n" ++ verdicts.refusal
  | cache error => error.message

end PublishError

end EnvTemplate
