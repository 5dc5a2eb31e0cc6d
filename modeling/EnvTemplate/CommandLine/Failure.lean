import EnvTemplate.Publisher.Error
import EnvTemplate.Report

namespace EnvTemplate.CommandLine

/-- One error among those that explain each other, of the kind as which it was raised. -/
inductive Cause
  | context (task : String)
  | format (name : String)
  | checkFailed (failed : Nat)
  | publish (error : PublishError)
  | refused (verdicts : Verdicts)
  | setup (error : SetupError)
  | cache (error : Cache.Error)
  | file (error : FileError)
  deriving DecidableEq, Repr

namespace Cause

def message : Cause → String
  | context task => task
  | format name => Report.Format.invalid name
  | checkFailed failed => toString failed ++ " key(s) failed validation"
  | publish error => error.message
  | refused verdicts => verdicts.refusal
  | setup error => error.message
  | cache error => error.message
  | file error => error.message

/-- The error behind an error. A publish error that only hands another one on shows what is behind
that one. -/
def source? : Cause → Option Cause
  | publish (.validation verdicts) => some (.refused verdicts)
  | publish (.cache error) | cache error => error.cause?.map .file
  | _ => none

def isCheckFailed : Cause → Bool
  | checkFailed _ => true
  | _ => false

def isRefused : Cause → Bool
  | refused _ => true
  | _ => false

def isFailedValidation : Cause → Bool
  | publish (.validation _) => true
  | _ => false

end Cause

/-- Why a command fails: an error, and on the way out what was being done. -/
inductive Failure
  | of (cause : Cause)
  | during (task : String) (failure : Failure)
  deriving DecidableEq, Repr

namespace Failure

def chain : Failure → List Cause
  | of cause => cause :: cause.source?.toList
  | during task failure => .context task :: failure.chain

def text (failure : Failure) : String := ": ".intercalate (failure.chain.map Cause.message)

/-- Five as soon as one of the errors is a failed validation in any of its forms, else one. -/
def exitCodeOf : List Cause → Nat
  | [] => 1
  | cause :: rest =>
    if cause.isCheckFailed || cause.isRefused then 5
    else if cause.isFailedValidation then 5
    else exitCodeOf rest

def exitCode (failure : Failure) : Nat := exitCodeOf failure.chain

theorem exitCode_publish (error : PublishError) : (of (.publish error)).exitCode =
    match error with
    | .validation _ => 5
    | .configuration _ | .cache _ => 1 := by
  cases error with
  | configuration | validation => rfl
  | cache error => cases error <;> rfl

end Failure

end EnvTemplate.CommandLine
