namespace EnvTemplate

inductive Cause
  | emptyValue
  | noDefault
  | noOptions
  | missingValue
  | notAnOption (options : List String) (value : String)
  | notNumeric (value : String)
  | emptyBoolean
  | notBoolean (value : String)
  | unstorable
  /-- A reason given in its own words. -/
  | stated (message : String)
  deriving DecidableEq, Repr

def Cause.message (key : String) : Cause → String
  | .emptyValue => s!"value for {key} cannot be empty"
  | .noDefault => s!"no default value was provided for key {key}"
  | .noOptions => s!"no options were provided for key {key}"
  | .missingValue => s!"missing value for key {key}"
  | .notAnOption options value =>
    s!"invalid value for key {key}. Should be one of these values: " ++ ", ".intercalate options ++
      s!". Value provided is {value}"
  | .notNumeric value => s!"invalid value for {key}. Should be numeric: {value}"
  | .emptyBoolean => s!"empty value cannot be processed as boolean for key {key}"
  | .notBoolean value => s!"invalid value for {key}. Should be boolean: {value}"
  | .unstorable => s!"value for {key} cannot be stored in the environment"
  | .stated message => message

structure Rejection where
  validator : String
  key : String
  cause : Cause
  deriving DecidableEq, Repr

namespace Rejection

def message (r : Rejection) : String := r.cause.message r.key

def text (r : Rejection) : String := "[" ++ r.validator ++ "]: " ++ r.message

end Rejection

end EnvTemplate
