import EnvTemplate.OrderedMap
import EnvTemplate.Text.Quoted
import EnvTemplate.Validator.Standard

namespace EnvTemplate

abbrev CustomValidator := String → String → List String → Except Rejection String

inductive Validator
  | standard (validator : Standard)
  | custom (run : CustomValidator)

namespace Validator

def call (name key value : String) (args : List String) : Validator → Except Rejection String
  | standard validator =>
    match validator.apply args value with
    | .error cause => .error ⟨name, key, cause⟩
    | .ok result => .ok result
  | custom run => run key value args

variable {name key value result : String} {args : List String} {validator : Standard}
  {rejection : Rejection}

theorem apply_of_call_ok (h : (standard validator).call name key value args = .ok result) :
    validator.apply args value = .ok result := by
  rw [call] at h
  split at h
  · cases h
  · cases h
    assumption

theorem apply_of_call_error
    (h : (standard validator).call name key value args = .error rejection) :
    ∃ cause, validator.apply args value = .error cause ∧ rejection = ⟨name, key, cause⟩ := by
  rw [call] at h
  split at h
  · cases h
    exact ⟨_, by assumption, rfl⟩
  · cases h

def describe : Validator → String
  | standard validator => "BuiltIn(" ++ validator.label ++ ")"
  | custom _ => "Custom(..)"

end Validator

/-- The validators known by name: the built-in ones, and custom ones under other names. -/
structure Registry where
  custom : OrderedMap String CustomValidator

namespace Registry

def standard : Registry := ⟨∅⟩

def get? (registry : Registry) (name : String) : Option Validator :=
  match Standard.ofName? name with
  | some validator => some (.standard validator)
  | none => (registry.custom.get? name).map .custom

def contains (registry : Registry) (name : String) : Bool := (registry.get? name).isSome

/-- A custom validator takes no built-in name; under any other it replaces an earlier one. Also
tells whether it was taken. -/
def insert (registry : Registry) (name : String) (run : CustomValidator) : Bool × Registry :=
  if (Standard.ofName? name).isSome then (false, registry)
  else (true, ⟨registry.custom.insert name run⟩)

def insertAll (registry : Registry) (l : List (String × CustomValidator)) : Registry :=
  l.foldl (fun registry (name, run) => (registry.insert name run).2) registry

def names (registry : Registry) : List String :=
  (Standard.names.map Prod.fst ++ registry.custom.keys).mergeSort fun a b => !decide (b < a)

def describe (registry : Registry) : String :=
  "ValidatorRegistry \x7b validators: " ++ Text.quoteList registry.names ++ " \x7d"

theorem get?_of_standard {registry : Registry} {name : String} {validator : Standard}
    (h : Standard.ofName? name = some validator) :
    registry.get? name = some (.standard validator) := by
  simp [get?, h]

theorem get?_standard_eq_some_iff {name : String} {validator : Validator} :
    standard.get? name = some validator ↔
      ∃ builtIn, Standard.ofName? name = some builtIn ∧ .standard builtIn = validator := by
  have he : standard.get? name = (Standard.ofName? name).map .standard := by
    rw [get?]
    cases Standard.ofName? name <;> rfl
  rw [he, Option.map_eq_some_iff]

end Registry

end EnvTemplate
