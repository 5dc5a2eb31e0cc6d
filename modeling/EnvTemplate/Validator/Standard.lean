import EnvTemplate.Number.Normal
import EnvTemplate.Text.Blank
import EnvTemplate.Validator.Rejection

namespace EnvTemplate

inductive Standard
  | required
  | fallback
  | enum
  | number
  | boolean
  | trim
  deriving DecidableEq, Repr

namespace Standard

def names : List (String × Standard) :=
  [("required", required), ("fallback", fallback), ("default", fallback), ("enum", enum),
    ("options", enum), ("number", number), ("boolean", boolean), ("trim", trim)]

def ofName? (name : String) : Option Standard := names.lookup name

def label : Standard → String
  | required => "Required"
  | fallback => "Fallback"
  | enum => "Enum"
  | number => "Number"
  | boolean => "Boolean"
  | trim => "Trim"

def trueWords : List String := ["true", "1", "yes", "on"]

def falseWords : List String := ["false", "0", "no", "off"]

/-- The truth value of a word, whatever the case of its ASCII letters. -/
def truth? (value : String) : Option Bool :=
  let word := String.ofList (value.toList.map Char.toLower)
  if word ∈ trueWords then some true else if word ∈ falseWords then some false else none

def apply (args : List String) (value : String) : Standard → Except Cause String
  | required => if value = "" then .error .emptyValue else .ok value
  | fallback =>
    match args with
    | [] => .error .noDefault
    | first :: _ => .ok (if value = "" then first else value)
  | enum =>
    if args = [] then .error .noOptions
    else if value = "" then .error .missingValue
    else if value ∈ args then .ok value
    else .error (.notAnOption args value)
  | number =>
    match Number.normal? value with
    | none => .error (.notNumeric value)
    | some normal => .ok normal
  | boolean =>
    if value = "" then .error .emptyBoolean
    else
      match truth? value with
      | none => .error (.notBoolean value)
      | some true => .ok "true"
      | some false => .ok "false"
  | trim => .ok (String.ofList (Text.trim value.toList))

variable {validator : Standard} {args : List String} {value result : String}

theorem number_eq_ok_iff :
    number.apply args value = .ok result ↔ Number.normal? value = some result := by
  cases hn : Number.normal? value <;> simp [apply, hn]

theorem apply_ok_cases (h : validator.apply args value = .ok result) :
    result = value ∨
      (validator = fallback ∧ value = "" ∧ result ∈ args.head?) ∨
      (validator = number ∧ Number.normal? value = some result) ∨
      (validator = boolean ∧ (result = "true" ∨ result = "false")) ∨
      (validator = trim ∧ result = String.ofList (Text.trim value.toList)) := by
  cases validator with
  | required =>
    rw [apply] at h
    split at h <;> cases h
    exact .inl rfl
  | fallback =>
    cases args with
    | nil => cases h
    | cons first later =>
      rw [apply] at h
      split at h <;> cases h
      · exact .inr (.inl ⟨rfl, by assumption, rfl⟩)
      · exact .inl rfl
  | enum =>
    rw [apply] at h
    repeat' split at h
    all_goals cases h
    exact .inl rfl
  | number => exact .inr (.inr (.inl ⟨rfl, number_eq_ok_iff.mp h⟩))
  | boolean =>
    rw [apply] at h
    split at h
    · cases h
    · split at h <;> cases h
      · exact .inr (.inr (.inr (.inl ⟨rfl, .inl rfl⟩)))
      · exact .inr (.inr (.inr (.inl ⟨rfl, .inr rfl⟩)))
  | trim =>
    cases h
    exact .inr (.inr (.inr (.inr ⟨rfl, rfl⟩)))

end Standard

end EnvTemplate
