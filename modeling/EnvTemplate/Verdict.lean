namespace EnvTemplate

inductive Outcome
  | ok
  | failed (message : String)
  deriving DecidableEq, Repr

/-- What came of one key: the value its chain gave, or the value it was given and why it failed. -/
structure Verdict where
  key : String
  value : String
  outcome : Outcome
  deriving DecidableEq, Repr

namespace Verdict

def message? (v : Verdict) : Option String :=
  match v.outcome with
  | .ok => none
  | .failed message => some message

def isOk (v : Verdict) : Bool := v.outcome = .ok

theorem message?_eq_none_iff {v : Verdict} : v.message? = none ↔ v.isOk := by
  obtain ⟨key, value, outcome⟩ := v
  cases outcome <;> simp [message?, isOk]

end Verdict

abbrev Verdicts := List Verdict

namespace Verdicts

def allOk (l : Verdicts) : Bool := l.all Verdict.isOk

def find? (l : Verdicts) (key : String) : Option Verdict := List.find? (fun v => v.key = key) l

def failures (l : Verdicts) : List (String × String) :=
  l.filterMap fun v => v.message?.map (v.key, ·)

def messages (l : Verdicts) : List String := l.filterMap Verdict.message?

def passed (l : Verdicts) : List (String × String) :=
  (l.filter Verdict.isOk).map fun v => (v.key, v.value)

def refusal (l : Verdicts) : String := "\n".intercalate (l.messages.map ("Error: " ++ ·))

theorem messages_eq_nil_iff {l : Verdicts} : l.messages = [] ↔ l.allOk := by
  simp [messages, allOk, List.filterMap_eq_nil_iff, Verdict.message?_eq_none_iff]

theorem map_snd_failures (l : Verdicts) : l.failures.map Prod.snd = l.messages := by
  have he : (fun v : Verdict => (v.message?.map (v.key, ·)).map Prod.snd) = Verdict.message? := by
    funext v
    rw [Option.map_map]
    exact Option.map_id'
  rw [failures, messages, List.map_filterMap, he]

end Verdicts

end EnvTemplate
