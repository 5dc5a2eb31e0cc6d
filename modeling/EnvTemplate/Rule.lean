import EnvTemplate.Chain
import EnvTemplate.EnvFile
import EnvTemplate.Validator.Registry
import EnvTemplate.Verdict

namespace EnvTemplate

structure Invocation where
  name : String
  key : String
  value : String
  args : List String
  deriving DecidableEq, Repr

def Validator.invocations (name key value : String) (args : List String) :
    Validator → List Invocation
  | standard _ => []
  | custom _ => [⟨name, key, value, args⟩]

/-- Pass a value through the known links of a chain up to the first rejection. Also lists the
custom validators called. -/
def Chain.run (registry : Registry) (key : String) :
    Chain → String → Except Rejection String × List Invocation
  | [], value => (.ok value, [])
  | link :: rest, value =>
    match registry.get? link.name with
    | none => Chain.run registry key rest value
    | some validator =>
      let made := validator.invocations link.name key value link.args
      match validator.call link.name key value link.args with
      | .error rejection => (.error rejection, made)
      | .ok next =>
        let (result, later) := Chain.run registry key rest next
        (result, made ++ later)

namespace Chain

variable {registry : Registry} {key value next : String} {link : Call} {validator : Validator}
  {rejection : Rejection}

theorem run_cons_of_unknown (hv : registry.get? link.name = none) (rest : Chain) :
    run registry key (link :: rest) value = run registry key rest value := by
  rw [run]
  simp only [hv]

theorem run_cons_of_error (hv : registry.get? link.name = some validator)
    (ha : validator.call link.name key value link.args = .error rejection) (rest : Chain) :
    run registry key (link :: rest) value =
      (.error rejection, validator.invocations link.name key value link.args) := by
  rw [run]
  simp only [hv, ha]

theorem run_cons_of_ok (hv : registry.get? link.name = some validator)
    (ha : validator.call link.name key value link.args = .ok next) (rest : Chain) :
    run registry key (link :: rest) value = ((run registry key rest next).1,
      validator.invocations link.name key value link.args ++ (run registry key rest next).2) := by
  rw [run]
  simp only [hv, ha]

end Chain

structure Rule where
  key : String
  chain : Chain
  deriving DecidableEq, Repr

namespace Rule

def ofBinding (registry : Registry) (key expression : String) : Rule :=
  ⟨key, Chain.parse registry.contains expression⟩

def ofTemplate (registry : Registry) (template : Bindings) : List Rule :=
  template.entries.map fun (key, expression) => ofBinding registry key expression

def render (rule : Rule) : String := EnvFile.line rule.key rule.chain.render

/-- The value a rule starts from: the environment's unless it is empty or missing, else the env
file's, else the empty one. -/
def input (environment : String → Option String) (file : Bindings) (key : String) : String :=
  match environment key with
  | some value => if value = "" then (file.get? key).getD "" else value
  | none => (file.get? key).getD ""

/-- A failed rule keeps the value it started from. -/
def judge (registry : Registry) (rule : Rule) (value : String) : Verdict × List Invocation :=
  match rule.chain.run registry rule.key value with
  | (.ok result, made) => (⟨rule.key, result, .ok⟩, made)
  | (.error rejection, made) => (⟨rule.key, value, .failed rejection.text⟩, made)

def judgeAll (registry : Registry) (environment : String → Option String) (file : Bindings)
    (rules : List Rule) : Verdicts × List Invocation :=
  let judged := rules.map fun rule => rule.judge registry (input environment file rule.key)
  (judged.map Prod.fst, judged.flatMap Prod.snd)

theorem input_eq (environment : String → Option String) (file : Bindings) (key : String) :
    input environment file key =
      if (environment key).getD "" ≠ "" then (environment key).getD ""
      else (file.get? key).getD "" := by
  unfold input
  cases environment key with
  | none => rfl
  | some value => by_cases hv : value = "" <;> simp [hv]

theorem key_judge (registry : Registry) (rule : Rule) (value : String) :
    (rule.judge registry value).1.key = rule.key := by
  unfold judge
  split <;> rfl

theorem message?_judge {registry : Registry} {rule : Rule} {value message : String} :
    (rule.judge registry value).1.message? = some message ↔
      ∃ rejection, (rule.chain.run registry rule.key value).1 = .error rejection ∧
        rejection.text = message := by
  unfold judge
  cases hr : rule.chain.run registry rule.key value with
  | mk result calls =>
    cases result with
    | ok made => simp [Verdict.message?]
    | error rejection => simp [Verdict.message?]

theorem judge_of_error {registry : Registry} {rule : Rule} {value : String} {rejection : Rejection}
    (h : (rule.chain.run registry rule.key value).1 = .error rejection) :
    (rule.judge registry value).1 = ⟨rule.key, value, .failed rejection.text⟩ := by
  cases hr : rule.chain.run registry rule.key value with
  | mk result made =>
    rw [hr] at h
    obtain rfl : result = .error rejection := h
    simp only [judge, hr]

theorem keys_judgeAll (registry : Registry) (environment : String → Option String)
    (file : Bindings) (rules : List Rule) :
    (judgeAll registry environment file rules).1.map Verdict.key = rules.map Rule.key := by
  simp [judgeAll, Function.comp_def, key_judge]

theorem judgeAll_congr {registry : Registry} {environment other : String → Option String}
    {file otherFile : Bindings} {rules : List Rule}
    (h : ∀ rule ∈ rules, input environment file rule.key = input other otherFile rule.key) :
    judgeAll registry environment file rules = judgeAll registry other otherFile rules := by
  have hj : rules.map (fun rule => rule.judge registry (input environment file rule.key)) =
      rules.map fun rule => rule.judge registry (input other otherFile rule.key) :=
    List.map_congr_left fun rule hr => by rw [h rule hr]
  simp only [judgeAll, hj]

end Rule

end EnvTemplate
