import EnvTemplate.Rule
import Mathlib.Data.List.Chain

/-! Which links of a chain are executed, with what they are handed and what they answer, told apart
from the way in which the chain is run. -/

namespace EnvTemplate

/-- A link that has been executed: the call made for it, the validator called and its answer. -/
structure Execution where
  made : Invocation
  validator : Validator
  answer : Except Rejection String

namespace Execution

def link (e : Execution) : Call := ⟨e.made.name, e.made.args⟩

def isCustom (e : Execution) : Bool :=
  match e.validator with
  | .standard _ => false
  | .custom _ => true

/-- The answer is the validator's. A built-in one rejects under the name it was written by. -/
def IsAnswered (e : Execution) : Prop :=
  match e.validator with
  | .standard validator => e.answer =
      (validator.apply e.made.args e.made.value).mapError (⟨e.made.name, e.made.key, ·⟩)
  | .custom run => e.answer = run e.made.key e.made.value e.made.args

theorem isAnswered_iff (e : Execution) : e.IsAnswered ↔
    e.answer = e.validator.call e.made.name e.made.key e.made.value e.made.args := by
  obtain ⟨made, validator, answer⟩ := e
  cases validator with
  | custom run => exact Iff.rfl
  | standard validator =>
    simp only [IsAnswered, Validator.call]
    cases validator.apply made.args made.value <;> rfl

/-- What a chain gives after the links executed so far: the last answer, or the input if there is
none. -/
def result (input : String) (trace : List Execution) : Except Rejection String :=
  (trace.getLast?.map answer).getD (.ok input)

theorem result_cons_of_ok {e : Execution} {next : String} (h : e.answer = .ok next)
    (input : String) (trace : List Execution) : result input (e :: trace) = result next trace := by
  cases trace with
  | nil => exact h
  | cons first rest =>
    simp only [result, List.getLast?_cons, Option.map_some, Option.getD_some]

def invocations (trace : List Execution) : List Invocation :=
  (trace.filter isCustom).map made

end Execution

open Execution

namespace Chain

/-- The links executed for an input are the known ones, once each and in order, up to the first that
fails; each is handed what the one before it has given. -/
structure IsTrace (registry : Registry) (key : String) (chain : Chain) (input : String)
    (trace : List Execution) : Prop where
  links : trace.map Execution.link <+: chain.filter (registry.contains ·.name)
  complete : (∀ e ∈ trace, ∃ result, e.answer = .ok result) →
    trace.map Execution.link = chain.filter (registry.contains ·.name)
  key : ∀ e ∈ trace, e.made.key = key
  known : ∀ e ∈ trace, registry.get? e.made.name = some e.validator
  answered : ∀ e ∈ trace, e.IsAnswered
  start : ∀ e ∈ trace.head?, e.made.value = input
  threaded : trace.IsChain fun e next => e.answer = .ok next.made.value

variable {registry : Registry} {key input next : String} {link : Call} {chain : Chain}
  {validator : Validator} {trace rest : List Execution} {rejection : Rejection}

def execution (key input : String) (link : Call) (validator : Validator) : Execution :=
  ⟨⟨link.name, key, input, link.args⟩, validator, validator.call link.name key input link.args⟩

theorem isTrace_nil_iff : IsTrace registry key [] input trace ↔ trace = [] := by
  constructor
  · intro h
    have hl : trace.map Execution.link <+: [] := h.links
    simpa using hl
  · rintro rfl
    exact ⟨List.prefix_rfl, fun _ => rfl, by simp, by simp, by simp, by simp, .nil⟩

theorem isTrace_cons_of_unknown (hv : registry.get? link.name = none) :
    IsTrace registry key (link :: chain) input trace ↔ IsTrace registry key chain input trace := by
  have hf : (link :: chain).filter (registry.contains ·.name) =
      chain.filter (registry.contains ·.name) := by
    rw [List.filter_cons_of_neg]
    simp [Registry.contains, hv]
  constructor
  · intro h
    exact { h with links := hf ▸ h.links, complete := hf ▸ h.complete }
  · intro h
    exact { h with links := hf ▸ h.links, complete := hf ▸ h.complete }

theorem filter_cons_of_known (hv : registry.get? link.name = some validator) (chain : Chain) :
    (link :: chain).filter (registry.contains ·.name) =
      link :: chain.filter (registry.contains ·.name) := by
  rw [List.filter_cons_of_pos]
  simp [Registry.contains, hv]

theorem IsTrace.exists_cons (hv : registry.get? link.name = some validator)
    (h : IsTrace registry key (link :: chain) input trace) :
    ∃ rest, trace = execution key input link validator :: rest ∧
      rest.map Execution.link <+: chain.filter (registry.contains ·.name) := by
  have hl := h.links
  have hc := h.complete
  rw [filter_cons_of_known hv] at hl hc
  cases trace with
  | nil => simp at hc
  | cons e rest =>
    obtain ⟨he, hr⟩ := List.cons_prefix_cons.mp hl
    refine ⟨rest, ?_, hr⟩
    have hname : e.made.name = link.name := congrArg Call.name he
    have hargs : e.made.args = link.args := congrArg Call.args he
    have hkey : e.made.key = key := h.key e List.mem_cons_self
    have hvalue : e.made.value = input := h.start e rfl
    have hvalidator : e.validator = validator := by
      have hk := h.known e List.mem_cons_self
      rw [hname, hv] at hk
      exact (Option.some.inj hk).symm
    have ha := (isAnswered_iff e).mp (h.answered e List.mem_cons_self)
    rw [hname, hargs, hkey, hvalue, hvalidator] at ha
    obtain ⟨⟨name, key', value, args⟩, validator', answer⟩ := e
    simp only at hname hargs hkey hvalue hvalidator ha
    subst hname hargs hkey hvalue hvalidator ha
    rfl

theorem isTrace_cons_of_error (hv : registry.get? link.name = some validator)
    (ha : validator.call link.name key input link.args = .error rejection) :
    IsTrace registry key (link :: chain) input trace ↔
      trace = [execution key input link validator] := by
  have he : (execution key input link validator).answer = .error rejection := ha
  constructor
  · intro h
    obtain ⟨rest, rfl, -⟩ := h.exists_cons hv
    cases rest with
    | nil => rfl
    | cons next rest =>
      -- a link is executed only after one that has given a value
      have ht := (List.isChain_cons_cons.mp h.threaded).1
      rw [he] at ht
      cases ht
  · rintro rfl
    refine ⟨?_, ?_, ?_, ?_, ?_, ?_, .singleton _⟩
    · rw [filter_cons_of_known hv]
      exact List.cons_prefix_cons.mpr ⟨rfl, List.nil_prefix⟩
    · intro hok
      obtain ⟨result, hr⟩ := hok _ List.mem_cons_self
      rw [he] at hr
      cases hr
    · simp [execution]
    · simpa [execution] using hv
    · simp [isAnswered_iff, execution]
    · simp [execution]

theorem isTrace_cons_of_ok (hv : registry.get? link.name = some validator)
    (ha : validator.call link.name key input link.args = .ok next) :
    IsTrace registry key (link :: chain) input trace ↔
      ∃ rest, trace = execution key input link validator :: rest ∧
        IsTrace registry key chain next rest := by
  have he : (execution key input link validator).answer = .ok next := ha
  constructor
  · intro h
    obtain ⟨rest, rfl, hl⟩ := h.exists_cons hv
    have ht := List.isChain_cons.mp h.threaded
    refine ⟨rest, rfl, hl, fun hok => ?_, fun e hm => h.key e (List.mem_cons_of_mem _ hm),
      fun e hm => h.known e (List.mem_cons_of_mem _ hm),
      fun e hm => h.answered e (List.mem_cons_of_mem _ hm), fun e hm => ?_, ht.2⟩
    · have hc := h.complete (List.forall_mem_cons.mpr ⟨⟨next, he⟩, hok⟩)
      rw [filter_cons_of_known hv, List.map_cons] at hc
      exact (List.cons.inj hc).2
    · have hn := ht.1 e hm
      rw [he] at hn
      exact (Except.ok.inj hn).symm
  · rintro ⟨rest, rfl, h⟩
    refine ⟨?_, fun hok => ?_, ?_, ?_, ?_, ?_, ?_⟩
    · rw [filter_cons_of_known hv]
      exact List.cons_prefix_cons.mpr ⟨rfl, h.links⟩
    · rw [filter_cons_of_known hv, List.map_cons, h.complete (List.forall_mem_cons.mp hok).2]
      rfl
    · exact List.forall_mem_cons.mpr ⟨rfl, h.key⟩
    · exact List.forall_mem_cons.mpr ⟨hv, h.known⟩
    · exact List.forall_mem_cons.mpr ⟨(isAnswered_iff _).mpr rfl, h.answered⟩
    · simp [execution]
    · refine List.isChain_cons.mpr ⟨fun e hm => ?_, h.threaded⟩
      rw [he, h.start e hm]

/-- There is one trace for each input, and running the chain gives its result and makes its calls
of custom validators. -/
theorem exists_isTrace (registry : Registry) (key : String) (chain : Chain) (input : String) :
    ∃ trace, (∀ other, IsTrace registry key chain input other ↔ other = trace) ∧
      chain.run registry key input = (result input trace, invocations trace) := by
  induction chain generalizing input with
  | nil => exact ⟨[], fun _ => isTrace_nil_iff, rfl⟩
  | cons link chain ih =>
    cases hv : registry.get? link.name with
    | none =>
      obtain ⟨trace, ht, hr⟩ := ih input
      rw [run_cons_of_unknown hv]
      exact ⟨trace, fun other => (isTrace_cons_of_unknown hv).trans (ht other), hr⟩
    | some validator =>
      have hm : ∀ rest, invocations (execution key input link validator :: rest) =
          validator.invocations link.name key input link.args ++ invocations rest := by
        intro rest
        cases validator <;> rfl
      cases ha : validator.call link.name key input link.args with
      | error rejection =>
        refine ⟨[execution key input link validator], fun _ => isTrace_cons_of_error hv ha, ?_⟩
        have he : result input [execution key input link validator] = .error rejection := ha
        have hc : invocations (execution key input link validator :: []) = _ := hm []
        rw [run_cons_of_error hv ha, he, hc]
        exact congrArg _ (List.append_nil _).symm
      | ok next =>
        obtain ⟨rest, ht, hr⟩ := ih next
        refine ⟨execution key input link validator :: rest, fun other => ?_, ?_⟩
        · simp only [isTrace_cons_of_ok hv ha, ht, exists_eq_right]
        · have hres := result_cons_of_ok (e := execution key input link validator) ha input rest
          rw [run_cons_of_ok hv ha, hr, hm, hres]

end Chain

namespace Rule

/-- A rule whose links have all given a value passes with the last one; a rule of which one has
failed fails with its text, and keeps the input. -/
def verdict (key input : String) (trace : List Execution) : Verdict :=
  match result input trace with
  | .ok value => ⟨key, value, .ok⟩
  | .error rejection =>
    ⟨key, input, .failed ("[" ++ rejection.validator ++ "]: " ++ rejection.message)⟩

/-- Each rule is judged by the links executed for it, whatever the other rules come to: one verdict
for each rule, in order, and the calls of custom validators rule by rule. -/
theorem judgeAll_eq_traces (registry : Registry) (environment : String → Option String)
    (file : Bindings) (rules : List Rule) :
    let input (key : String) : String :=
      if (environment key).getD "" ≠ "" then (environment key).getD ""
      else (file.get? key).getD ""
    ∃ trace : Rule → List Execution,
      (∀ rule executions, rule.chain.IsTrace registry rule.key (input rule.key) executions ↔
        executions = trace rule) ∧
      judgeAll registry environment file rules =
        (rules.map fun rule => verdict rule.key (input rule.key) (trace rule),
          rules.flatMap fun rule => invocations (trace rule)) := by
  intro input
  have hex := fun rule : Rule => Chain.exists_isTrace registry rule.key rule.chain (input rule.key)
  choose trace ht hr using hex
  have hj : ∀ rule : Rule, rule.judge registry (Rule.input environment file rule.key) =
      (verdict rule.key (input rule.key) (trace rule), invocations (trace rule)) := by
    intro rule
    rw [input_eq, judge, hr, verdict]
    cases result (input rule.key) (trace rule) <;> rfl
  refine ⟨trace, ht, ?_⟩
  simp only [judgeAll, hj, List.map_map, List.flatMap_map]
  rfl

end Rule

end EnvTemplate
