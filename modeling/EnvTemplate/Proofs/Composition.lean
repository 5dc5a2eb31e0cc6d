import EnvTemplate.Proofs.Execution
import EnvTemplate.Proofs.Registration

/-! Which links are executed of an expression that is put together from two, and of one that was
read with more names than are known when it is run. -/

namespace EnvTemplate

open Execution

namespace Execution

variable {input next : String} {made later : List Execution}

theorem result_append (h : result input made = .ok next) (later : List Execution) :
    result input (made ++ later) = result next later := by
  cases hl : later.getLast? with
  | none =>
    obtain rfl := List.getLast?_eq_none_iff.mp hl
    rw [List.append_nil, h]
    rfl
  | some last =>
    rw [result, result, List.getLast?_append, hl, Option.some_or]
    rfl

theorem invocations_append (made later : List Execution) :
    invocations (made ++ later) = invocations made ++ invocations later := by
  rw [invocations, List.filter_append, List.map_append]
  rfl

end Execution

theorem Registry.contains_insert {registry : Registry} {name : String}
    (h : registry.contains name) (other : String) (run : CustomValidator) :
    (registry.insert other run).2.contains name := by
  by_cases hs : name ∈ Standard.names.map Prod.fst
  · rwa [contains, get?_of_mem_names hs, ← get?_of_mem_names hs registry]
  · rw [contains, get?_insert hs]
    split
    · rfl
    · exact h

namespace Chain

variable {registry : Registry} {key input next : String} {first second chain : Chain}
  {trace made later : List Execution} {rejection : Rejection}

/-- Bars separate links wherever they stand, also between parentheses, and so they separate two
expressions. -/
theorem parse_bar (known : String → Bool) (first second : String) :
    parse known (first ++ "|" ++ second) = parse known first ++ parse known second := by
  have hbar : "|".toList = ['|'] := rfl
  simp only [parse, Text.splitOn_append hbar, List.map_append, List.filter_append]

example : parse Registry.standard.contains "enum(a|b)|trim" = [⟨"enum", []⟩, ⟨"trim", []⟩] := by
  decide +kernel

theorem run_of_isTrace (h : IsTrace registry key chain input trace) :
    chain.run registry key input = (result input trace, invocations trace) := by
  obtain ⟨other, ho, hr⟩ := exists_isTrace registry key chain input
  obtain rfl := (ho trace).mp h
  exact hr

/-- The links of the second chain are executed after those of the first, and only if these have
given a value. -/
theorem isTrace_append_iff : IsTrace registry key (first ++ second) input trace ↔
    ∃ made later, trace = made ++ later ∧ IsTrace registry key first input made ∧
      match result input made with
      | .error _ => later = []
      | .ok next => IsTrace registry key second next later := by
  induction first generalizing input trace with
  | nil => simp [isTrace_nil_iff, result]
  | cons link first ih =>
    rw [List.cons_append]
    cases hv : registry.get? link.name with
    | none => simp only [isTrace_cons_of_unknown hv, ih]
    | some validator =>
      cases ha : validator.call link.name key input link.args with
      | error rejection =>
        have hr : result input [execution key input link validator] = .error rejection := ha
        simp [isTrace_cons_of_error hv ha, hr]
      | ok next =>
        have hr := result_cons_of_ok (e := execution key input link validator) ha input
        simp only [isTrace_cons_of_ok hv ha, ih]
        constructor
        · rintro ⟨_, rfl, made, later, rfl, hm, hl⟩
          exact ⟨_, later, rfl, ⟨made, rfl, hm⟩, by rwa [hr]⟩
        · rintro ⟨_, later, rfl, ⟨made, rfl, hm⟩, hl⟩
          rw [hr] at hl
          exact ⟨made ++ later, rfl, made, later, rfl, hm, hl⟩

theorem run_append (first second : Chain) (input : String) :
    run registry key (first ++ second) input =
      match run registry key first input with
      | (.error rejection, made) => (.error rejection, made)
      | (.ok next, made) =>
        ((run registry key second next).1, made ++ (run registry key second next).2) := by
  obtain ⟨made, hm, hr⟩ := exists_isTrace registry key first input
  rw [hr]
  cases hn : result input made with
  | error rejection =>
    have ht : IsTrace registry key (first ++ second) input (made ++ []) :=
      isTrace_append_iff.mpr ⟨made, [], rfl, (hm made).mpr rfl, by rw [hn]⟩
    rw [run_of_isTrace ht, List.append_nil, hn]
  | ok next =>
    obtain ⟨later, hl, hs⟩ := exists_isTrace registry key second next
    have ht : IsTrace registry key (first ++ second) input (made ++ later) :=
      isTrace_append_iff.mpr ⟨made, later, rfl, (hm made).mpr rfl, by
        rw [hn]
        exact (hl later).mpr rfl⟩
    simp only [run_of_isTrace ht, result_append hn, invocations_append, hs]

theorem isTrace_filter_iff :
    IsTrace registry key (chain.filter (registry.contains ·.name)) input trace ↔
      IsTrace registry key chain input trace := by
  have hf : (chain.filter (registry.contains ·.name)).filter (registry.contains ·.name) =
      chain.filter (registry.contains ·.name) := by
    rw [List.filter_filter]
    simp only [Bool.and_self]
  constructor
  · intro h
    exact { h with links := hf ▸ h.links, complete := hf ▸ h.complete }
  · intro h
    exact { h with links := hf.symm ▸ h.links, complete := hf.symm ▸ h.complete }

theorem run_filter (chain : Chain) (input : String) :
    run registry key (chain.filter (registry.contains ·.name)) input =
      run registry key chain input := by
  obtain ⟨trace, ht, hr⟩ := exists_isTrace registry key chain input
  rw [hr, run_of_isTrace (isTrace_filter_iff.mpr ((ht trace).mpr rfl))]

theorem parse_filter {known wider : String → Bool} (h : ∀ name, known name → wider name)
    (expression : String) :
    (parse wider expression).filter (known ·.name) = parse known expression := by
  rw [parse, List.filter_filter, parse]
  refine List.filter_congr fun call _ => ?_
  cases hk : known call.name with
  | false => rfl
  | true => rw [h _ hk, Bool.and_self]

end Chain

namespace Rule

variable {registry wider : Registry}

theorem judgeAll_singleton (registry : Registry) (environment : String → Option String)
    (file : Bindings) (rule : Rule) :
    judgeAll registry environment file [rule] =
      match rule.chain.run registry rule.key (input environment file rule.key) with
      | (.ok result, made) => ([⟨rule.key, result, .ok⟩], made)
      | (.error rejection, made) =>
        ([⟨rule.key, input environment file rule.key, .failed rejection.text⟩], made) := by
  simp only [judgeAll, List.map_singleton, List.flatMap_singleton, judge]
  cases rule.chain.run registry rule.key (input environment file rule.key) with
  | mk result made => cases result <;> rfl

/-- Two expressions with a bar between them are the links of the first and those of the second,
executed on what the first has given. If the first fails none of the second is executed. A failure
of either keeps the value that the rule started from. -/
theorem judgeAll_bar (registry : Registry) (environment : String → Option String)
    (file : Bindings) (key first second : String) :
    let chain := Chain.parse registry.contains
    let input := Rule.input environment file key
    let rule := ofBinding registry key (first ++ "|" ++ second)
    rule.chain = chain first ++ chain second ∧
      (∀ trace, rule.chain.IsTrace registry key input trace ↔
        ∃ made later, trace = made ++ later ∧ (chain first).IsTrace registry key input made ∧
          match result input made with
          | .error _ => later = []
          | .ok value => (chain second).IsTrace registry key value later) ∧
      judgeAll registry environment file [rule] =
        match (chain first).run registry key input with
        | (.error rejection, made) => ([⟨key, input, .failed rejection.text⟩], made)
        | (.ok value, made) =>
          match (chain second).run registry key value with
          | (.error rejection, later) => ([⟨key, input, .failed rejection.text⟩], made ++ later)
          | (.ok result, later) => ([⟨key, result, .ok⟩], made ++ later) := by
  intro chain input rule
  have hc : rule.chain = chain first ++ chain second := Chain.parse_bar _ first second
  refine ⟨hc, fun trace => ?_, ?_⟩
  · rw [hc]
    exact Chain.isTrace_append_iff
  · have hr : rule.chain.run registry key input = _ := hc ▸ Chain.run_append _ _ input
    rw [judgeAll_singleton, show rule.key = key from rfl, hr]
    cases (chain first).run registry key input with
    | mk result made =>
      cases result with
      | error rejection => rfl
      | ok value =>
        dsimp only
        cases (chain second).run registry key value with
        | mk result later => cases result <;> rfl

/-- It does not matter whether a link with an unknown name is dropped when the expression is read or
passed over when the chain is run. -/
theorem judgeAll_of_wider (h : ∀ name, registry.contains name → wider.contains name)
    (environment : String → Option String) (file : Bindings) (key expression : String) :
    judgeAll registry environment file [ofBinding wider key expression] =
        judgeAll registry environment file [ofBinding registry key expression] ∧
      Chain.parse registry.contains expression =
        (Chain.parse wider.contains expression).filter (registry.contains ·.name) := by
  have hp := Chain.parse_filter h expression
  refine ⟨?_, hp.symm⟩
  simp only [judgeAll_singleton, ofBinding]
  rw [← hp, Chain.run_filter]

theorem judgeAll_of_wider_of_spy :
    let spy : CustomValidator := fun _ value _ => .ok value
    let registry : Registry := ⟨OrderedMap.ofList [("spy", spy)]⟩
    let wider := (registry.insert "upper" spy).2
    (∀ name, registry.contains name → wider.contains name) ∧
      Chain.parse wider.contains "upper(|spy|trim" = [⟨"upper", []⟩, ⟨"spy", []⟩, ⟨"trim", []⟩] ∧
      judgeAll registry (fun _ => some " x ") ∅ [ofBinding wider "A" "upper(|spy|trim"] =
        ([⟨"A", "x", .ok⟩], [⟨"spy", "A", " x ", []⟩]) := by
  intro spy registry wider
  have h : ∀ name, registry.contains name → wider.contains name := fun name hn =>
    Registry.contains_insert hn "upper" spy
  refine ⟨h, by decide +kernel, ?_⟩
  rw [(judgeAll_of_wider h _ _ _ _).1]
  decide +kernel

end Rule

end EnvTemplate
