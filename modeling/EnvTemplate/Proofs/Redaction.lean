import EnvTemplate.Proofs.JsonText
import EnvTemplate.Proofs.Run

/-! What a masked report shows of the values that have been judged. -/

namespace EnvTemplate

open Text

namespace Cause

def quoted? : Cause → Option String
  | notAnOption _ value | notNumeric value | notBoolean value => some value
  | _ => none

def withoutValue : Cause → Cause
  | notAnOption options _ => notAnOption options ""
  | notNumeric _ => notNumeric ""
  | notBoolean _ => notBoolean ""
  | cause => cause

theorem isSome_quoted?_congr {cause other : Cause} (h : cause.withoutValue = other.withoutValue) :
    cause.quoted?.isSome = other.quoted?.isSome := by
  have hw : ∀ cause : Cause, cause.withoutValue.quoted?.isSome = cause.quoted?.isSome := by
    intro cause
    cases cause <;> rfl
  rw [← hw, h, hw]

theorem message_eq (cause : Cause) (key : String) :
    cause.message key = cause.withoutValue.message key ++ cause.quoted?.getD "" := by
  have hq : ∀ words value : String, words ++ value = words ++ "" ++ value := fun words value => by
    rw [String.append_empty]
  have ho : ∀ options words value : String,
      options ++ (words ++ value) = options ++ (words ++ "") ++ value := fun options words value => by
    rw [String.append_empty, String.append_assoc]
  cases cause with
  | notAnOption options value => exact ho _ _ value
  | notNumeric value | notBoolean value => exact hq _ value
  | _ => exact String.append_empty.symm

end Cause

namespace Report

variable {start ending message : List Char}

theorem cutEnding?_eq_some_iff :
    cutEnding? ending message = some start ↔ ending ≠ [] ∧ message = start ++ ending := by
  rw [cutEnding?]
  constructor
  · intro h
    split at h
    · rename_i hc
      obtain ⟨before, rfl⟩ := List.isSuffixOf_iff_suffix.mp hc.2
      have hb : (before ++ ending).take ((before ++ ending).length - ending.length) = before := by
        simp
      exact ⟨hc.1, by rw [← Option.some.inj h, hb]⟩
    · cases h
  · rintro ⟨hne, rfl⟩
    rw [if_pos ⟨hne, List.isSuffixOf_iff_suffix.mpr (List.suffix_append start ending)⟩]
    simp

theorem cutEnding?_eq_none_iff :
    cutEnding? ending message = none ↔ ¬(ending ≠ [] ∧ ending <:+ message) := by
  rw [cutEnding?, ← List.isSuffixOf_iff_suffix]
  split <;> simp_all

/-- The ending of a message that is taken for the value: the value, or else the value trimmed. -/
def ending? (message value : String) : Option String :=
  [value, String.ofList (trim value.toList)].find? fun ending =>
    ending.toList ≠ [] ∧ ending.toList <:+ message.toList

theorem redact_cases (message value : String) :
    (∃ start ending, ending? message value = some ending ∧ message = start ++ ending ∧
        redact false message value = start ++ mask) ∨
      ending? message value = none ∧ redact false message value = message := by
  have hcut : ∀ {ending : String} {start : List Char},
      cutEnding? ending.toList message.toList = some start →
        (ending.toList ≠ [] ∧ ending.toList <:+ message.toList) ∧
          message = String.ofList start ++ ending := by
    intro ending start h
    obtain ⟨hne, hm⟩ := cutEnding?_eq_some_iff.mp h
    refine ⟨⟨hne, start, hm.symm⟩, String.toList_inj.mp ?_⟩
    rw [hm, String.toList_append, String.toList_ofList]
  have hv : (String.ofList (trim value.toList)).toList = trim value.toList := String.toList_ofList
  unfold redact ending?
  cases hf : cutEnding? value.toList message.toList with
  | some start =>
    obtain ⟨hc, hm⟩ := hcut hf
    exact .inl ⟨_, value, List.find?_cons_of_pos (by simpa using hc), hm, rfl⟩
  | none =>
    have hn := cutEnding?_eq_none_iff.mp hf
    rw [List.find?_cons_of_neg (by simpa using hn)]
    cases ht : cutEnding? (trim value.toList) message.toList with
    | some start =>
      obtain ⟨hc, hm⟩ := hcut (hv.symm ▸ ht)
      exact .inl ⟨_, _, List.find?_cons_of_pos (by simpa using hc), hm, rfl⟩
    | none =>
      have hn' := cutEnding?_eq_none_iff.mp ht
      refine .inr ⟨?_, rfl⟩
      rw [List.find?_cons_of_neg (by simpa using hn'), List.find?_nil]

end Report

namespace Rejection

def withoutValue (r : Rejection) : Rejection := { r with cause := r.cause.withoutValue }

theorem text_eq (r : Rejection) : r.text = r.withoutValue.text ++ r.cause.quoted?.getD "" := by
  have hm := Cause.message_eq r.cause r.key
  rw [text, text, message, message, hm, ← String.append_assoc]
  simp only [withoutValue]

def masked (r : Rejection) : String :=
  r.withoutValue.text ++ if r.cause.quoted?.isSome then Report.mask else ""

theorem masked_congr {r other : Rejection} (h : r.withoutValue = other.withoutValue) :
    r.masked = other.masked := by
  have hc : r.cause.withoutValue = other.cause.withoutValue := congrArg cause h
  rw [masked, masked, h, Cause.isSome_quoted?_congr hc]

/-- What is taken for the value is the value that the message quotes, or nothing is taken where none
is quoted. A text that reads like the mask may stand without being masked. -/
def IsHidden (r : Rejection) (input : String) : Prop :=
  (Report.ending? r.text input).getD Report.mask = r.cause.quoted?.getD Report.mask

instance (r : Rejection) (input : String) : Decidable (r.IsHidden input) :=
  inferInstanceAs (Decidable (_ = _))

theorem redact_eq_masked_iff (r : Rejection) (input : String) :
    Report.redact false r.text input = r.masked ↔ r.IsHidden input := by
  have ht := r.text_eq
  rw [masked, IsHidden]
  rcases Report.redact_cases r.text input with ⟨start, ending, he, hs, hr⟩ | ⟨he, hr⟩
  · rw [hs] at ht
    rw [hr, he, Option.getD_some]
    cases hq : r.cause.quoted? with
    | none =>
      rw [hq, Option.getD_none, String.append_empty] at ht
      rw [← ht]
      simp [String.append_right_inj, eq_comm]
    | some value =>
      rw [hq, Option.getD_some] at ht
      constructor
      · intro h
        obtain rfl : start = r.withoutValue.text := (String.append_left_inj _).mp h
        exact (String.append_right_inj _).mp ht
      · intro h
        obtain rfl : ending = value := h
        rw [(String.append_left_inj _).mp ht]
        rfl
  · rw [hr, he, ht, String.append_right_inj]
    cases r.cause.quoted? with
    | none => simp
    | some value => simp [eq_comm]

end Rejection

namespace Chain

variable {registry : Registry} {key input : String} {chain : Chain} {position : Nat}
  {rejection other : Rejection}

/-- The link at a position rejects what the links before it make of an input. -/
def FailsAt (registry : Registry) (key : String) (chain : Chain) (input : String) (position : Nat)
    (rejection : Rejection) : Prop :=
  ∃ link validator value, chain[position]? = some link ∧
    (run registry key (chain.take position) input).1 = .ok value ∧
    registry.get? link.name = some validator ∧
    validator.call link.name key value link.args = .error rejection

theorem FailsAt.run_eq (h : FailsAt registry key chain input position rejection) :
    (run registry key chain input).1 = .error rejection := by
  obtain ⟨link, validator, value, hl, hr, hv, ha⟩ := h
  induction chain generalizing input position with
  | nil => simp at hl
  | cons first rest ih =>
    cases position with
    | zero =>
      obtain rfl : first = link := by simpa using hl
      obtain rfl : input = value := by simpa [run] using hr
      simp only [run, hv, ha]
    | succ position =>
      rw [List.getElem?_cons_succ] at hl
      rw [List.take_succ_cons] at hr
      cases hf : registry.get? first.name with
      | none =>
        rw [run_cons_of_unknown hf] at hr ⊢
        exact ih hl hr
      | some called =>
        cases hc : called.call first.name key input first.args with
        | error refusal =>
          rw [run_cons_of_error hf hc] at hr
          cases hr
        | ok next =>
          rw [run_cons_of_ok hf hc] at hr ⊢
          exact ih hl hr

theorem exists_failsAt (h : (run registry key chain input).1 = .error rejection) :
    ∃ position, FailsAt registry key chain input position rejection := by
  induction chain generalizing input with
  | nil => cases h
  | cons link chain ih =>
    cases hf : registry.get? link.name with
    | none =>
      rw [run_cons_of_unknown hf] at h
      obtain ⟨position, failing, validator, value, hl, hr, hv⟩ := ih h
      refine ⟨position + 1, failing, validator, value, hl, ?_, hv⟩
      rw [List.take_succ_cons, run_cons_of_unknown hf, hr]
    | some called =>
      cases hc : called.call link.name key input link.args with
      | error refusal =>
        rw [run_cons_of_error hf hc] at h
        exact ⟨0, link, called, input, rfl, rfl, hf, hc.trans h⟩
      | ok next =>
        rw [run_cons_of_ok hf hc] at h
        obtain ⟨position, failing, validator, value, hl, hr, hv⟩ := ih h
        refine ⟨position + 1, failing, validator, value, hl, ?_, hv⟩
        rw [List.take_succ_cons, run_cons_of_ok hf hc, hr]

theorem FailsAt.names (hs : ∀ link ∈ chain, (Standard.ofName? link.name).isSome)
    (h : FailsAt registry key chain input position rejection) :
    (chain[position]?).map Call.name = some rejection.validator ∧ rejection.key = key := by
  obtain ⟨link, validator, value, hl, -, hv, ha⟩ := h
  obtain ⟨standard, hn⟩ := Option.isSome_iff_exists.mp (hs link (List.mem_of_getElem? hl))
  rw [Registry.get?_of_standard hn] at hv
  cases hv
  obtain ⟨cause, -, rfl⟩ := Validator.apply_of_call_error ha
  exact ⟨by rw [hl, Option.map_some], rfl⟩

theorem FailsAt.withoutValue_eq {first second : String}
    (hs : ∀ link ∈ chain, (Standard.ofName? link.name).isSome)
    (hl : FailsAt registry key chain first position rejection)
    (hr : FailsAt registry key chain second position other)
    (hc : rejection.cause.withoutValue = other.cause.withoutValue) :
    rejection.withoutValue = other.withoutValue := by
  obtain ⟨hname, hkey⟩ := hl.names hs
  obtain ⟨hname', hkey'⟩ := hr.names hs
  have hv : rejection.validator = other.validator :=
    Option.some.inj (hname.symm.trans hname')
  simp only [Rejection.withoutValue, hv, hkey, hkey', hc]

end Chain

namespace Rule

/-- Two inputs of a rule that a masked report should not tell apart: each is empty or not, and so
is what comes of each; both pass or both fail, at the same link and for the same reason. -/
structure Alike (registry : Registry) (rule : Rule) (left right : String) : Prop where
  input : left = "" ↔ right = ""
  final : (rule.judge registry left).1.value = "" ↔ (rule.judge registry right).1.value = ""
  status : (rule.judge registry left).1.isOk = (rule.judge registry right).1.isOk
  failure : (rule.judge registry left).1.isOk = false → ∃ position rejection other,
    rule.chain.FailsAt registry rule.key left position rejection ∧
      rule.chain.FailsAt registry rule.key right position other ∧
      rejection.cause.withoutValue = other.cause.withoutValue

def shown? (registry : Registry) (rule : Rule) (input : String) : Option String :=
  (Report.row false (rule.judge registry input).1).message

/-- If the rule fails, the message that is shown has nothing of the value in it. -/
def Hides (registry : Registry) (rule : Rule) (input : String) : Prop :=
  ∀ rejection, (rule.chain.run registry rule.key input).1 = .error rejection →
    rejection.IsHidden input

variable {registry : Registry} {rule : Rule} {left right input : String}

instance : Decidable (rule.Hides registry input) :=
  match h : (rule.chain.run registry rule.key input).1 with
  | .ok _ => isTrue fun _ hr => nomatch h.symm.trans hr
  | .error rejection =>
    decidable_of_iff (rejection.IsHidden input)
      ⟨fun hi _ hr => Except.error.inj (h.symm.trans hr) ▸ hi, fun hh => hh rejection h⟩

theorem shown?_of_error {rejection : Rejection}
    (h : (rule.chain.run registry rule.key input).1 = .error rejection) :
    rule.shown? registry input = some (Report.redact false rejection.text input) := by
  rw [shown?, judge_of_error h]
  rfl

theorem Alike.sameButMessage (h : rule.Alike registry left right) :
    (Report.row false (rule.judge registry left).1).SameButMessage
      (Report.row false (rule.judge registry right).1) := by
  refine ⟨?_, ?_, ?_, ?_⟩
  · simp only [Report.row, key_judge]
  · simp only [Report.row, h.status]
  · by_cases hv : (rule.judge registry left).1.value = ""
    · simp [Report.row, Report.shown, hv, h.final.mp hv]
    · have hv' : (rule.judge registry right).1.value ≠ "" := fun he => hv (h.final.mpr he)
      simp [Report.row, Report.shown, hv, hv']
  · have hm : ∀ v : Verdict, v.message?.isSome = !v.isOk := by
      rintro ⟨key, value, outcome⟩
      cases outcome <;> rfl
    simp only [Report.row, Option.isSome_map, hm, h.status]

theorem hides_iff_of_error {rejection : Rejection}
    (h : (rule.chain.run registry rule.key input).1 = .error rejection) :
    rule.Hides registry input ↔ Report.redact false rejection.text input = rejection.masked := by
  rw [Rejection.redact_eq_masked_iff]
  refine ⟨fun hh => hh rejection h, fun hi other ho => ?_⟩
  obtain rfl : rejection = other := Except.error.inj (h.symm.trans ho)
  exact hi

theorem hides_of_isOk (h : (rule.judge registry input).1.isOk) : rule.Hides registry input := by
  intro rejection hr
  rw [judge_of_error hr] at h
  exact absurd h (by simp [Verdict.isOk])

theorem shown?_of_isOk (h : (rule.judge registry input).1.isOk) :
    rule.shown? registry input = none := by
  simp [shown?, Report.row, Verdict.message?_eq_none_iff.mpr h]

/-- Between inputs that should not be told apart, a value that is hidden looks like any other one
that is, and like none that is not. -/
theorem Alike.shown?_eq_iff (hs : ∀ link ∈ rule.chain, (Standard.ofName? link.name).isSome)
    (h : rule.Alike registry left right) :
    rule.shown? registry left = rule.shown? registry right ↔
      rule.Hides registry left ∧ rule.Hides registry right ∨
        ¬rule.Hides registry left ∧ ¬rule.Hides registry right ∧
          rule.shown? registry left = rule.shown? registry right := by
  cases ho : (rule.judge registry left).1.isOk with
  | true =>
    have ho' : (rule.judge registry right).1.isOk := h.status ▸ ho
    simp only [shown?_of_isOk ho, shown?_of_isOk ho', hides_of_isOk ho, hides_of_isOk ho',
      true_and, true_or]
  | false =>
    obtain ⟨position, rejection, other, hl, hr, hc⟩ := h.failure ho
    have hm : rejection.masked = other.masked :=
      Rejection.masked_congr (hl.withoutValue_eq hs hr hc)
    rw [hides_iff_of_error hl.run_eq, hides_iff_of_error hr.run_eq, shown?_of_error hl.run_eq,
      shown?_of_error hr.run_eq, Option.some_inj, hm]
    constructor
    · intro he
      by_cases hh : Report.redact false rejection.text left = other.masked
      · exact .inl ⟨hh, he.symm.trans hh⟩
      · exact .inr ⟨hh, fun hh' => hh (he.trans hh'), he⟩
    · rintro (⟨hh, hh'⟩ | ⟨-, -, he⟩)
      · exact hh.trans hh'.symm
      · exact he

end Rule

namespace Report

variable {registry : Registry} {rules : List Rule} {left right : String → Option String}
  {leftFile rightFile : Bindings}

theorem rows_judgeAll (registry : Registry) (environment : String → Option String)
    (file : Bindings) (rules : List Rule) :
    rows false (Rule.judgeAll registry environment file rules).1 =
      rules.map fun rule =>
        row false (rule.judge registry (Rule.input environment file rule.key)).1 := by
  simp [rows, Rule.judgeAll, Function.comp_def]

theorem render_congr {verdicts other : Verdicts} (h : rows false verdicts = rows false other)
    (format : Format) : render format false verdicts = render format false other := by
  cases format <;> simp only [render, h]

/-- Two masked reports on inputs that they should not tell apart have the same text in both formats
exactly if each rule hides its value on both inputs, or on neither and shows the same message. -/
theorem masked_reports_agree_iff
    (hs : ∀ rule ∈ rules, ∀ link ∈ rule.chain, (Standard.ofName? link.name).isSome)
    (h : ∀ rule ∈ rules, rule.Alike registry (Rule.input left leftFile rule.key)
      (Rule.input right rightFile rule.key)) :
    let first (rule : Rule) := Rule.input left leftFile rule.key
    let second (rule : Rule) := Rule.input right rightFile rule.key
    (∀ format, render format false (Rule.judgeAll registry left leftFile rules).1 =
        render format false (Rule.judgeAll registry right rightFile rules).1) ↔
      ∀ rule ∈ rules, rule.Hides registry (first rule) ∧ rule.Hides registry (second rule) ∨
        ¬rule.Hides registry (first rule) ∧ ¬rule.Hides registry (second rule) ∧
          rule.shown? registry (first rule) = rule.shown? registry (second rule) := by
  intro first second
  constructor
  · intro ht rule hm
    rw [← (h rule hm).shown?_eq_iff (hs rule hm)]
    -- the columns of a table need not tell its rows apart, the JSON text does
    have hj := Except.ok.inj (ht .json)
    rw [rows_judgeAll, rows_judgeAll] at hj
    have hf : List.Forall₂ Row.SameButMessage
        (rules.map fun rule => row false (rule.judge registry (first rule)).1)
        (rules.map fun rule => row false (rule.judge registry (second rule)).1) :=
      List.forall₂_map_left_iff.mpr (List.forall₂_map_right_iff.mpr
        (List.forall₂_same.mpr fun rule hr => (h rule hr).sameButMessage))
    exact congrArg Row.message (List.map_inj_left.mp (eq_of_json hf hj) rule hm)
  · intro hm format
    refine render_congr ?_ format
    rw [rows_judgeAll, rows_judgeAll]
    exact List.map_congr_left fun rule hr => (h rule hr).sameButMessage.eq_of_message
      (((h rule hr).shown?_eq_iff (hs rule hr)).mpr (hm rule hr))

/-- Rules that fail on a value with blanks around it, on one without, and on none. -/
theorem masked_reports_agree_of_trim :
    let rules := Rule.ofTemplate .standard (EnvFile.parse "A=trim|boolean\nB=required")
    let left : String → Option String := fun key => if key = "A" then some " maybe " else none
    let right : String → Option String := fun key => if key = "A" then some "perhaps" else none
    (∀ rule ∈ rules, rule.Alike .standard (Rule.input left ∅ rule.key)
      (Rule.input right ∅ rule.key)) ∧
    ∀ format, render format false (Rule.judgeAll .standard left ∅ rules).1 =
      render format false (Rule.judgeAll .standard right ∅ rules).1 := by
  intro rules left right
  have hrules : rules = [⟨"A", [⟨"trim", []⟩, ⟨"boolean", []⟩]⟩, ⟨"B", [⟨"required", []⟩]⟩] := by
    decide +kernel
  have hs : ∀ rule ∈ rules, ∀ link ∈ rule.chain, (Standard.ofName? link.name).isSome := by
    rw [hrules]
    decide
  have h : ∀ rule ∈ rules, rule.Alike .standard (Rule.input left ∅ rule.key)
      (Rule.input right ∅ rule.key) := by
    rw [hrules]
    refine List.forall_mem_cons.mpr ⟨⟨by decide, by decide +kernel, by decide +kernel, fun _ => ?_⟩,
      List.forall_mem_singleton.mpr ⟨by decide, by decide, by decide, fun _ => ?_⟩⟩
    · exact ⟨1, ⟨"boolean", "A", .notBoolean "maybe"⟩, ⟨"boolean", "A", .notBoolean "perhaps"⟩,
        ⟨⟨"boolean", []⟩, .standard .boolean, "maybe", rfl, by decide +kernel, rfl,
          by decide +kernel⟩,
        ⟨⟨"boolean", []⟩, .standard .boolean, "perhaps", rfl, by decide +kernel, rfl,
          by decide +kernel⟩, rfl⟩
    · have hf : Chain.FailsAt .standard "B" [⟨"required", []⟩] "" 0
          ⟨"required", "B", .emptyValue⟩ :=
        ⟨⟨"required", []⟩, .standard .required, "", rfl, rfl, rfl, rfl⟩
      exact ⟨0, _, _, hf, hf, rfl⟩
  refine ⟨h, (masked_reports_agree_iff hs h).mpr ?_⟩
  rw [hrules]
  exact List.forall_mem_cons.mpr ⟨.inl ⟨by decide +kernel, by decide +kernel⟩,
    List.forall_mem_singleton.mpr (.inl ⟨by decide +kernel, by decide +kernel⟩)⟩

/-- A number that an earlier link has brought to its normal form is shown, because it is not the
input any more. -/
theorem rewritten_value_is_shown :
    let rules := Rule.ofTemplate .standard (EnvFile.parse "A=number|boolean")
    let left : String → Option String := fun _ => some "2"
    let right : String → Option String := fun _ => some "02"
    (∀ rule ∈ rules, (∀ link ∈ rule.chain, (Standard.ofName? link.name).isSome) ∧
      rule.Alike .standard (Rule.input left ∅ rule.key) (Rule.input right ∅ rule.key)) ∧
    ∀ format, render format false (Rule.judgeAll .standard left ∅ rules).1 ≠
      render format false (Rule.judgeAll .standard right ∅ rules).1 := by
  intro rules left right
  have hrules : rules = [⟨"A", [⟨"number", []⟩, ⟨"boolean", []⟩]⟩] := by decide +kernel
  refine ⟨?_, fun format => ?_⟩
  · rw [hrules]
    refine List.forall_mem_singleton.mpr ⟨by decide, by decide, by decide +kernel, by decide +kernel,
      fun _ => ?_⟩
    have hf : ∀ input ∈ ["2", "02"], Chain.FailsAt .standard "A" [⟨"number", []⟩, ⟨"boolean", []⟩]
        input 1 ⟨"boolean", "A", .notBoolean "2"⟩ := by
      intro input hi
      refine ⟨⟨"boolean", []⟩, .standard .boolean, "2", rfl, ?_, rfl, by decide +kernel⟩
      revert input
      decide +kernel
    exact ⟨1, _, _, hf "2" (by decide), hf "02" (by decide), rfl⟩
  · rw [hrules]
    cases format <;> decide +kernel

end Report

end EnvTemplate
