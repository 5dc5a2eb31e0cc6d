import EnvTemplate.Proofs.Redaction

namespace EnvTemplate

namespace Text

variable {input value result : String}

/-- A value that is the input, or the input without the blanks around it. -/
def AtMostTrimmed (input value : String) : Prop :=
  value = input ∨ value = String.ofList (trim input.toList)

theorem AtMostTrimmed.trim_eq (h : AtMostTrimmed input value) :
    trim value.toList = trim input.toList := by
  rcases h with rfl | rfl
  · rfl
  · rw [String.toList_ofList, trim_trim]

theorem AtMostTrimmed.trans (h : AtMostTrimmed input value) (h' : AtMostTrimmed value result) :
    AtMostTrimmed input result := by
  rcases h' with rfl | rfl
  · exact h
  · rw [h.trim_eq]
    exact .inr rfl

theorem ne_empty_of_not_blank (h : trim value.toList ≠ []) : value ≠ "" := by
  rintro rfl
  exact h rfl

theorem AtMostTrimmed.ne_empty (hi : trim input.toList ≠ []) (h : AtMostTrimmed input value) :
    value ≠ "" := by
  rw [← h.trim_eq] at hi
  exact ne_empty_of_not_blank hi

theorem length_trim_le (s : List Char) : (trim s).length ≤ s.length := by
  obtain ⟨a, b, -, -, hs⟩ := exists_trim s
  have hl := congrArg List.length hs
  simp only [List.length_append] at hl
  omega

end Text

open Text

namespace Standard

variable {validator : Standard} {args : List String} {value result : String} {cause : Cause}
  {complaint : String → Cause}

/-- Whether a value that is not empty comes out as it went in, or trimmed. -/
def trimsAtMost : Standard → Bool
  | required | fallback | enum | trim => true
  | number | boolean => false

def complaint? (args : List String) : Standard → Option (String → Cause)
  | enum => if args = [] then none else some (.notAnOption args)
  | number => some .notNumeric
  | boolean => some .notBoolean
  | required | fallback | trim => none

theorem atMostTrimmed_of_apply (hs : validator.trimsAtMost) (hv : value ≠ "")
    (h : validator.apply args value = .ok result) : AtMostTrimmed value result := by
  rcases apply_ok_cases h with rfl | ⟨-, he, -⟩ | ⟨rfl, -⟩ | ⟨rfl, -⟩ | ⟨-, rfl⟩
  · exact .inl rfl
  · exact absurd he hv
  · cases hs
  · cases hs
  · exact .inr rfl

theorem eq_complaint (hc : validator.complaint? args = some complaint) (hv : value ≠ "")
    (h : validator.apply args value = .error cause) : cause = complaint value := by
  cases validator with
  | required | fallback | trim => cases hc
  | enum =>
    rw [complaint?] at hc
    split at hc <;> cases hc
    rename_i ha
    rw [apply, if_neg ha, if_neg hv] at h
    split at h <;> cases h
    rfl
  | number =>
    cases hc
    rw [apply] at h
    split at h <;> cases h
    rfl
  | boolean =>
    cases hc
    rw [apply, if_neg hv] at h
    split at h <;> cases h
    rfl

theorem complaint_quotes (hc : validator.complaint? args = some complaint) (value : String) :
    (complaint value).withoutValue = complaint "" ∧ (complaint value).quoted? = some value := by
  cases validator with
  | required | fallback | trim => cases hc
  | enum =>
    rw [complaint?] at hc
    split at hc <;> cases hc
    exact ⟨rfl, rfl⟩
  | number | boolean =>
    cases hc
    exact ⟨rfl, rfl⟩

end Standard

def Validator.trimsAtMost : Validator → Bool
  | standard validator => validator.trimsAtMost
  | custom _ => false

/-- The words of a link that come before the value it quotes. -/
def Call.lead? (link : Call) (key : String) : Option String :=
  ((Standard.ofName? link.name).bind fun validator => validator.complaint? link.args).map
    fun complaint => (Rejection.mk link.name key (complaint "")).text

namespace Chain

variable {registry : Registry} {key input value lead : String} {link : Call} {chain : Chain}
  {position : Nat} {rejection : Rejection}

theorem atMostTrimmed_of_run (hi : trim input.toList ≠ [])
    (hs : ∀ link ∈ chain, ∀ called ∈ registry.get? link.name, called.trimsAtMost)
    (h : (run registry key chain input).1 = .ok value) : AtMostTrimmed input value := by
  induction chain generalizing input with
  | nil =>
    cases h
    exact .inl rfl
  | cons link rest ih =>
    obtain ⟨hlink, hrest⟩ := List.forall_mem_cons.mp hs
    cases hv : registry.get? link.name with
    | none =>
      rw [run_cons_of_unknown hv] at h
      exact ih hi hrest h
    | some called =>
      cases ha : called.call link.name key input link.args with
      | error refusal =>
        rw [run_cons_of_error hv ha] at h
        cases h
      | ok next =>
        rw [run_cons_of_ok hv ha] at h
        have ht := hlink called hv
        cases called with
        | custom => cases ht
        | standard validator =>
          have hnext : AtMostTrimmed input next := Standard.atMostTrimmed_of_apply ht
            (ne_empty_of_not_blank hi) (Validator.apply_of_call_ok ha)
          have hlater : AtMostTrimmed next value := ih (by rwa [hnext.trim_eq]) hrest h
          exact hnext.trans hlater

theorem FailsAt.exists_text_eq (hi : trim input.toList ≠ [])
    (hl : chain[position]? = some link) (hq : link.lead? key = some lead)
    (hs : ∀ earlier ∈ chain.take position, ∀ called ∈ registry.get? earlier.name,
      called.trimsAtMost)
    (hf : FailsAt registry key chain input position rejection) :
    ∃ value, (run registry key (chain.take position) input).1 = .ok value ∧
      AtMostTrimmed input value ∧ rejection.text = lead ++ value := by
  obtain ⟨failing, called, value, hl', hr, hv, ha⟩ := hf
  obtain rfl : link = failing := Option.some.inj (hl.symm.trans hl')
  have ht := atMostTrimmed_of_run hi hs hr
  obtain ⟨complaint, hc, rfl⟩ := Option.map_eq_some_iff.mp hq
  obtain ⟨validator, hn, hc⟩ := Option.bind_eq_some_iff.mp hc
  obtain rfl : .standard validator = called :=
    Option.some.inj ((Registry.get?_of_standard hn).symm.trans hv)
  obtain ⟨cause, hcause, rfl⟩ := Validator.apply_of_call_error ha
  obtain rfl := Standard.eq_complaint hc (ht.ne_empty hi) hcause
  obtain ⟨hw, hquoted⟩ := Standard.complaint_quotes hc value
  refine ⟨value, hr, ht, ?_⟩
  rw [Rejection.text_eq, hquoted, Option.getD_some, Rejection.withoutValue, hw]

end Chain

namespace Report

variable {input value : String}

theorem exists_ending? {message : String} (hv : AtMostTrimmed input value) (hne : value ≠ "")
    (hm : value.toList <:+ message.toList) :
    ∃ ending, ending? message input = some ending ∧ value.toList <:+ ending.toList := by
  unfold ending?
  rcases hv with rfl | rfl
  · exact ⟨value, List.find?_cons_of_pos (by simpa using ⟨hne, hm⟩), List.suffix_rfl⟩
  · by_cases hin : input.toList ≠ [] ∧ input.toList <:+ message.toList
    · -- the input is an ending by accident, and a longer one than its trim
      refine ⟨input, List.find?_cons_of_pos (by simpa using hin), ?_⟩
      refine List.suffix_of_suffix_length_le hm hin.2 ?_
      rw [String.toList_ofList]
      exact length_trim_le _
    · have ht : trim input.toList ≠ [] := by simpa using hne
      rw [String.toList_ofList] at hm
      rw [List.find?_cons_of_neg (by simpa using hin)]
      exact ⟨_, List.find?_cons_of_pos (by simpa using ⟨ht, hm⟩), List.suffix_rfl⟩

theorem exists_redact_eq (hv : AtMostTrimmed input value) (hne : value ≠ "") (lead : String) :
    ∃ start rest, lead = start ++ rest ∧ redact false (lead ++ value) input = start ++ mask := by
  have hm : value.toList <:+ (lead ++ value).toList := by
    rw [String.toList_append]
    exact List.suffix_append _ _
  obtain ⟨ending, he, before, hb⟩ := exists_ending? hv hne hm
  rcases redact_cases (lead ++ value) input with ⟨start, found, hf, hs, hr⟩ | ⟨hn, -⟩
  · obtain rfl : ending = found := Option.some.inj (he.symm.trans hf)
    have hending : ending = String.ofList before ++ value := by
      apply String.toList_inj.mp
      rw [String.toList_append, String.toList_ofList, hb]
    rw [hending, ← String.append_assoc] at hs
    exact ⟨start, String.ofList before, (String.append_left_inj value).mp hs, hr⟩
  · rw [hn] at he
    cases he

end Report

namespace Rule

variable {registry : Registry} {rule : Rule} {input lead : String} {link : Call} {position : Nat}
  {rejection : Rejection}

/-- If a link that quotes its value rejects one that is not blank and that the links before it have
at most trimmed, its message ends with that value. Of what is before the value, which the link and
the key alone determine, a beginning is shown, and then the mask. -/
theorem row_of_at_most_trimmed (hi : trim input.toList ≠ [])
    (hl : rule.chain[position]? = some link) (hq : link.lead? rule.key = some lead)
    (hs : ∀ earlier ∈ rule.chain.take position, ∀ called ∈ registry.get? earlier.name,
      called.trimsAtMost)
    (hf : rule.chain.FailsAt registry rule.key input position rejection) :
    ∃ value start rest,
      (Chain.run registry rule.key (rule.chain.take position) input).1 = .ok value ∧
      AtMostTrimmed input value ∧ lead = start ++ rest ∧
      (rule.judge registry input).1 = ⟨rule.key, input, .failed (lead ++ value)⟩ ∧
      Report.row false (rule.judge registry input).1 =
        ⟨rule.key, "failed", Report.mask, some (start ++ Report.mask)⟩ := by
  obtain ⟨value, hrun, hv, htext⟩ := hf.exists_text_eq hi hl hq hs
  obtain ⟨start, rest, hlead, hr⟩ := Report.exists_redact_eq hv (hv.ne_empty hi) lead
  have hjudge := judge_of_error hf.run_eq
  rw [htext] at hjudge
  refine ⟨value, start, rest, hrun, hv, hlead, hjudge, ?_⟩
  have hshown : Report.shown false input = Report.mask := by
    simp [Report.shown, ne_empty_of_not_blank hi]
  rw [hjudge, Report.row, hshown]
  simp only [Verdict.message?, Option.map_some, hr]
  rfl

/-- The input with its blank is an ending of the message too, so the blank before the trimmed value
is masked with it. -/
theorem row_of_at_most_trimmed_of_blank :
    let rule : Rule := ⟨"A", [⟨"required", []⟩, ⟨"trim", []⟩, ⟨"number", []⟩]⟩
    let lead := "[number]: invalid value for A. Should be numeric: "
    let message := "[number]: invalid value for A. Should be numeric:********"
    trim " x".toList ≠ [] ∧ Call.lead? ⟨"number", []⟩ "A" = some lead ∧
      (∀ earlier ∈ rule.chain.take 2, ∀ called ∈ Registry.standard.get? earlier.name,
        called.trimsAtMost) ∧
      rule.chain.FailsAt .standard "A" " x" 2 ⟨"number", "A", .notNumeric "x"⟩ ∧
      Report.row false (rule.judge .standard " x").1 =
        ⟨"A", "failed", "********", some message⟩ ∧
      ∃ start rest, lead = start ++ rest ∧ message = start ++ Report.mask := by
  intro rule lead message
  have hi : trim " x".toList ≠ [] := by decide
  have hq : Call.lead? ⟨"number", []⟩ "A" = some lead := by decide +kernel
  have hs : ∀ earlier ∈ rule.chain.take 2, ∀ called ∈ Registry.standard.get? earlier.name,
      called.trimsAtMost := by decide
  have hf : rule.chain.FailsAt .standard "A" " x" 2 ⟨"number", "A", .notNumeric "x"⟩ :=
    ⟨⟨"number", []⟩, .standard .number, "x", rfl, by decide +kernel, rfl, by decide +kernel⟩
  have hrow : Report.row false (rule.judge .standard " x").1 =
      ⟨"A", "failed", "********", some message⟩ := by decide +kernel
  obtain ⟨-, start, rest, -, -, hlead, -, hr⟩ :=
    @row_of_at_most_trimmed .standard rule " x" lead ⟨"number", []⟩ 2 _ hi rfl hq hs hf
  have hm := congrArg Report.Row.message (hrow.symm.trans hr)
  exact ⟨hi, hq, hs, hf, hrow, start, rest, hlead, Option.some.inj hm⟩

end Rule

end EnvTemplate
