import EnvTemplate.Proofs.Influence
import EnvTemplate.Proofs.LineSplit
import EnvTemplate.Proofs.Redaction

namespace EnvTemplate

open Text

namespace Cause

variable {cause : Cause} {key : String}

def Plain : Cause → Prop
  | notAnOption options _ => ∀ option ∈ options, OneLine option
  | stated _ => False
  | _ => True

theorem oneLine_withoutValue (hk : OneLine key) (hp : cause.Plain) :
    OneLine (cause.withoutValue.message key) := by
  unfold message
  cases cause with
  | notAnOption options value =>
    have ho : OneLine (", ".intercalate options) := oneLine_intercalate (by decide) hp
    simp only [withoutValue, toString, oneLine_append_iff, hk, ho, and_true]
    decide
  | stated message => exact hp.elim
  | _ =>
    simp only [withoutValue, toString, oneLine_append_iff, hk, and_true]
    decide

end Cause

theorem Standard.oneLine_of_ofName? {name : String} {validator : Standard}
    (h : ofName? name = some validator) : OneLine name := by
  have hall : ∀ p ∈ names, OneLine p.1 := by decide
  obtain ⟨before, after, he, -⟩ := List.lookup_eq_some_iff.mp h
  refine hall (name, validator) ?_
  rw [he]
  exact List.mem_append_right _ List.mem_cons_self

theorem Standard.plain_of_apply {validator : Standard} {args : List String} {value : String}
    {cause : Cause} (h : validator.apply args value = .error cause)
    (ha : ∀ arg ∈ args, OneLine arg) :
    cause.Plain ∧ ∀ text ∈ cause.quoted?, text = value := by
  have silent : ∀ {c : Cause}, c.quoted? = none → ∀ text ∈ c.quoted?, text = value :=
    fun hc text ht => by
      rw [hc] at ht
      cases ht
  have loud : ∀ {c : Cause}, c.quoted? = some value → ∀ text ∈ c.quoted?, text = value :=
    fun hc text ht => Option.some.inj (ht.symm.trans hc)
  cases validator with
  | required =>
    rw [apply] at h
    split at h <;> cases h
    exact ⟨trivial, silent rfl⟩
  | fallback =>
    rw [apply.eq_def] at h
    dsimp only at h
    split at h <;> cases h
    exact ⟨trivial, silent rfl⟩
  | enum =>
    rw [apply] at h
    split at h
    · cases h
      exact ⟨trivial, silent rfl⟩
    · split at h
      · cases h
        exact ⟨trivial, silent rfl⟩
      · split at h <;> cases h
        exact ⟨ha, loud rfl⟩
  | number =>
    rw [apply] at h
    split at h <;> cases h
    exact ⟨trivial, loud rfl⟩
  | boolean =>
    rw [apply] at h
    split at h
    · cases h
      exact ⟨trivial, silent rfl⟩
    · split at h <;> cases h
      exact ⟨trivial, loud rfl⟩
  | trim =>
    rw [apply] at h
    cases h

theorem Rejection.oneLine_text_iff {r : Rejection} (hv : OneLine r.validator) (hk : OneLine r.key)
    (hp : r.cause.Plain) : OneLine r.text ↔ ∀ value ∈ r.cause.quoted?, OneLine value := by
  have hw : OneLine r.withoutValue.text := by
    have hm : OneLine r.withoutValue.message := Cause.oneLine_withoutValue hk hp
    have hn : OneLine r.withoutValue.validator := hv
    rw [text, oneLine_append_iff, oneLine_append_iff, oneLine_append_iff]
    exact ⟨⟨⟨by decide, hn⟩, by decide⟩, hm⟩
  rw [text_eq, oneLine_append_iff]
  cases r.cause.quoted? with
  | none => simpa [OneLine] using hw
  | some value => simp [hw]

namespace Chain

variable {registry : Registry} {key input : String} {link : Call} {chain : Chain}
  {position : Nat} {rejection : Rejection}

theorem FailsAt.exists_apply (h : FailsAt .standard key chain input position rejection) :
    ∃ link ∈ chain, ∃ validator value cause, Standard.ofName? link.name = some validator ∧
      (run .standard key (chain.take position) input).1 = .ok value ∧
      validator.apply link.args value = .error cause ∧ rejection = ⟨link.name, key, cause⟩ := by
  obtain ⟨link, validator, value, hl, hr, hg, ha⟩ := h
  obtain ⟨builtIn, hn, rfl⟩ := Registry.get?_standard_eq_some_iff.mp hg
  obtain ⟨cause, hc, rfl⟩ := Validator.apply_of_call_error ha
  exact ⟨link, List.mem_of_getElem? hl, builtIn, value, cause, hn, hr, hc, rfl⟩

theorem oneLine_text_iff (h : (run .standard key chain input).1 = .error rejection)
    (hk : OneLine key) (ha : ∀ call ∈ chain, ∀ arg ∈ call.args, OneLine arg) :
    OneLine rejection.text ↔ ∀ value ∈ rejection.cause.quoted?, OneLine value := by
  obtain ⟨position, hf⟩ := exists_failsAt h
  obtain ⟨link, hl, validator, value, cause, hs, -, hc, rfl⟩ := hf.exists_apply
  exact Rejection.oneLine_text_iff (Standard.oneLine_of_ofName? hs) hk
    (Standard.plain_of_apply hc (ha link hl)).1

/-- Validators make no line feeds: one in a value that is quoted was in the input. -/
theorem oneLine_quoted (h : (run .standard key chain input).1 = .error rejection)
    (hi : OneLine input) (ha : ∀ call ∈ chain, ∀ arg ∈ call.args, OneLine arg) :
    ∀ value ∈ rejection.cause.quoted?, OneLine value := by
  obtain ⟨position, hf⟩ := exists_failsAt h
  obtain ⟨link, hl, validator, value, cause, -, hr, hc, rfl⟩ := hf.exists_apply
  intro text ht
  obtain rfl : text = value := (Standard.plain_of_apply hc (ha link hl)).2 text ht
  intro hm
  rcases mem_of_run hr hm with hm | ⟨call, hcall, arg, harg, hm⟩ | hw
  · exact hi hm
  · exact ha call (List.mem_of_mem_take hcall) arg harg hm
  · exact absurd hw (by decide)

end Chain

theorem Verdicts.lines_refusal_iff {verdicts : Verdicts} (h : verdicts.allOk = false) :
    lines verdicts.refusal = verdicts.failures.map (fun p => "Error: " ++ p.2) ↔
      ∀ message ∈ verdicts.messages, OneLine message := by
  have hne : verdicts.messages.map ("Error: " ++ ·) ≠ [] := by
    rw [Ne, List.map_eq_nil_iff, messages_eq_nil_iff, h]
    exact Bool.false_ne_true
  have hf : verdicts.failures.map (fun p => "Error: " ++ p.2) =
      verdicts.messages.map ("Error: " ++ ·) := by
    rw [← map_snd_failures, List.map_map]
    rfl
  have he : OneLine "Error: " := by decide
  rw [hf, refusal, lines_intercalate_iff hne]
  simp [oneLine_append_iff, he]

theorem Store.messages_screened (store : Store) {verdicts : Verdicts}
    (hk : ∀ v ∈ verdicts, OneLine v.key) :
    (∀ message ∈ (store.screened verdicts).messages, OneLine message) ↔
      ∀ v ∈ verdicts, ∀ message ∈ v.message?, OneLine message := by
  constructor
  · intro h v hv message hm
    have hfailed : ¬v.isOk := fun hok => by
      rw [Verdict.message?_eq_none_iff.mpr hok] at hm
      cases hm
    have hsame : store.screen v = v := by
      rw [screen_eq, if_neg fun ho => hfailed ho.1]
    refine h message (List.mem_filterMap.mpr ⟨v, ?_, hm⟩)
    exact hsame ▸ List.mem_map_of_mem hv
  · intro h message hm
    obtain ⟨screened, hs, hm⟩ := List.mem_filterMap.mp hm
    obtain ⟨v, hv, rfl⟩ := List.mem_map.mp hs
    rw [screen_eq] at hm
    split at hm
    · cases hm
      rw [oneLine_append_iff, oneLine_append_iff]
      exact ⟨⟨by decide, hk v hv⟩, by decide⟩
    · exact h v hv message hm

namespace Publisher

variable {publisher : Publisher} {world : World} {files : FileTree} {refused : Verdicts}

theorem oneLine_of_mem_rules {rule : Rule} (h : rule ∈ publisher.rules files) :
    OneLine rule.key ∧ ∀ call ∈ rule.chain, ∀ arg ∈ call.args, OneLine arg := by
  obtain ⟨p, hp, rfl⟩ := List.mem_map.mp h
  obtain ⟨hk, hv⟩ := EnvFile.clean_of_mem_parse hp
  exact ⟨hk.no_break, fun call hc arg ha hm => hv.no_break (Chain.mem_of_mem_parse hc ha hm)⟩

/-- A line feed in an input comes from the store, since a file gives single lines. -/
theorem oneLine_input {key : String} (h : ∀ value ∈ world.store.value? key, OneLine value) :
    OneLine (publisher.input world key) := by
  rw [input_eq]
  split
  · cases hv : world.store.value? key with
    | none => exact List.not_mem_nil
    | some value => exact h value hv
  · cases hg : (EnvFile.parse (world.files.readText publisher.envFile)).get? key with
    | none => exact List.not_mem_nil
    | some value => exact (EnvFile.clean_of_mem_parse (OrderedMap.mem_of_get? hg)).2.no_break

theorem messages_judged_iff (hr : publisher.settings.registry = .standard) :
    (∀ v ∈ (publisher.judged world).1, ∀ message ∈ v.message?, OneLine message) ↔
      ∀ rule ∈ publisher.rules world.files, ∀ rejection,
        (rule.chain.run .standard rule.key (publisher.input world rule.key)).1 = .error rejection →
          ∀ value ∈ rejection.cause.quoted?, OneLine value := by
  have hj : (publisher.judged world).1 = (publisher.rules world.files).map fun rule =>
      (rule.judge .standard (publisher.input world rule.key)).1 := by
    rw [judged, hr, Rule.judgeAll, List.map_map]
    rfl
  rw [hj, List.forall_mem_map]
  refine forall₂_congr fun rule hm => ?_
  obtain ⟨hk, ha⟩ := oneLine_of_mem_rules hm
  simp only [Option.mem_def, Rule.message?_judge]
  constructor
  · intro h rejection hrun
    exact (Chain.oneLine_text_iff hrun hk ha).mp (h _ ⟨rejection, hrun, rfl⟩)
  · rintro h message ⟨rejection, hrun, rfl⟩
    exact (Chain.oneLine_text_iff hrun hk ha).mpr (h rejection hrun)

/-- The text about a refused publication has one line for each failed key, in the order of the
template, exactly if no value that a built-in validator quotes holds a line feed. None does where
the values in the store have none. -/
theorem lines_refusal_iff_of_standard (hr : publisher.settings.registry = .standard)
    (h : (publisher.publish world).1 = .error refused) :
    refused.map Verdict.key = publisher.declared world ∧
      (lines refused.refusal = refused.failures.map (fun p => "Error: " ++ p.2) ↔
        ∀ rule ∈ publisher.rules world.files, ∀ rejection,
          (rule.chain.run .standard rule.key (publisher.input world rule.key)).1 =
              .error rejection →
            ∀ value ∈ rejection.cause.quoted?, '\n' ∉ value.toList) ∧
      ((∀ key ∈ publisher.declared world, ∀ value ∈ world.store.value? key, '\n' ∉ value.toList) →
        lines refused.refusal = refused.failures.map fun p => "Error: " ++ p.2) := by
  rw [publish_fst] at h
  obtain ⟨rfl, hfailed⟩ := Store.publish_of_error h
  have hkeys : ∀ v ∈ (publisher.judged world).1, OneLine v.key := fun v hv =>
    (isKey_of_mem_validate hv).no_break
  have hlines := Verdicts.lines_refusal_iff hfailed
  rw [Store.messages_screened world.store hkeys, messages_judged_iff hr] at hlines
  refine ⟨by rw [Store.keys_screened, keys_judged], hlines, fun hs => hlines.mpr ?_⟩
  intro rule hm rejection hrun
  have hdeclared : rule.key ∈ publisher.declared world := by
    rw [declared, ← keys_rules]
    exact List.mem_map_of_mem hm
  exact Chain.oneLine_quoted hrun (oneLine_input (hs rule.key hdeclared)) (oneLine_of_mem_rules hm).2

theorem lines_refusal_iff_of_two :
    let world : World := { World.ofTemplate "A=enum(a,b)\nB=required\nC=fallback(1)" with
      store := .memory (OrderedMap.ofList [("A", "qa"), ("C", ""), ("U", "x\ny")]) }
    let refused : Verdicts := [⟨"A", "qa", .failed ("[enum]: invalid value for key A. Should be " ++
        "one of these values: a, b. Value provided is qa")⟩,
      ⟨"B", "", .failed "[required]: value for B cannot be empty"⟩, ⟨"C", "1", .ok⟩]
    (usual.publish world).1 = .error refused ∧
      lines refused.refusal = [
        "Error: [enum]: invalid value for key A. Should be one of these values: a, b. Value " ++
          "provided is qa",
        "Error: [required]: value for B cannot be empty"] := by
  intro world refused
  have h : (usual.publish world).1 = .error refused := by decide +kernel
  have hd : usual.declared world = ["A", "B", "C"] := by decide +kernel
  have hs : ∀ key ∈ usual.declared world, ∀ value ∈ world.store.value? key,
      '\n' ∉ value.toList := by
    rw [hd]
    decide +kernel
  refine ⟨h, ((lines_refusal_iff_of_standard rfl h).2.2 hs).trans ?_⟩
  decide +kernel

/-- A line feed in a value of the environment ends the line of its key, and what follows it stands
there as a failure of its own. -/
theorem line_feed_in_value_forges_line :
    let world : World := { World.ofTemplate "A=enum(a,b)" with
      store := .memory (OrderedMap.ofList [("A", "x\nError: forged")]) }
    usual.settings.registry = .standard ∧
      ∃ refused, (usual.publish world).1 = .error refused ∧ refused.failures.length = 1 ∧
        lines refused.refusal = ["Error: [enum]: invalid value for key A. Should be one of these " ++
          "values: a, b. Value provided is x", "Error: forged"] ∧
        lines refused.refusal ≠ refused.failures.map fun p => "Error: " ++ p.2 := by
  intro world
  refine ⟨rfl, [⟨"A", "x\nError: forged", .failed ("[enum]: invalid value for key A. Should be " ++
    "one of these values: a, b. Value provided is x\nError: forged")⟩], ?_⟩
  decide +kernel

end Publisher

end EnvTemplate
