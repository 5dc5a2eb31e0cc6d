import EnvTemplate.Proofs.History
import EnvTemplate.Proofs.KeptValue
import EnvTemplate.Proofs.Simulation

namespace EnvTemplate

namespace Store

variable {store left right : Store} {overwrite : Bool} {verdicts published refused : Verdicts}
  {key : String}

theorem settled_congr {old other : Option String} (h : other.getD "" = old.getD "")
    (overwrite : Bool) (values : List String) :
    settled overwrite other values = settled overwrite old values := by
  simp only [settled, h]

theorem publish_of_ok (h : (store.publish overwrite verdicts).1 = .ok published) :
    (store.screened verdicts).allOk := by
  by_contra hs
  rw [publish_of_refused (Bool.eq_false_iff.mpr hs)] at h
  cases h

theorem publish_of_error (h : (store.publish overwrite verdicts).1 = .error refused) :
    refused = store.screened verdicts ∧ (store.screened verdicts).allOk = false := by
  cases ho : (store.screened verdicts).allOk with
  | true =>
    rw [publish_of_screened ho] at h
    cases h
  | false =>
    rw [publish_of_refused ho] at h
    exact ⟨(Except.error.inj h).symm, rfl⟩

theorem answer_publish_congr (hk : right.isProcess = left.isProcess) (overwrite : Bool)
    (verdicts : Verdicts) :
    (right.publish overwrite verdicts).1 = (left.publish overwrite verdicts).1 := by
  have hs := screened_congr hk verdicts
  by_cases ho : (left.screened verdicts).allOk
  · rw [publish_of_screened ho, publish_of_screened (hs ▸ ho)]
  · have hf := Bool.eq_false_iff.mpr ho
    rw [publish_of_refused hf, publish_of_refused (hs ▸ hf), hs]

theorem value?_publish (h : (store.publish overwrite verdicts).1 = .ok published)
    (hm : key ∈ verdicts.map Verdict.key) :
    (store.publish overwrite verdicts).2.value? key = some (settled overwrite (store.value? key)
      (valuesOf key verdicts.pairs)) := by
  have hs := publish_of_ok h
  have hv : valuesOf key verdicts.pairs ≠ [] := by
    rw [Ne, valuesOf_eq_nil_iff, keys_pairs]
    exact not_not_intro hm
  rw [publish_of_screened hs, value?_setAll (accepts_of_screened hs), foldl_settle _ _ hv]

theorem bytes?_publish_of_not_mem (h : key ∉ verdicts.map Verdict.key) :
    (store.publish overwrite verdicts).2.bytes? key = store.bytes? key := by
  rw [publish_eq_setAll]
  refine bytes?_setAll_of_not_mem ?_
  unfold publishable
  split
  · rwa [keys_pairs]
  · exact List.not_mem_nil

theorem isProcess_publish (store : Store) (overwrite : Bool) (verdicts : Verdicts) :
    (store.publish overwrite verdicts).2.isProcess = store.isProcess := by
  rw [publish_eq_setAll, isProcess_setAll]

end Store

namespace Publisher

variable {publisher : Publisher} {left right : World}

def declared (publisher : Publisher) (world : World) : List String :=
  (EnvFile.parse (world.files.readText publisher.template)).keys

theorem publish_fst (publisher : Publisher) (world : World) : (publisher.publish world).1 =
    (world.store.publish publisher.settings.overwrite (publisher.judged world).1).1 := by
  rw [publish, validate_eq]

theorem publish_store (publisher : Publisher) (world : World) :
    (publisher.publish world).2.store =
      (world.store.publish publisher.settings.overwrite (publisher.judged world).1).2 := by
  rw [publish, validate_eq]

theorem keys_judged (publisher : Publisher) (world : World) :
    (publisher.judged world).1.map Verdict.key = publisher.declared world :=
  (keys_validate publisher world).trans (keys_rules publisher world.files)

theorem input_eq (publisher : Publisher) (world : World) (key : String) :
    publisher.input world key =
      if (world.store.value? key).getD "" ≠ "" then (world.store.value? key).getD ""
      else ((EnvFile.parse (world.files.readText publisher.envFile)).get? key).getD "" :=
  Rule.input_eq _ _ key

theorem judged_congr_input
    (ht : right.files.readText publisher.template = left.files.readText publisher.template)
    (hi : ∀ key ∈ publisher.declared left,
      publisher.input right key = publisher.input left key) :
    publisher.judged right = publisher.judged left := by
  have hr : publisher.rules right.files = publisher.rules left.files := by rw [rules, rules, ht]
  rw [judged, judged, hr]
  refine Rule.judgeAll_congr fun rule hm => hi rule.key ?_
  rw [declared, ← keys_rules]
  exact List.mem_map_of_mem hm

/-- What is published depends on the values of the declared keys alone, where an empty value counts
as none and the env file is looked at for keys without a value only. Nothing else is touched. -/
theorem publish_eq_of_declared
    (hk : right.store.isProcess = left.store.isProcess)
    (ht : right.files.readText publisher.template = left.files.readText publisher.template)
    (hs : ∀ key ∈ publisher.declared left,
      (right.store.value? key).getD "" = (left.store.value? key).getD "")
    (he : ∀ key ∈ publisher.declared left, (left.store.value? key).getD "" = "" →
      ((EnvFile.parse (right.files.readText publisher.envFile)).get? key).getD "" =
        ((EnvFile.parse (left.files.readText publisher.envFile)).get? key).getD "") :
    (publisher.publish right).1 = (publisher.publish left).1 ∧
      (∀ verdicts, (publisher.publish left).1 = .ok verdicts →
        ∀ key ∈ publisher.declared left, (publisher.publish right).2.store.value? key =
          (publisher.publish left).2.store.value? key) ∧
      ∀ world ∈ [left, right], ∀ key ∉ publisher.declared left,
        (publisher.publish world).2.store.bytes? key = world.store.bytes? key ∧
          (publisher.publish world).2.store.value? key = world.store.value? key := by
  have hj : publisher.judged right = publisher.judged left := by
    refine judged_congr_input ht fun key hm => ?_
    rw [input_eq, input_eq, hs key hm]
    split
    · rfl
    · rename_i hn
      exact he key hm (not_not.mp hn)
  have hd : publisher.declared right = publisher.declared left := by rw [declared, declared, ht]
  refine ⟨?_, fun verdicts ho key hm => ?_, fun world hw key hn => ?_⟩
  · rw [publish_fst, publish_fst, hj, Store.answer_publish_congr hk]
  · have hmem : key ∈ (publisher.judged left).1.map Verdict.key := by rwa [keys_judged]
    rw [publish_fst] at ho
    have hr := (Store.answer_publish_congr hk _ _).trans ho
    rw [publish_store, publish_store, hj, Store.value?_publish ho hmem,
      Store.value?_publish hr hmem, Store.settled_congr (hs key hm)]
  · have hnot : key ∉ (publisher.judged world).1.map Verdict.key := by
      rw [keys_judged]
      rcases List.mem_pair.mp hw with rfl | rfl
      · exact hn
      · rwa [hd]
    have hb : (publisher.publish world).2.store.bytes? key = world.store.bytes? key := by
      rw [publish_store, Store.bytes?_publish_of_not_mem hnot]
    have hp : (publisher.publish world).2.store.isProcess = world.store.isProcess := by
      rw [publish_store, Store.isProcess_publish]
    exact ⟨hb, Store.value?_congr hp hb⟩

/-- An empty variable or none, another value in the file for a key that has one in the environment,
and variables that are not declared. -/
theorem publish_eq_of_declared_of_shadowed :
    let publisher : Publisher := ⟨Path.ofText ".", Settings.ofNames "" "" false []⟩
    let world := World.ofTemplate "A=fallback(1)\nB=number\nC=trim"
    let file (text : String) := world.files.place (Path.ofText ".env") (.file text.toUTF8)
    let left : World := { world with
      store := .process (OrderedMap.ofList [("A", "".toUTF8), ("C", "x".toUTF8), ("U", ⟨#[0xFF]⟩)])
      files := file "B=+2\nC=y" }
    let right : World := { world with
      store := .process (OrderedMap.ofList [("V", "1".toUTF8), ("C", "x".toUTF8)])
      files := file "D=3\nC=z\nB=+2" }
    (publisher.publish left).1 = .ok [⟨"A", "1", .ok⟩, ⟨"B", "2", .ok⟩, ⟨"C", "x", .ok⟩] ∧
      (publisher.publish right).1 = (publisher.publish left).1 ∧
      (∀ key ∈ ["A", "B", "C"], (publisher.publish right).2.store.value? key =
        (publisher.publish left).2.store.value? key) ∧
      (publisher.publish left).2.store.bytes? "U" = some ⟨#[0xFF]⟩ ∧
      (publisher.publish right).2.store.bytes? "V" = some "1".toUTF8 := by
  intro publisher world file left right
  have hd : publisher.declared left = ["A", "B", "C"] := by decide +kernel
  have ho : (publisher.publish left).1 =
      .ok [⟨"A", "1", .ok⟩, ⟨"B", "2", .ok⟩, ⟨"C", "x", .ok⟩] := by decide +kernel
  have ht : right.files.readText publisher.template = left.files.readText publisher.template := by
    decide +kernel
  have hs : ∀ key ∈ publisher.declared left,
      (right.store.value? key).getD "" = (left.store.value? key).getD "" := by
    rw [hd]
    decide +kernel
  have he : ∀ key ∈ publisher.declared left, (left.store.value? key).getD "" = "" →
      ((EnvFile.parse (right.files.readText publisher.envFile)).get? key).getD "" =
        ((EnvFile.parse (left.files.readText publisher.envFile)).get? key).getD "" := by
    rw [hd]
    decide +kernel
  have hk : right.store.isProcess = left.store.isProcess := rfl
  obtain ⟨hsame, hvalues, hrest⟩ := publish_eq_of_declared hk ht hs he
  rw [hd] at hvalues hrest
  have hu : left.store.bytes? "U" = some ⟨#[0xFF]⟩ := by decide +kernel
  have hv : right.store.bytes? "V" = some "1".toUTF8 := by decide +kernel
  exact ⟨ho, hsame, hvalues _ ho, (hrest left (by simp) "U" (by decide)).1.trans hu,
    (hrest right (by simp) "V" (by decide)).1.trans hv⟩

end Publisher

end EnvTemplate
