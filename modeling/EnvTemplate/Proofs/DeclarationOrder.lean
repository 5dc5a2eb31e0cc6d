import EnvTemplate.Proofs.Influence

namespace EnvTemplate

variable {verdicts others : Verdicts}

theorem Rule.judgeAll_perm (registry : Registry) (environment : String → Option String)
    (file : Bindings) {rules reordered : List Rule} (h : rules.Perm reordered) :
    (judgeAll registry environment file rules).1.Perm
      (judgeAll registry environment file reordered).1 :=
  (h.map _).map _

namespace Store

variable {store other : Store} {overwrite : Bool} {entries reordered : List (String × String)}

structure Same (store other : Store) : Prop where
  isProcess : other.isProcess = store.isProcess
  bytes? : ∀ key, other.bytes? key = store.bytes? key

theorem Same.refl (store : Store) : store.Same store := ⟨rfl, fun _ => rfl⟩

theorem Same.value? (h : store.Same other) (key : String) :
    other.value? key = store.value? key :=
  value?_congr h.isProcess (h.bytes? key)

theorem valuesOf_perm (h : entries.Perm reordered) (hn : (entries.map Prod.fst).Nodup)
    (key : String) : valuesOf key entries = valuesOf key reordered := by
  have hf := h.filter fun p => p.1 = key
  have hone : ∀ l : List (String × String), (l.map Prod.fst).Nodup →
      (l.filter fun p => p.1 = key).Pairwise fun _ _ => False := by
    intro l hl
    have hp : l.Pairwise fun p q => p.1 ≠ q.1 := List.pairwise_map.mp hl
    refine (hp.filter _).imp_of_mem ?_
    intro p q hp hq hne
    have hpk : p.1 = key := by simpa using (List.mem_filter.mp hp).2
    have hqk : q.1 = key := by simpa using (List.mem_filter.mp hq).2
    exact hne (hpk.trans hqk.symm)
  have he := hf.eq_of_pairwise (fun _ _ _ _ hpq _ => hpq.elim) (hone entries hn)
    (hone reordered ((h.map _).nodup_iff.mp hn))
  rw [valuesOf, valuesOf, he]

theorem Same.setAll (h : store.Same other) (hp : entries.Perm reordered)
    (hn : (entries.map Prod.fst).Nodup) (ha : ∀ p ∈ entries, store.accepts p.1 p.2) :
    (store.setAll overwrite entries).Same (other.setAll overwrite reordered) := by
  have hb : ∀ p ∈ reordered, other.accepts p.1 p.2 := fun p hm => by
    rw [accepts_congr h.isProcess]
    exact ha p (hp.mem_iff.mpr hm)
  refine ⟨by rw [isProcess_setAll, isProcess_setAll, h.isProcess], fun key => ?_⟩
  have hkeys : key ∈ reordered.map Prod.fst ↔ key ∈ entries.map Prod.fst :=
    (hp.map _).mem_iff.symm
  by_cases hk : key ∈ entries.map Prod.fst
  · have hv : valuesOf key entries ≠ [] := fun he => valuesOf_eq_nil_iff.mp he hk
    have hl : (store.setAll overwrite entries).value? key =
        some (settled overwrite (store.value? key) (valuesOf key entries)) := by
      rw [value?_setAll ha, foldl_settle _ _ hv]
    have hr : (other.setAll overwrite reordered).value? key =
        some (settled overwrite (store.value? key) (valuesOf key entries)) := by
      rw [value?_setAll hb, ← valuesOf_perm hp hn, h.value?, foldl_settle _ _ hv]
    rw [bytes?_of_value? hl, bytes?_of_value? hr]
  · rw [bytes?_setAll_of_not_mem hk, bytes?_setAll_of_not_mem (mt hkeys.mp hk), h.bytes?]

theorem Same.publish (h : store.Same other) (hp : verdicts.Perm others)
    (hn : (verdicts.map Verdict.key).Nodup) (overwrite : Bool) :
    (∃ after changed, store.publish overwrite verdicts = (.ok verdicts, after) ∧
        other.publish overwrite others = (.ok others, changed) ∧ after.Same changed) ∨
      ∃ refused reordered, store.publish overwrite verdicts = (.error refused, store) ∧
        other.publish overwrite others = (.error reordered, other) ∧ refused.Perm reordered := by
  have hscreened : (store.screened verdicts).Perm (other.screened others) := by
    rw [screened_congr h.isProcess]
    exact hp.map _
  have hall : (store.screened verdicts).allOk = (other.screened others).allOk := hscreened.all_eq
  cases ho : (store.screened verdicts).allOk with
  | true =>
    have hkeys : (verdicts.pairs.map Prod.fst).Nodup := by rwa [keys_pairs]
    exact .inl ⟨_, _, publish_of_screened ho overwrite, publish_of_screened (hall ▸ ho) overwrite,
      h.setAll (hp.map _) hkeys (accepts_of_screened ho)⟩
  | false =>
    exact .inr ⟨_, _, publish_of_refused ho overwrite, publish_of_refused (hall ▸ ho) overwrite,
      hscreened⟩

end Store

namespace Publisher

variable {publisher : Publisher} {left right : World}

theorem nodup_judged (publisher : Publisher) (world : World) :
    ((publisher.judged world).1.map Verdict.key).Nodup :=
  nodup_validate publisher world

theorem judged_perm (hs : left.store.Same right.store)
    (he : right.files.readText publisher.envFile = left.files.readText publisher.envFile)
    (ht : (EnvFile.parse (left.files.readText publisher.template)).entries.Perm
      (EnvFile.parse (right.files.readText publisher.template)).entries) :
    (publisher.judged left).1.Perm (publisher.judged right).1 := by
  have hr : (publisher.rules left.files).Perm (publisher.rules right.files) := ht.map _
  have hv : (fun key => right.store.value? key) = fun key => left.store.value? key :=
    funext hs.value?
  rw [judged, judged, he, hv]
  exact Rule.judgeAll_perm _ _ _ hr

/-- The order in which a template declares its keys is the order of the verdicts and nothing more:
what is published, or what fails, is the same. -/
theorem publish_of_reordered (hs : left.store.Same right.store)
    (he : right.files.readText publisher.envFile = left.files.readText publisher.envFile)
    (ht : (EnvFile.parse (left.files.readText publisher.template)).entries.Perm
      (EnvFile.parse (right.files.readText publisher.template)).entries) :
    (∃ verdicts others, (publisher.publish left).1 = .ok verdicts ∧
        (publisher.publish right).1 = .ok others ∧ verdicts.Perm others ∧
        (publisher.publish left).2.store.Same (publisher.publish right).2.store) ∨
      ∃ refused others, (publisher.publish left).1 = .error refused ∧
        (publisher.publish right).1 = .error others ∧ refused.Perm others ∧
        refused.failures.Perm others.failures ∧
        (publisher.publish left).2.store = left.store ∧
        (publisher.publish right).2.store = right.store := by
  have hp := judged_perm hs he ht
  rw [publish_fst, publish_fst, publish_store, publish_store]
  rcases hs.publish hp (nodup_judged publisher left) publisher.settings.overwrite with
    ⟨after, changed, hl, hr, hsame⟩ | ⟨refused, reordered, hl, hr, hrefused⟩
  · rw [hl, hr]
    exact .inl ⟨_, _, rfl, rfl, hp, hsame⟩
  · rw [hl, hr]
    exact .inr ⟨_, _, rfl, rfl, hrefused, hrefused.filterMap _, rfl, rfl⟩

/-- Three keys in two orders: one that takes its fallback, one that may be overwritten only because
it is empty, and one that keeps what it has. -/
theorem publish_of_reordered_of_three :
    let publisher : Publisher := ⟨Path.ofText ".", Settings.ofNames "" "" false []⟩
    let vars := [("B", "".toUTF8), ("C", " x".toUTF8), ("U", ⟨#[0xFF]⟩)]
    let left : World := { World.ofTemplate "A=fallback(1)\nB=fallback(2)|number\nC=trim" with
      store := .process (OrderedMap.ofList vars) }
    let right : World := { World.ofTemplate "C=trim\nB=fallback(2)|number\nA=fallback(1)" with
      store := .process (OrderedMap.ofList vars) }
    (publisher.publish left).1 = .ok [⟨"A", "1", .ok⟩, ⟨"B", "2", .ok⟩, ⟨"C", "x", .ok⟩] ∧
      (publisher.publish right).1 = .ok [⟨"C", "x", .ok⟩, ⟨"B", "2", .ok⟩, ⟨"A", "1", .ok⟩] ∧
      (publisher.publish left).2.store.Same (publisher.publish right).2.store ∧
      (publisher.publish right).2.store.bytes? "C" = some " x".toUTF8 := by
  intro publisher vars left right
  have hl : (publisher.publish left).1 =
      .ok [⟨"A", "1", .ok⟩, ⟨"B", "2", .ok⟩, ⟨"C", "x", .ok⟩] := by decide +kernel
  have hr : (publisher.publish right).1 =
      .ok [⟨"C", "x", .ok⟩, ⟨"B", "2", .ok⟩, ⟨"A", "1", .ok⟩] := by decide +kernel
  have ht : (EnvFile.parse (left.files.readText publisher.template)).entries.Perm
      (EnvFile.parse (right.files.readText publisher.template)).entries := by decide +kernel
  have he : right.files.readText publisher.envFile = left.files.readText publisher.envFile := by
    decide +kernel
  have hc : (publisher.publish right).2.store.bytes? "C" = some " x".toUTF8 := by decide +kernel
  have hs : left.store.Same right.store := .refl (.process (OrderedMap.ofList vars))
  rcases publish_of_reordered hs he ht with
    ⟨verdicts, others, -, -, -, hsame⟩ | ⟨refused, others, hf, -⟩
  · exact ⟨hl, hr, hsame, hc⟩
  · rw [hl] at hf
    cases hf

end Publisher

end EnvTemplate
