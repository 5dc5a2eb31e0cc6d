import EnvTemplate.Proofs.Run

namespace EnvTemplate

namespace Store

/-- The values that publishing sets: all, or none if one has failed or is not accepted. -/
def publishable (store : Store) (verdicts : Verdicts) : List (String × String) :=
  if (store.screened verdicts).allOk then verdicts.pairs else []

variable {store other : Store} {overwrite : Bool} {key value : String} {bytes : ByteArray}
  {entries : List (String × String)}

theorem setAll_append (store : Store) (overwrite : Bool) (first second : List (String × String)) :
    store.setAll overwrite (first ++ second) =
      (store.setAll overwrite first).setAll overwrite second :=
  List.foldl_append

theorem publish_eq_setAll (store : Store) (overwrite : Bool) (verdicts : Verdicts) :
    (store.publish overwrite verdicts).2 = store.setAll overwrite (store.publishable verdicts) := by
  unfold publishable
  split
  · rename_i h
    rw [publish_of_screened h]
  · rename_i h
    rw [publish_of_refused (Bool.eq_false_iff.mpr h)]
    rfl

theorem bytes?_of_value? (h : store.value? key = some value) :
    store.bytes? key = some value.toUTF8 := by
  cases store with
  | memory vars => exact congrArg (Option.map String.toUTF8) h
  | process vars =>
    rw [value?] at h
    split at h
    · obtain ⟨bytes, hb, ht⟩ := Option.bind_eq_some_iff.mp h
      rw [Text.Utf8.fromUTF8?_eq_some_iff] at ht
      exact ht ▸ hb
    · cases h

theorem bytes?_set_of_value? {held : String} (hv : store.value? key = some held) (hne : held ≠ "")
    (name value : String) : (store.set false name value).2.bytes? key = store.bytes? key := by
  by_cases ho : name = key
  · subst ho
    rw [set_eq, if_pos ⟨rfl, by rw [hv]; exact hne⟩]
  · exact bytes?_set_of_ne (Ne.symm ho)

theorem bytes?_setAll_of_value? {held : String} (hv : store.value? key = some held)
    (hne : held ≠ "") (entries : List (String × String)) :
    (store.setAll false entries).bytes? key = store.bytes? key := by
  induction entries generalizing store with
  | nil => rfl
  | cons p entries ih =>
    have hb := bytes?_set_of_value? hv hne p.1 p.2
    have hs := value?_congr (isProcess_set store false p.1 p.2) hb
    rw [setAll_cons, ih (hs.trans hv), hb]

theorem bytes?_setAll_of_refused (h : ∀ p ∈ entries, p.1 = key → ¬store.accepts p.1 p.2) :
    (store.setAll overwrite entries).bytes? key = store.bytes? key := by
  induction entries generalizing store with
  | nil => rfl
  | cons p entries ih =>
    have he : ∀ q ∈ entries, q.1 = key → ¬(store.set overwrite p.1 p.2).2.accepts q.1 q.2 := by
      intro q hq hk
      rw [accepts_set]
      exact h q (List.mem_cons_of_mem _ hq) hk
    rw [setAll_cons, ih he]
    by_cases hk : p.1 = key
    · rw [set_of_refused (h p List.mem_cons_self hk)]
    · exact bytes?_set_of_ne (Ne.symm hk)

theorem isSome_value?_set (h : (store.value? key).isSome) (overwrite : Bool) (name value : String) :
    ((store.set overwrite name value).2.value? key).isSome := by
  by_cases ha : store.accepts name value
  · rw [value?_set ha, settle]
    split
    · split
      · exact h
      · rfl
    · exact h
  · rwa [set_of_refused ha]

theorem isSome_value?_setAll (h : (store.value? key).isSome) (overwrite : Bool)
    (entries : List (String × String)) : ((store.setAll overwrite entries).value? key).isSome := by
  induction entries generalizing store with
  | nil => exact h
  | cons p entries ih => exact ih (isSome_value?_set h overwrite p.1 p.2)

theorem isSome_value?_setAll_of_accepted (hn : store.value? key = none) {p : String × String}
    (hp : p ∈ entries) (hk : p.1 = key) (ha : store.accepts p.1 p.2) (overwrite : Bool) :
    ((store.setAll overwrite entries).value? key).isSome := by
  induction entries generalizing store with
  | nil => cases hp
  | cons q entries ih =>
    by_cases hq : ((store.set overwrite q.1 q.2).2.value? key).isSome
    · exact isSome_value?_setAll hq overwrite entries
    · have hn' : (store.set overwrite q.1 q.2).2.value? key = none := by simpa using hq
      rcases List.mem_cons.mp hp with rfl | hp
      · rw [value?_set ha, if_pos hk.symm, hn, settle, if_neg fun hs => hs.2 rfl] at hn'
        cases hn'
      · refine ih hn' hp ?_
        rwa [accepts_set]

theorem bytes?_setAll_eq_iff (h : store.bytes? key = some bytes) (hne : bytes ≠ ByteArray.empty)
    (entries : List (String × String)) :
    (store.setAll false entries).bytes? key = some bytes ↔
      (store.value? key).isSome ∨ ∀ p ∈ entries, p.1 = key → ¬store.accepts p.1 p.2 := by
  constructor
  · intro hs
    by_cases hv : (store.value? key).isSome
    · exact .inl hv
    · refine .inr fun p hp hk ha => hv ?_
      have hn : store.value? key = none := by simpa using hv
      have ht := isSome_value?_setAll_of_accepted hn hp hk ha false
      -- the bytes have not changed, so what is read has not either
      rwa [value?_congr (isProcess_setAll store false entries) (hs.trans h.symm)] at ht
  · rintro (hv | hr)
    · obtain ⟨held, hv⟩ := Option.isSome_iff_exists.mp hv
      have hb : bytes = held.toUTF8 := Option.some.inj (h.symm.trans (bytes?_of_value? hv))
      have hh : held ≠ "" := by
        rintro rfl
        exact hne hb
      rw [bytes?_setAll_of_value? hv hh, h]
    · rw [bytes?_setAll_of_refused hr, h]

end Store

namespace Publisher

def Sparing (publisher : Publisher) : Step → Prop
  | .ask _ => publisher.settings.overwrite = false
  | .set overwrite _ _ | .commit overwrite _ => overwrite = false
  | .edit _ => True

def offer (publisher : Publisher) (world : World) : Step → List (String × String)
  | .ask .validate | .ask .forget | .edit _ => []
  | .ask .publish => world.store.publishable (publisher.validate world).1
  | .ask .restore => ((publisher.cache.read? world.files).map OrderedMap.entries).getD []
  | .ask (.run .production) =>
    match publisher.cache.read? world.files with
    | some bindings => bindings.entries
    | none => world.store.publishable (publisher.validate world).1
  | .ask (.run .development) =>
    match publisher.cache.clear world.files with
    | (.error _, _) => []
    | (.ok _, files) =>
      world.store.publishable (publisher.validate { world with files := files }).1
  | .set _ key value => [(key, value)]
  | .commit _ verdicts => world.store.publishable verdicts

/-- A history in which every step is one of a publisher of its own. -/
abbrev Chronicle := List (Publisher × Step)

def pass (world : World) (history : Chronicle) : World :=
  history.foldl (fun world (publisher, step) => publisher.step world step) world

def offers : World → Chronicle → List (String × String)
  | _, [] => []
  | world, (publisher, step) :: history =>
    publisher.offer world step ++ offers (publisher.step world step) history

variable {publisher : Publisher} {world : World} {history : Chronicle} {key : String}
  {bytes : ByteArray}

theorem store_publish (publisher : Publisher) (world : World) :
    (publisher.publish world).2.store = world.store.setAll publisher.settings.overwrite
      (world.store.publishable (publisher.validate world).1) := by
  rw [publish]
  exact Store.publish_eq_setAll _ _ _

theorem store_restore (publisher : Publisher) (world : World) :
    (publisher.restore world).2.store = world.store.setAll publisher.settings.overwrite
      ((publisher.cache.read? world.files).map OrderedMap.entries |>.getD []) := by
  cases hc : publisher.cache.read? world.files with
  | none =>
    rw [restore_of_none hc]
    rfl
  | some bindings =>
    rw [restore_of_read? hc]
    rfl

theorem store_run_production (publisher : Publisher) (world : World) :
    (publisher.run world .production).2.store = world.store.setAll publisher.settings.overwrite
      (publisher.offer world (.ask (.run .production))) := by
  have hr := cachedRun publisher world
  have hs := store_publish publisher world
  generalize publisher.run world .production = ending at hr ⊢
  cases hr with
  | loaded hl => simp only [offer, hl]
  | refused hl hp | kept hl hp | unkept hl hp | broken hl hp =>
    rw [hp] at hs
    simpa only [offer, hl] using hs

theorem store_run_development (publisher : Publisher) (world : World) :
    (publisher.run world .development).2.store = world.store.setAll publisher.settings.overwrite
      (publisher.offer world (.ask (.run .development))) := by
  have hr := freshRun publisher world
  generalize publisher.run world .development = ending at hr ⊢
  cases hr with
  | uncleared hc =>
    simp only [offer, hc]
    rfl
  | @refused files _ _ hc hp | @published files _ _ hc hp =>
    have hs := store_publish publisher { world with files := files }
    rw [hp] at hs
    simpa only [offer, hc] using hs

theorem store_step {step : Step} (h : publisher.Sparing step) :
    (publisher.step world step).store = world.store.setAll false (publisher.offer world step) := by
  cases step with
  | edit => rfl
  | set overwrite key value =>
    obtain rfl : overwrite = false := h
    rfl
  | commit overwrite verdicts =>
    obtain rfl : overwrite = false := h
    exact Store.publish_eq_setAll world.store false verdicts
  | ask request =>
    have ho : publisher.settings.overwrite = false := h
    rw [← ho]
    cases request with
    | validate => exact store_validate publisher world
    | forget => rfl
    | publish => exact store_publish publisher world
    | restore => exact store_restore publisher world
    | run mode =>
      cases mode with
      | production => exact store_run_production publisher world
      | development => exact store_run_development publisher world

theorem store_pass (h : ∀ s ∈ history, s.1.Sparing s.2) :
    (pass world history).store = world.store.setAll false (offers world history) := by
  induction history generalizing world with
  | nil => rfl
  | cons s history ih =>
    obtain ⟨hs, hr⟩ := List.forall_mem_cons.mp h
    rw [offers, Store.setAll_append, ← store_step hs, ← ih hr]
    rfl

/-- Without overwriting, bytes that are there and not empty are still there after any history exactly
if they can be read as text or no value is accepted under their name. -/
theorem kept_without_overwrite_iff (h : world.store.bytes? key = some bytes)
    (hne : bytes ≠ ByteArray.empty) (hs : ∀ s ∈ history, s.1.Sparing s.2) :
    (pass world history).store.bytes? key = some bytes ↔
      (world.store.value? key).isSome ∨
        ∀ p ∈ offers world history, p.1 = key → ¬world.store.accepts p.1 p.2 := by
  rw [store_pass hs]
  exact Store.bytes?_setAll_eq_iff h hne _

def ofTextAndByte : World :=
  { World.ofTemplate "A=fallback(3)\nC=fallback(4)" with
    store := .process (OrderedMap.ofList [("A", "old".toUTF8), ("B", ⟨#[0xFF]⟩)]) }

theorem kept_without_overwrite_of_text :
    let sparing : Publisher := ⟨Path.ofText ".", Settings.ofNames "" "" false []⟩
    let kept := (usual.run (World.ofTemplate "C=fallback(4)") .production).2.files
    let history : Chronicle := [(usual, .set false "A" "1"),
      (usual, .commit false [⟨"A", "2", .ok⟩, ⟨"C", "", .ok⟩]), (sparing, .ask .publish),
      (usual, .edit kept), (sparing, .ask .restore), (sparing, .ask (.run .production))]
    let after := (pass ofTextAndByte history).store
    after.bytes? "A" = some "old".toUTF8 ∧ after.bytes? "B" = some ⟨#[0xFF]⟩ ∧
      after.bytes? "C" = some "4".toUTF8 := by
  intro sparing kept history after
  have hs : ∀ s ∈ history, s.1.Sparing s.2 := by simp [history, Sparing, sparing, Settings.ofNames]
  have ha : ofTextAndByte.store.bytes? "A" = some "old".toUTF8 := by decide +kernel
  have hb : ofTextAndByte.store.bytes? "B" = some ⟨#[0xFF]⟩ := by decide +kernel
  refine ⟨?_, ?_, by decide +kernel⟩
  · have hv : (ofTextAndByte.store.value? "A").isSome := by decide +kernel
    exact (kept_without_overwrite_iff ha (by decide) hs).mpr (.inl hv)
  · have hr : ∀ p ∈ offers ofTextAndByte history,
        p.1 = "B" → ¬ofTextAndByte.store.accepts p.1 p.2 := by decide +kernel
    exact (kept_without_overwrite_iff hb (by decide) hs).mpr (.inr hr)

/-- Bytes that are no text count as missing, so they are replaced. -/
theorem byte_replaced_without_overwrite :
    ofTextAndByte.store.bytes? "B" = some ⟨#[0xFF]⟩ ∧
      (ofTextAndByte.store.set false "B" "new").1 = true ∧
      (pass ofTextAndByte [(usual, .set false "B" "new")]).store.bytes? "B" = some "new".toUTF8 ∧
      "new".toUTF8 ≠ ⟨#[0xFF]⟩ := by
  decide +kernel

end Publisher

end EnvTemplate
