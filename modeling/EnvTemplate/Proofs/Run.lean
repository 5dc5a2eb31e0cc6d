import EnvTemplate.Proofs.CacheFile
import EnvTemplate.Proofs.Publication
import EnvTemplate.Publisher.Request

namespace EnvTemplate

def World.ofTemplate (text : String) : World :=
  ⟨.memory ∅, FileTree.empty.place (Path.ofText Settings.usualTemplate) (.file text.toUTF8), []⟩

namespace Publisher

open FileTree

def usual : Publisher := ⟨Path.ofText ".", Settings.ofNames "" "" true []⟩

variable {publisher : Publisher} {world after : World} {verdicts : Verdicts} {files : FileTree}

theorem keys_rules (publisher : Publisher) (files : FileTree) :
    (publisher.rules files).map Rule.key =
      (EnvFile.parse (files.readText publisher.template)).keys := by
  simp [rules, Rule.ofTemplate, Rule.ofBinding, OrderedMap.keys, Function.comp_def]

theorem keys_validate (publisher : Publisher) (world : World) :
    (publisher.validate world).1.map Verdict.key = (publisher.rules world.files).map Rule.key :=
  Rule.keys_judgeAll _ _ _ _

theorem nodup_validate (publisher : Publisher) (world : World) :
    ((publisher.validate world).1.map Verdict.key).Nodup := by
  rw [keys_validate, keys_rules]
  exact OrderedMap.nodup _

theorem mem_keys_of_mem_validate {v : Verdict} (h : v ∈ (publisher.validate world).1) :
    v.key ∈ (EnvFile.parse (world.files.readText publisher.template)).keys := by
  rw [← keys_rules, ← keys_validate]
  exact List.mem_map_of_mem h

theorem isKey_of_mem_validate {v : Verdict} (h : v ∈ (publisher.validate world).1) :
    EnvFile.IsKey v.key := by
  obtain ⟨p, hp, he⟩ := List.mem_map.mp (mem_keys_of_mem_validate h)
  exact he ▸ (EnvFile.clean_of_mem_parse hp).1

structure Publishes (publisher : Publisher) (world : World) (verdicts : Verdicts)
    (after : World) : Prop where
  verdicts_eq : verdicts = (publisher.validate world).1
  screened : (world.store.screened verdicts).allOk
  store_eq : after.store = world.store.setAll publisher.settings.overwrite verdicts.pairs
  files_eq : after.files = world.files

theorem store_validate (publisher : Publisher) (world : World) :
    (publisher.validate world).2.store = world.store := rfl

theorem files_validate (publisher : Publisher) (world : World) :
    (publisher.validate world).2.files = world.files := rfl

theorem files_restore (publisher : Publisher) (world : World) :
    (publisher.restore world).2.files = world.files := rfl

theorem publish_cases (publisher : Publisher) (world : World) :
    (∃ after, publisher.publish world = (.ok (publisher.validate world).1, after) ∧
        publisher.Publishes world (publisher.validate world).1 after) ∨
      ∃ verdicts after, publisher.publish world = (.error verdicts, after) ∧
        ¬(world.store.screened (publisher.validate world).1).allOk ∧
        after.store = world.store ∧ after.files = world.files := by
  have hs := store_validate publisher world
  have hf := files_validate publisher world
  unfold publish
  cases hv : publisher.validate world with
  | mk judged met =>
    rw [hv] at hs hf
    dsimp only at hs hf ⊢
    rw [hs]
    cases ho : (world.store.screened judged).allOk with
    | true =>
      rw [Store.publish_of_screened ho]
      exact .inl ⟨_, rfl, by rw [hv], ho, rfl, hf⟩
    | false =>
      rw [Store.publish_of_refused ho]
      exact .inr ⟨_, _, rfl, Bool.false_ne_true, rfl, hf⟩

theorem publish_ok (h : publisher.publish world = (.ok verdicts, after)) :
    publisher.Publishes world verdicts after := by
  rcases publish_cases publisher world with ⟨_, he, hp⟩ | ⟨_, _, he, -⟩
  · rw [h] at he
    cases he
    exact hp
  · rw [h] at he
    cases he

theorem publish_error (h : publisher.publish world = (.error verdicts, after)) :
    after.store = world.store ∧ after.files = world.files := by
  rcases publish_cases publisher world with ⟨_, he, -⟩ | ⟨_, _, he, -, hp⟩
  · rw [h] at he
    cases he
  · rw [h] at he
    cases he
    exact hp

theorem not_screened_of_publish (h : publisher.publish world = (.error verdicts, after)) :
    ¬(world.store.screened (publisher.validate world).1).allOk := by
  rcases publish_cases publisher world with ⟨_, he, -⟩ | ⟨_, _, -, hs, -⟩
  · rw [h] at he
    cases he
  · exact hs

theorem files_publish (publisher : Publisher) (world : World) :
    (publisher.publish world).2.files = world.files := by
  rcases publish_cases publisher world with ⟨after, he, hp⟩ | ⟨_, after, he, -, -, hf⟩
  · rw [he, hp.files_eq]
  · rw [he, hf]

theorem Publishes.allOk (h : publisher.Publishes world verdicts after) : verdicts.allOk := by
  have hs := h.screened
  rwa [Store.screened_eq_self hs] at hs

theorem Publishes.keeps_passed_iff (h : publisher.Publishes world verdicts after) :
    (∀ p ∈ verdicts.passed, Cache.keeps p.2) ↔ ∀ v ∈ verdicts, Cache.keeps v.value := by
  rw [Verdicts.passed_of_allOk h.allOk]
  simp [Verdicts.pairs]

theorem Publishes.exists_not_keeps (h : publisher.Publishes world verdicts after) {path : Path}
    {key : String}
    (hw : publisher.cache.write verdicts world.files = (.error (.unstorable path key), files)) :
    ¬∀ v ∈ verdicts, Cache.keeps v.value := fun hv => by
  obtain ⟨-, p, hp, hk⟩ := Cache.write_unstorable hw
  rw [h.keeps_passed_iff.mpr hv p hp] at hk
  cases hk

theorem Publishes.entries_cached (h : publisher.Publishes world verdicts after)
    (hk : ∀ p ∈ verdicts.passed, Cache.keeps p.2) :
    (EnvFile.parse (EnvFile.render verdicts.passed)).entries = verdicts.pairs := by
  rw [Verdicts.passed_of_allOk h.allOk] at hk ⊢
  refine EnvFile.parse_render ?_ fun p hp => ⟨?_, Cache.isValue_of_keeps (hk p hp)⟩
  · rw [Store.keys_pairs, h.verdicts_eq]
    exact nodup_validate publisher world
  · obtain ⟨v, hv, rfl⟩ := List.mem_map.mp hp
    rw [h.verdicts_eq] at hv
    exact isKey_of_mem_validate hv

inductive CachedRun (publisher : Publisher) (world : World) :
    Except PublishError Provenance × World → Prop
  | loaded {bindings : Bindings} :
      publisher.cache.read? world.files = some bindings →
      CachedRun publisher world (.ok .cached, { world with
        store := world.store.setAll publisher.settings.overwrite bindings.entries })
  | refused {verdicts : Verdicts} {after : World} :
      publisher.cache.read? world.files = none →
      publisher.publish world = (.error verdicts, after) →
      CachedRun publisher world (.error (.validation verdicts), after)
  | kept {verdicts : Verdicts} {published : World} {files : FileTree} :
      publisher.cache.read? world.files = none →
      publisher.publish world = (.ok verdicts, published) →
      publisher.cache.write verdicts world.files = (.ok (), files) →
      CachedRun publisher world (.ok (.validated verdicts), { published with files := files })
  | unkept {verdicts : Verdicts} {published : World} {path : Path} {key : String} :
      publisher.cache.read? world.files = none →
      publisher.publish world = (.ok verdicts, published) →
      publisher.cache.write verdicts world.files = (.error (.unstorable path key), world.files) →
      CachedRun publisher world (.ok (.validated verdicts), published)
  | broken {verdicts : Verdicts} {published : World} {error : Cache.Error} {files : FileTree} :
      publisher.cache.read? world.files = none →
      publisher.publish world = (.ok verdicts, published) →
      publisher.cache.write verdicts world.files = (.error error, files) →
      CachedRun publisher world (.error (.cache error), { published with files := files })

theorem restore_of_read? {bindings : Bindings}
    (h : publisher.cache.read? world.files = some bindings) :
    publisher.restore world = (true, { world with
      store := world.store.setAll publisher.settings.overwrite bindings.entries }) := by
  simp [restore, Cache.load, h]

theorem restore_of_none (h : publisher.cache.read? world.files = none) :
    publisher.restore world = (false, world) := by
  simp [restore, Cache.load, h]

theorem cachedRun (publisher : Publisher) (world : World) :
    publisher.CachedRun world (publisher.run world .production) := by
  unfold run runCached
  cases hr : publisher.cache.read? world.files with
  | some bindings =>
    rw [restore_of_read? hr]
    exact .loaded hr
  | none =>
    rw [restore_of_none hr]
    dsimp only
    split
    · rename_i verdicts after hp
      exact .refused hr hp
    · rename_i verdicts published hp
      have hf : published.files = world.files := (publish_ok hp).files_eq
      cases hw : publisher.cache.write verdicts world.files with
      | mk answer files =>
        simp only [keep, hf, hw]
        match answer, hw with
        | .ok (), hw => exact .kept hr hp hw
        | .error (.unstorable path key), hw =>
          obtain ⟨rfl, -⟩ := Cache.write_unstorable hw
          rw [← hf]
          exact .unkept hr hp hw
        | .error (.cannotOpen path cause), hw => exact .broken hr hp hw
        | .error (.cannotLock path cause), hw => exact .broken hr hp hw
        | .error (.cannotWrite path cause), hw => exact .broken hr hp hw
        | .error (.cannotRemove path cause), hw => exact .broken hr hp hw

theorem run_of_read? {bindings : Bindings}
    (h : publisher.cache.read? world.files = some bindings) :
    publisher.run world .production = (.ok .cached, { world with
      store := world.store.setAll publisher.settings.overwrite bindings.entries }) := by
  rw [run, runCached, restore_of_read? h]

theorem run_ne_cached (h : publisher.cache.read? world.files = none) :
    publisher.run world .production ≠ (.ok .cached, after) := fun he => by
  have hr := cachedRun publisher world
  rw [he] at hr
  cases hr with
  | loaded hl =>
    rw [h] at hl
    cases hl

inductive FreshRun (publisher : Publisher) (world : World) :
    Except PublishError Provenance × World → Prop
  | uncleared {error : Cache.Error} {files : FileTree} :
      publisher.cache.clear world.files = (.error error, files) →
      FreshRun publisher world (.error (.cache error), { world with files := files })
  | refused {files : FileTree} {verdicts : Verdicts} {after : World} :
      publisher.cache.clear world.files = (.ok (), files) →
      publisher.publish { world with files := files } = (.error verdicts, after) →
      FreshRun publisher world (.error (.validation verdicts), after)
  | published {files : FileTree} {verdicts : Verdicts} {after : World} :
      publisher.cache.clear world.files = (.ok (), files) →
      publisher.publish { world with files := files } = (.ok verdicts, after) →
      FreshRun publisher world (.ok (.validated verdicts), after)

theorem freshRun (publisher : Publisher) (world : World) :
    publisher.FreshRun world (publisher.run world .development) := by
  unfold run runAfresh forget
  cases hc : publisher.cache.clear world.files with
  | mk answer files =>
    cases answer with
    | error error => exact .uncleared hc
    | ok =>
      dsimp only
      split
      · rename_i verdicts after hp
        exact .refused hc hp
      · rename_i verdicts after hp
        exact .published hc hp

theorem files_run_development (publisher : Publisher) (world : World) :
    (publisher.run world .development).2.files = (publisher.cache.clear world.files).2 := by
  have hr := freshRun publisher world
  generalize publisher.run world .development = answer at hr ⊢
  cases hr with
  | uncleared hc => rw [hc]
  | refused hc hp => rw [hc, (publish_error hp).2]
  | published hc hp => rw [hc, (publish_ok hp).files_eq]

end Publisher

end EnvTemplate
