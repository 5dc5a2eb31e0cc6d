import EnvTemplate.Proofs.Run
import Mathlib.Data.List.Forall2

namespace EnvTemplate.Publisher

def play (publisher : Publisher) (world : World) (steps : List Step) : World :=
  steps.foldl publisher.step world

/-- The path of the cache leads to what may be locked and taken away. -/
def Usable (publisher : Publisher) (files : FileTree) : Prop :=
  files.mayLock publisher.cache.path ∧ files.mayRemove publisher.cache.path

/-- An edit leaves what stands at the path of the cache, and what is read there, as it is. -/
def Spares (publisher : Publisher) (world : World) : Step → Prop
  | .edit files => files.look? publisher.cache.path = world.files.look? publisher.cache.path ∧
      publisher.cache.read? files = publisher.cache.read? world.files
  | _ => True

/-- The cache is usable whenever a step is taken, and no edit of the history touches it. -/
def AllSpare (publisher : Publisher) : World → List Step → Prop
  | _, [] => True
  | world, step :: steps => publisher.Usable world.files ∧ publisher.Spares world step ∧
      AllSpare publisher (publisher.step world step) steps

instance decidableUsable (publisher : Publisher) (files : FileTree) :
    Decidable (publisher.Usable files) :=
  inferInstanceAs (Decidable (_ ∧ _))

instance decidableSpares (publisher : Publisher) (world : World) : (step : Step) →
    Decidable (publisher.Spares world step)
  | .edit files => inferInstanceAs (Decidable (files.look? _ = world.files.look? _ ∧ _ = _))
  | .ask _ | .set _ _ _ | .commit _ _ => inferInstanceAs (Decidable True)

instance decidableAllSpare (publisher : Publisher) : (world : World) → (steps : List Step) →
    Decidable (publisher.AllSpare world steps)
  | _, [] => inferInstanceAs (Decidable True)
  | world, step :: steps =>
    have := decidableAllSpare publisher (publisher.step world step) steps
    inferInstanceAs (Decidable (publisher.Usable _ ∧ publisher.Spares world step ∧ _))

/-- What a step makes of the remembered run: a run in production that validates values which the
cache keeps takes its place, a run in development or a removal of the cache makes it forgotten. -/
def remember (publisher : Publisher) (world : World) (last : Option (World × Verdicts)) :
    Step → Option (World × Verdicts)
  | .ask (.run .production) =>
    match (publisher.run world .production).1 with
    | .ok (.validated verdicts) =>
      if verdicts.all fun v => Cache.keeps v.value then some (world, verdicts) else last
    | _ => last
  | .ask (.run .development) | .ask .forget => none
  | _ => last

/-- The verdicts of the latest run in production that validated values which the cache keeps, with
the world it found, unless it has been forgotten since. -/
def lastKept (publisher : Publisher) : World → Option (World × Verdicts) → List Step →
    Option (World × Verdicts)
  | _, last, [] => last
  | world, last, step :: steps =>
    lastKept publisher (publisher.step world step) (publisher.remember world last step) steps

def input (publisher : Publisher) (world : World) (key : String) : String :=
  Rule.input (fun key => world.store.value? key)
    (EnvFile.parse (world.files.readText publisher.envFile)) key

/-- The verdict is on the key of the rule, and its value has come through the whole chain. -/
def Passes (publisher : Publisher) (world : World) (rule : Rule) (v : Verdict) : Prop :=
  v.key = rule.key ∧ v.outcome = .ok ∧
    (rule.chain.run publisher.settings.registry rule.key (publisher.input world rule.key)).1 =
      .ok v.value

/-- Nothing stands at the path of the cache and nothing is remembered, or a file stands there with
the bindings of the remembered run, one for each rule and each through its chain. -/
inductive Mirrors (publisher : Publisher) (files : FileTree) : Option (World × Verdicts) → Prop
  | nothing : files.look? publisher.cache.path = none → Mirrors publisher files none
  | kept {before : World} {verdicts : Verdicts} {bindings : Bindings} :
      (publisher.run before .production).1 = .ok (.validated verdicts) →
      List.Forall₂ (publisher.Passes before) (publisher.rules before.files) verdicts →
      files.look? publisher.cache.path = some (.file (Cache.rendered verdicts)) →
      publisher.cache.read? files = some bindings → bindings.entries = verdicts.pairs →
      Mirrors publisher files (some (before, verdicts))

variable {publisher other : Publisher} {world after start before : World} {verdicts : Verdicts}
  {files : FileTree} {last : Option (World × Verdicts)} {steps : List Step}

theorem passes_judge {rule : Rule}
    (h : (rule.judge publisher.settings.registry (publisher.input world rule.key)).1.isOk) :
    publisher.Passes world rule
      (rule.judge publisher.settings.registry (publisher.input world rule.key)).1 := by
  refine ⟨Rule.key_judge _ _ _, by simpa [Verdict.isOk] using h, ?_⟩
  unfold Rule.judge at h ⊢
  split at h
  · rename_i hr
    simp only [hr]
  · cases h

theorem passes_validate (h : (publisher.validate world).1.allOk) :
    List.Forall₂ (publisher.Passes world) (publisher.rules world.files)
      (publisher.validate world).1 := by
  simp only [validate, Rule.judgeAll, List.map_map] at h ⊢
  rw [List.forall₂_map_right_iff, List.forall₂_same]
  intro rule hr
  exact passes_judge (List.all_eq_true.mp h _ (List.mem_map_of_mem hr))

theorem keys_of_passes {rules : List Rule}
    (h : List.Forall₂ (publisher.Passes world) rules verdicts) :
    verdicts.map Verdict.key = rules.map Rule.key := by
  induction h with
  | nil => rfl
  | cons hp _ ih => rw [List.map_cons, List.map_cons, hp.1, ih]

theorem Mirrors.congr (h : publisher.Mirrors world.files last)
    (hf : files.look? publisher.cache.path = world.files.look? publisher.cache.path)
    (hr : publisher.cache.read? files = publisher.cache.read? world.files) :
    publisher.Mirrors files last := by
  cases h with
  | nothing hn => exact .nothing (hf.trans hn)
  | kept hv hp ha hb he => exact .kept hv hp (hf.trans ha) (hr.trans hb) he

theorem Mirrors.look?_clear (h : publisher.Mirrors files last) (hu : publisher.Usable files) :
    (publisher.cache.clear files).2.look? publisher.cache.path = none := by
  refine Cache.look?_clear ?_ hu.2
  cases h with
  | nothing hn => simp [FileTree.IsRemovable, hn]
  | kept _ _ ha _ _ => simp [FileTree.IsRemovable, ha]

theorem Mirrors.run (h : publisher.Mirrors world.files last)
    (hu : publisher.Usable world.files) :
    publisher.Mirrors (publisher.run world .production).2.files
      (publisher.remember world last (.ask (.run .production))) := by
  simp only [remember]
  cases h with
  | kept hv hp ha hb he =>
    rw [run_of_read? hb]
    exact .kept hv hp ha hb he
  | nothing hn =>
    have hr := cachedRun publisher world
    generalize he : publisher.run world .production = answer at hr
    cases hr with
    | loaded hl =>
      rw [Cache.read?_of_look?_eq_none hn] at hl
      cases hl
    | refused _ hp =>
      refine .nothing ?_
      rw [(publish_error hp).2, hn]
    | @kept verdicts _ _ _ hp hw =>
      have hp := publish_ok hp
      obtain ⟨hk, place, location, hs⟩ := Cache.write_ok hw
      have hv : verdicts.all fun v => Cache.keeps v.value := by
        simpa using hp.keeps_passed_iff.mp hk
      dsimp only
      rw [if_pos hv]
      have hpass : List.Forall₂ (publisher.Passes world) (publisher.rules world.files) verdicts := by
        obtain rfl := hp.verdicts_eq
        exact passes_validate hp.allOk
      have hread := hs.read?
      rw [if_pos (hs.mayRead_of_read?_eq_none (Cache.read?_of_look?_eq_none hn))] at hread
      exact .kept (congrArg Prod.fst he) hpass (hs.look?_of_none hn) hread (hp.entries_cached hk)
    | unkept _ hp hw =>
      have hp := publish_ok hp
      dsimp only
      rw [if_neg (by simpa using hp.exists_not_keeps hw)]
      exact .nothing (by rw [hp.files_eq, hn])
    | broken _ hp hw => exact .nothing (Cache.look?_of_write_error hw hn hu.1 hu.2)

theorem Mirrors.step (h : publisher.Mirrors world.files last) (hu : publisher.Usable world.files)
    {step : Step} (hs : publisher.Spares world step) :
    publisher.Mirrors (publisher.step world step).files (publisher.remember world last step) := by
  cases step with
  | set | commit => exact h
  | edit => exact h.congr hs.1 hs.2
  | ask request =>
    cases request with
    | validate =>
      change publisher.Mirrors (publisher.validate world).2.files last
      rwa [files_validate]
    | restore =>
      change publisher.Mirrors (publisher.restore world).2.files last
      rwa [files_restore]
    | publish =>
      change publisher.Mirrors (publisher.publish world).2.files last
      rwa [files_publish]
    | forget => exact .nothing (h.look?_clear hu)
    | run mode =>
      cases mode with
      | production => exact h.run hu
      | development =>
        refine .nothing ?_
        change (publisher.run world .development).2.files.look? publisher.cache.path = none
        rw [files_run_development]
        exact h.look?_clear hu

theorem Mirrors.play (h : publisher.Mirrors world.files last)
    (hs : publisher.AllSpare world steps) :
    publisher.Mirrors (publisher.play world steps).files (publisher.lastKept world last steps) := by
  induction steps generalizing world last with
  | nil => exact h
  | cons step steps ih =>
    obtain ⟨hu, hstep, hs⟩ := hs
    exact ih (h.step hu hstep) hs

/-- What a run that uses the cache makes of the store: it sets the value of each verdict, in order. -/
structure Sets (overwrite : Bool) (verdicts : Verdicts) (before after : Store) : Prop where
  in_order : after =
    verdicts.foldl (fun store v => (store.set overwrite v.key v.value).2) before
  others : ∀ key ∉ verdicts.map Verdict.key, after.bytes? key = before.bytes? key
  each : ∀ v ∈ verdicts, after.value? v.key =
    if before.accepts v.key v.value then Store.settle overwrite (before.value? v.key) v.value
    else before.value? v.key

theorem sets_setAll (hn : (verdicts.map Verdict.key).Nodup) (overwrite : Bool) (store : Store) :
    Sets overwrite verdicts store (store.setAll overwrite verdicts.pairs) where
  in_order := List.foldl_map
  others key hk := by
    rw [← Store.keys_pairs] at hk
    exact Store.bytes?_setAll_of_not_mem hk
  each v hv := by
    have hp : (v.key, v.value) ∈ verdicts.pairs := List.mem_map_of_mem hv
    rw [← Store.keys_pairs] at hn
    exact Store.value?_setAll_of_nodup hn hp

/-- In a history that starts without a cache and in which it is usable and no edit touches it, the
path of the cache stands for the remembered run at any time. A run that uses the cache sets the values
of that run and does nothing else, whatever the other files and validators are. -/
theorem cache_mirrors_history (hn : start.files.look? publisher.cache.path = none)
    (hs : publisher.AllSpare start steps) :
    let world := publisher.play start steps
    publisher.Mirrors world.files (publisher.lastKept start none steps) ∧
      ∀ after, publisher.run world .production = (.ok .cached, after) →
        ∃ before verdicts, publisher.lastKept start none steps = some (before, verdicts) ∧
          Sets publisher.settings.overwrite verdicts world.store after.store ∧
          after = { world with store := after.store } ∧
          ∀ (other : Publisher) (files : FileTree), other.directory = publisher.directory →
            other.settings.overwrite = publisher.settings.overwrite →
            publisher.cache.read? files = publisher.cache.read? world.files →
            other.run { world with files := files } .production =
              (.ok .cached, { after with files := files }) := by
  intro world
  have hm : publisher.Mirrors world.files (publisher.lastKept start none steps) :=
    Mirrors.play (.nothing hn) hs
  refine ⟨hm, fun after hr => ?_⟩
  clear_value world
  generalize publisher.lastKept start none steps = last at hm
  cases hm with
  | nothing hn => exact absurd hr (run_ne_cached (Cache.read?_of_look?_eq_none hn))
  | @kept before verdicts bindings hv hp _ hb he =>
    have hc := run_of_read? hb
    rw [hr, he] at hc
    cases hc
    refine ⟨before, verdicts, rfl, sets_setAll ?_ _ _, rfl, fun other files hd ho hf => ?_⟩
    · rw [keys_of_passes hp, keys_rules]
      exact OrderedMap.nodup _
    · have hpath : other.cache = publisher.cache := by rw [cache, cache, hd]
      have hread : other.cache.read? { world with files := files }.files = some bindings := by
        rw [hpath]
        exact hf.trans hb
      rw [run_of_read? hread, he, ho]

theorem cache_mirrors_history_of_fallback :
    let start := World.ofTemplate "A=fallback(1)"
    let edited := (usual.run start .production).2.files.place usual.template
      (.file "A=required".toUTF8)
    let steps := [.ask (.run .production), .edit edited, .set true "A" "2"]
    let world := usual.play start steps
    let run := usual.run world .production
    let verdicts := [⟨"A", "1", .ok⟩]
    usual.Mirrors world.files (some (start, verdicts)) ∧ run.1 = .ok .cached ∧
      Sets usual.settings.overwrite verdicts world.store run.2.store ∧
      run.2 = { world with store := run.2.store } := by
  intro start edited steps world run verdicts
  have hn : start.files.look? usual.cache.path = none := by decide +kernel
  have hs : usual.AllSpare start steps := by decide +kernel
  have hl : usual.lastKept start none steps = some (start, verdicts) := by decide +kernel
  have hr : run = (.ok .cached, run.2) := by decide +kernel
  obtain ⟨hm, hc⟩ := cache_mirrors_history hn hs
  obtain ⟨_, _, he, ha, hrest, -⟩ := hc run.2 hr
  rw [hl] at hm he
  cases he
  exact ⟨hm, congrArg Prod.fst hr, ha, hrest⟩

/-- Without a word about the cache, a link in its path is led elsewhere, and what stands there has not
come from any run. And where the lock is refused a run fails, but the file that it has made is there
and counts as a cache. -/
theorem cache_of_no_run :
    let publisher : Publisher := ⟨Path.ofText "d", Settings.ofNames "" "" true []⟩
    let other := (World.ofTemplate "").files.place (Path.ofText "other/.env.cache")
      (.file "A=evil".toUTF8)
    let start : World := ⟨.memory ∅, (other.place (Path.ofText "first") .directory).place
      (Path.ofText "d") (.link (Path.ofText "first")), []⟩
    let edited := start.files.place (Path.ofText "d") (.link (Path.ofText "other"))
    let entry := [Text.Utf8.encode "first", Text.Utf8.encode ".env.cache"]
    let locked := { start.files with
      refusals := OrderedMap.ofList [((entry, .lock), .noLocks)] }
    let failed := publisher.run { start with files := locked } .production
    start.files.look? publisher.cache.path = none ∧
      edited.look? publisher.cache.path = some (.file "A=evil".toUTF8) ∧
      (publisher.run { start with files := edited } .production).1 = .ok .cached ∧
      failed.1 = .error (.cache (.cannotLock publisher.cache.path .noLocks)) ∧
      failed.2.files.look? publisher.cache.path = some (.file ByteArray.empty) ∧
      (publisher.run failed.2 .production).1 = .ok .cached := by
  decide +kernel

end EnvTemplate.Publisher
