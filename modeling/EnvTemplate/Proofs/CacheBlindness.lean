import EnvTemplate.Proofs.Influence

namespace EnvTemplate

namespace FileTree

variable {left right : FileTree} {location : Location} {path : Path}

/-- Two trees that differ at most in what stands at a path, which has the same place in both. -/
structure DifferAt (path : Path) (left right : FileTree) : Prop where
  home : right.home = left.home
  locate : right.locate .entry path = left.locate .entry path
  at? : ∀ location, left.locate .entry path ≠ .ok location →
    right.at? location = left.at? location
  marksAt : ∀ location, left.locate .entry path ≠ .ok location →
    right.marksAt location = left.marksAt location
  refusals : right.refusals = left.refusals
  room : right.room = left.room

/-- A path that leads to a file, or to where nothing stands, keeps its place when a file or a link
is put there. -/
theorem differAt_of_sameBut (hl : left.locate .entry path = .ok location)
    (hs : SameBut [location] left right) (old : IsLeaf (left.at? location))
    (hd : right.at? location ≠ some .directory) : DifferAt path left right where
  home := hs.home
  locate := by
    obtain ⟨hp, hw⟩ := locate_eq_ok_iff.mp hl
    rw [hl, locate_eq_ok_iff, hs.home]
    exact ⟨hp, hw.of_sameBut hs (areLeaves_singleton.mpr old)
      (List.forall_mem_singleton.mpr hd) (.inl rfl)⟩
  at? other hne := hs.at? other fun hm => hne (List.mem_singleton.mp hm ▸ hl)
  marksAt other hne := hs.marksAt other fun hm => hne (List.mem_singleton.mp hm ▸ hl)
  refusals := hs.refusals
  room := hs.room

theorem DifferAt.same_of_error (h : DifferAt path left right) {cause : FileError}
    (he : left.locate .entry path = .error cause) : left.Same right where
  home := h.home
  at? location := h.at? location (by simp [he])
  marksAt location := h.marksAt location (by simp [he])
  refusals := h.refusals
  room := h.room

theorem DifferAt.same (h : DifferAt path left right) {before after : FileTree}
    (hl : left.locate .entry path = .ok location) (hb : SameBut [location] left before)
    (ha : SameBut [location] right after) (hbn : before.at? location = none)
    (han : after.at? location = none) : before.Same after := by
  have helsewhere : ∀ other, other ≠ location →
      left.locate .entry path ≠ .ok other ∧ other ∉ [location] := fun other ho =>
    ⟨fun hc => ho (Except.ok.inj (hc.symm.trans hl)), by simpa using ho⟩
  refine ⟨ha.home.trans (h.home.trans hb.home.symm), fun other => ?_, fun other => ?_,
    ha.refusals.trans (h.refusals.trans hb.refusals.symm), ha.room.trans (h.room.trans hb.room.symm)⟩
  · by_cases ho : other = location
    · rw [ho, hbn, han]
    · obtain ⟨hne, hm⟩ := helsewhere other ho
      rw [ha.at? other hm, hb.at? other hm, h.at? other hne]
  · by_cases ho : other = location
    · rw [ho, marksAt_of_none hbn, marksAt_of_none han]
    · obtain ⟨hne, hm⟩ := helsewhere other ho
      rw [ha.marksAt other hm, hb.marksAt other hm, h.marksAt other hne]

theorem DifferAt.mayRemove (h : DifferAt path left right) :
    right.mayRemove path = left.mayRemove path := by
  simp only [FileTree.mayRemove, refusal?, h.locate, h.refusals]

end FileTree

namespace Cache

open FileTree

variable {cache : Cache} {left right tree : FileTree} {location : Location}

theorem clear_of_error {cause : FileError} (h : tree.locate .entry cache.path = .error cause) :
    cache.clear tree = (if cause = .notFound then .ok ()
      else .error (.cannotRemove cache.path cause), tree) := by
  rw [clear, unlink, h]
  cases cause <;> rfl

theorem clear_of_unlink {cause : FileError} (h : tree.unlink cache.path = .error cause)
    (hc : cause ≠ .notFound) : cache.clear tree = (.error (.cannotRemove cache.path cause), tree) := by
  rw [clear, h]
  cases cause <;> first | rfl | exact absurd rfl hc

theorem clear_of_blocked (h : tree.look? cache.path = some .directory ∨
      tree.look? cache.path ≠ none ∧ tree.mayRemove cache.path = false) :
    ∃ cause, (tree.mayRemove cache.path → cause = .isADirectory) ∧
      cache.clear tree = (.error (.cannotRemove cache.path cause), tree) := by
  have hs : tree.look? cache.path ≠ none := by
    rcases h with h | h
    · simp [h]
    · exact h.1
  cases hl : tree.locate .entry cache.path with
  | error cause => simp [look?, hl] at hs
  | ok location =>
    rw [look?_of_locate hl] at h hs
    rw [mayRemove_of_locate hl] at h ⊢
    obtain ⟨entry, ha⟩ := Option.ne_none_iff_exists'.mp hs
    cases hr : tree.refusal? .remove location.dropLast with
    | some cause =>
      refine ⟨cause, by simp, clear_of_unlink ?_ fun he => ?_⟩
      · simp only [unlink, hl, ha, hr]
      · exact tree.refusal?_ne_notFound .remove location.dropLast (he ▸ hr)
    | none =>
      have hd : tree.at? location = some .directory := by simpa [hr] using h
      refine ⟨.isADirectory, fun _ => rfl, clear_of_unlink ?_ (by simp)⟩
      simp only [unlink, hl, hd, hr]

theorem clear_congr (h : DifferAt cache.path left right)
    (hl : IsRemovable (left.look? cache.path)) (hr : IsRemovable (right.look? cache.path))
    (hm : left.mayRemove cache.path) :
    (cache.clear right).1 = (cache.clear left).1 ∧
      (cache.clear left).2.Same (cache.clear right).2 := by
  cases hp : left.locate .entry cache.path with
  | error cause =>
    rw [clear_of_error hp, clear_of_error (h.locate.trans hp)]
    exact ⟨rfl, h.same_of_error hp⟩
  | ok location =>
    rw [look?_of_locate hp] at hl
    rw [look?_of_locate (h.locate.trans hp)] at hr
    obtain ⟨hlo, hls, hln⟩ := clear_of_removable hp hl hm
    obtain ⟨hro, hrs, hrn⟩ := clear_of_removable (h.locate.trans hp) hr (h.mayRemove.trans hm)
    exact ⟨hro.trans hlo.symm, h.same hp hls hrs hln hrn⟩

end Cache

namespace Publisher

open FileTree

variable {publisher : Publisher} {store : Store} {journal : List Invocation}
  {left right : FileTree}

theorem publish_congr_files (h : left.Same right) :
    publisher.publish ⟨store, right, journal⟩ =
      ((publisher.publish ⟨store, left, journal⟩).1,
        { (publisher.publish ⟨store, left, journal⟩).2 with files := right }) := by
  have hj : publisher.judged ⟨store, right, journal⟩ = publisher.judged ⟨store, left, journal⟩ :=
    judged_congr (h.readText _) (h.readText _) fun _ _ => rfl
  rw [publish, publish, validate_eq, validate_eq, hj]

theorem run_development_congr
    (hc : (publisher.cache.clear right).1 = (publisher.cache.clear left).1)
    (hs : (publisher.cache.clear left).2.Same (publisher.cache.clear right).2) :
    publisher.run ⟨store, right, journal⟩ .development =
      ((publisher.run ⟨store, left, journal⟩ .development).1,
        { (publisher.run ⟨store, left, journal⟩ .development).2 with
          files := (publisher.cache.clear right).2 }) := by
  simp only [run, runAfresh, forget]
  rw [hc]
  cases (publisher.cache.clear left).1 with
  | error error => rfl
  | ok =>
    dsimp only
    rw [publish_congr_files hs]
    cases publisher.publish ⟨store, (publisher.cache.clear left).2, journal⟩ with
    | mk answer after => cases answer <;> rfl

/-- A run in development cannot tell whether nothing, a file or a link stands at the path of the
cache, and leaves nothing there, if what stands there may be taken away. What may not, and a directory,
stops it, and then all stays as it is. -/
theorem run_development_ignores_cache (publisher : Publisher) (store : Store)
    (journal : List Invocation) :
    (∀ left right : FileTree, DifferAt publisher.cache.path left right →
      IsRemovable (left.look? publisher.cache.path) →
      IsRemovable (right.look? publisher.cache.path) → left.mayRemove publisher.cache.path →
      let before := publisher.run ⟨store, left, journal⟩ .development
      let after := publisher.run ⟨store, right, journal⟩ .development
      after.1 = before.1 ∧ after.2.store = before.2.store ∧ after.2.journal = before.2.journal ∧
        before.2.files.Same after.2.files ∧ before.2.files.look? publisher.cache.path = none ∧
        after.2.files.look? publisher.cache.path = none) ∧
      ∀ files : FileTree, (files.look? publisher.cache.path = some .directory ∨
          files.look? publisher.cache.path ≠ none ∧
            files.mayRemove publisher.cache.path = false) →
        ∃ cause, (files.mayRemove publisher.cache.path → cause = .isADirectory) ∧
          publisher.run ⟨store, files, journal⟩ .development =
            (.error (.cache (.cannotRemove publisher.cache.path cause)),
              ⟨store, files, journal⟩) := by
  constructor
  · intro left right h hl hr hm before after
    obtain ⟨hc, hs⟩ := Cache.clear_congr h hl hr hm
    have hrun : after = (before.1, { before.2 with files := (publisher.cache.clear right).2 }) :=
      run_development_congr hc hs
    have hfiles : before.2.files = (publisher.cache.clear left).2 :=
      files_run_development publisher _
    rw [hrun, hfiles]
    exact ⟨rfl, rfl, rfl, hs, Cache.look?_clear hl hm, Cache.look?_clear hr (h.mayRemove.trans hm)⟩
  · intro files hb
    obtain ⟨cause, hd, hc⟩ := Cache.clear_of_blocked hb
    refine ⟨cause, hd, ?_⟩
    simp only [run, runAfresh, forget, hc]

/-- The env file is the cache itself, as a file and as a link to another file. -/
theorem run_development_ignores_cache_of_alias :
    let publisher : Publisher := ⟨Path.ofText ".", Settings.ofNames "" ".env.cache" true []⟩
    let entry := [Text.Utf8.encode ".env.cache"]
    let other := (World.ofTemplate "A=required").files.place (Path.ofText "other")
      (.file "A=2".toUTF8)
    let left := other.put entry (.file "A=1".toUTF8)
    let right := other.put entry (.link (Path.ofText "other"))
    let blocked := other.put entry .directory
    let run (files : FileTree) := publisher.run ⟨.memory ∅, files, []⟩ .development
    left.readText publisher.envFile = "A=1" ∧ right.readText publisher.envFile = "A=2" ∧
      (run left).1 =
        .error (.validation [⟨"A", "", .failed "[required]: value for A cannot be empty"⟩]) ∧
      (run right).1 = (run left).1 ∧ (run left).2.files.Same (run right).2.files ∧
      (run right).2.files.look? publisher.cache.path = none ∧
      (run blocked).2.files = blocked := by
  intro publisher entry other left right blocked run
  have hne : entry ≠ [] := List.cons_ne_nil _ _
  have hl : left.locate .entry publisher.cache.path = .ok entry := by decide +kernel
  have hs : SameBut [entry] left right := sameBut_put_put hne _ _
  have hleft : left.at? entry = some (.file "A=1".toUTF8) := at?_put_self hne _
  have hright : right.at? entry = some (.link (Path.ofText "other")) := at?_put_self hne _
  have hdir : blocked.look? publisher.cache.path = some .directory := by decide +kernel
  have hremove : left.mayRemove publisher.cache.path := by decide +kernel
  have hanswer : (run left).1 =
      .error (.validation [⟨"A", "", .failed "[required]: value for A cannot be empty"⟩]) := by
    decide +kernel
  have hfirst : left.readText publisher.envFile = "A=1" := by decide +kernel
  have hsecond : right.readText publisher.envFile = "A=2" := by decide +kernel
  clear_value left right blocked publisher entry
  have hd : DifferAt publisher.cache.path left right :=
    differAt_of_sameBut hl hs (by simp [IsLeaf, hleft]) (by simp [hright])
  obtain ⟨hsame, hstop⟩ := run_development_ignores_cache publisher (.memory ∅) []
  obtain ⟨ha, -, -, hfiles, -, hn⟩ := hsame left right hd
    (by simp [look?_of_locate hl, hleft, IsRemovable])
    (by simp [look?_of_locate (hd.locate.trans hl), hright, IsRemovable]) hremove
  obtain ⟨cause, -, hrun⟩ := hstop blocked (.inl hdir)
  exact ⟨hfirst, hsecond, hanswer, ha, hfiles, hn, congrArg (fun answer => answer.2.files) hrun⟩

/-- A link in the place of the directory leads to itself as the cache and is removed, but a file in
that place stops the run. And where nothing may be taken away a file stops it, and nothing does not. -/
theorem run_development_tells_cache :
    let entry := [Text.Utf8.encode ".env.cache"]
    let inner : Publisher := ⟨Path.ofText ".env.cache", Settings.ofNames "" "" true []⟩
    let linked := FileTree.empty.put entry (.link (Path.ofText "."))
    let filled := FileTree.empty.put entry (.file "x".toUTF8)
    let bound := { FileTree.empty with
      refusals := OrderedMap.ofList [(([], .remove), .permissionDenied)] }
    let run (publisher : Publisher) (files : FileTree) :=
      publisher.run ⟨.memory ∅, files, []⟩ .development
    SameBut [entry] linked filled ∧ linked.locate .entry inner.cache.path = .ok entry ∧
      (run inner linked).1 = .ok (.validated []) ∧
      (run inner filled).1 =
        .error (.cache (.cannotRemove inner.cache.path .notADirectory)) ∧
      (run usual bound).1 = .ok (.validated []) ∧
      (run usual (bound.put entry (.file "x".toUTF8))).1 =
        .error (.cache (.cannotRemove usual.cache.path .permissionDenied)) ∧
      (run usual (bound.put entry (.file "x".toUTF8))).2.files.look? usual.cache.path =
        some (.file "x".toUTF8) := by
  refine ⟨sameBut_put_put (List.cons_ne_nil _ _) _ _, ?_⟩
  decide +kernel

end Publisher

end EnvTemplate
