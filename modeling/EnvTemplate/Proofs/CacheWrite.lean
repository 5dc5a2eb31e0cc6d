import EnvTemplate.Proofs.Run

namespace EnvTemplate.Cache

open FileTree

/-- A write puts all of the passed values and nothing else where the path of the cache leads, or it
changes nothing, or, if the lock is refused or the write breaks off, leaves what is said of that. -/
theorem write_all_or_none (cache : Cache) (verdicts : Verdicts) (tree : FileTree) :
    match cache.write verdicts tree with
    | (.ok (), changed) =>
      (∀ v ∈ verdicts, v.isOk → keeps v.value) ∧
        ∃ place location, cache.Stores (rendered verdicts) tree changed place location
    | (.error (.unstorable path key), changed) =>
      path = cache.path ∧ changed = tree ∧ ∃ before v after, verdicts = before ++ v :: after ∧
        v.key = key ∧ v.isOk ∧ keeps v.value = false ∧ ∀ u ∈ before, u.isOk → keeps u.value
    | (.error (.cannotOpen path cause), changed) =>
      path = cache.path ∧ changed = tree ∧ tree.openForWriting cache.path = .error cause
    | (.error (.cannotLock path cause), changed) =>
      path = cache.path ∧ cache.Residue (rendered verdicts) tree changed (.cannotLock path cause)
    | (.error (.cannotWrite path _), changed) =>
      path = cache.path ∧
        ∃ place location, cache.BreaksOff (rendered verdicts) tree changed place location
    | (.error (.cannotRemove _ _), _) => False := by
  have hw := written cache verdicts tree
  generalize hanswer : cache.write verdicts tree = answer at hw ⊢
  cases hw with
  | @refused before after v hs ho hk hb =>
    exact ⟨rfl, rfl, before, v, after, hs, rfl, ho, hk, hb⟩
  | unopened ho => exact ⟨rfl, rfl, ho⟩
  | unlocked => exact ⟨rfl, write_error hanswer⟩
  | stored hk ho hf =>
    exact ⟨fun v hv hi => hk (v.key, v.value) (mem_passed hv hi),
      (stores_fill ho hf _).imp fun place hs => ⟨_, hs⟩⟩
  | broken => exact ⟨rfl, write_error hanswer⟩

/-- Through a link onto longer contents, and onto a device that takes nothing. -/
theorem write_all_or_none_of_links :
    let cache := Cache.ofDirectory (Path.ofText "d")
    let long := [Text.Utf8.encode "long"]
    let full := [Text.Utf8.encode "dev", Text.Utf8.encode "full"]
    let base := (FileTree.empty.place (Path.ofNames long) (.file "OLD=a long line\nB=".toUTF8)).place
      (Path.ofNames full) (.device .full)
    let first := base.place cache.path (.link (Path.ofText "../long"))
    let second := base.place cache.path (.link (Path.ofText "../dev/full"))
    let verdicts : Verdicts := [⟨"A", " 1", .failed "no"⟩, ⟨"B", "2", .ok⟩]
    (∃ changed, cache.write verdicts first = (.ok (), changed) ∧
      changed.readText cache.path = "B=2\n" ∧ changed.at? long = some (.file "B=2\n".toUTF8) ∧
      changed.at? full = some (.device .full)) ∧
    ∃ changed, cache.write verdicts second =
        (.error (.cannotWrite cache.path .invalidArgument), changed) ∧
      changed.look? cache.path = none ∧ changed.at? full = some (.device .full) := by
  intro cache long full base first second verdicts
  have hne : full ≠ long := by decide +kernel
  have hcontent : rendered verdicts = "B=2\n".toUTF8 := by decide +kernel
  have hstored : (cache.write verdicts first).1 = .ok () := by decide +kernel
  have htarget : first.locate .target cache.path = .ok long := by decide +kernel
  have hnames : first.names long = [long] := by decide +kernel
  have hfirst : first.at? full = some (.device .full) := by decide +kernel
  have hread : first.mayRead cache.path := by decide +kernel
  have hbroken : (cache.write verdicts second).1 =
    .error (.cannotWrite cache.path .invalidArgument) := by decide +kernel
  have hentry : second.look? cache.path = some (.link (Path.ofText "../dev/full")) := by
    decide +kernel
  have hleads : second.locate .target cache.path = .ok full := by decide +kernel
  have hname : second.names full = [full] := by decide +kernel
  have hsecond : second.at? full = some (.device .full) := by decide +kernel
  have hremove : second.mayRemove cache.path := by decide +kernel
  clear_value first second verdicts cache long full
  constructor
  · have hw := write_all_or_none cache verdicts first
    generalize cache.write verdicts first = answer at hstored hw ⊢
    obtain ⟨answer, changed⟩ := answer
    subst hstored
    obtain ⟨-, place, location, hs⟩ := hw
    obtain rfl := Except.ok.inj (htarget.symm.trans hs.target)
    have hheld := hs.held long (mem_names_self first long)
    refine ⟨changed, rfl, ?_, hcontent ▸ hheld, ?_⟩
    · rw [hs.text, if_pos hread, hcontent, Text.Utf8.fromUTF8?_toUTF8, Option.getD_some]
    · rw [hs.sameBut.at? full (by simpa [hnames] using hne), hfirst]
  · have hw := write_all_or_none cache verdicts second
    generalize cache.write verdicts second = answer at hbroken hw ⊢
    obtain ⟨answer, changed⟩ := answer
    subst hbroken
    obtain ⟨-, place, location, hb⟩ := hw
    obtain rfl := Except.ok.inj (hleads.symm.trans hb.target)
    rw [look?_of_locate hb.entry] at hentry
    refine ⟨changed, rfl, ?_, ?_⟩
    · rcases hb.removed with hnone | hrefused | ⟨device, hd⟩
      · exact hnone
      · rw [hremove] at hrefused
        cases hrefused
      · rw [hentry] at hd
        cases hd
    · rcases hb.left full (mem_names_self second full) with he | ⟨he, -⟩ | ⟨he, -⟩
      · rw [he, hsecond]
      · rw [← he, hsecond] at hentry
        cases hentry
      · simp [holdsFile, hsecond] at he

/-- A write that succeeds is seen on every path to the file and under its second names, and what may
not be read reads as nothing. Where the room runs out behind a link, a beginning is left in its target,
and the link too if it may not be taken away. -/
theorem write_leaves_part_in_target :
    let cache := Cache.ofDirectory (Path.ofText "d")
    let target := [Text.Utf8.encode "target"]
    let second := [Text.Utf8.encode "second"]
    let directory := [Text.Utf8.encode "d"]
    let other := Path.ofText "e/.env.cache"
    let plain := (FileTree.empty.place (Path.ofNames directory) .directory).place
      (Path.ofText "e") (.link (Path.ofText "d"))
    let base := ((plain.place (Path.ofNames target) (.file "OLD=1\n".toUTF8)).place
      (Path.ofNames second) (.file "OLD=1\n".toUTF8)).place
      cache.path (.link (Path.ofText "../target"))
    let crowded := { base with room := OrderedMap.ofList [(target, (2, .noSpace))] }
    let bound := { crowded with
      refusals := OrderedMap.ofList [((directory, .remove), .permissionDenied)] }
    let marks : Marks := ⟨some .permissionDenied, none, some 7⟩
    let hidden := { base with marks := OrderedMap.ofList [(target, marks), (second, marks)] }
    let write := cache.write [⟨"A", "1", .ok⟩]
    (write plain).1 = .ok () ∧ plain.look? other = none ∧
      (write plain).2.look? other = some (.file "A=1\n".toUTF8) ∧
      (write hidden).1 = .ok () ∧ (write hidden).2.readText cache.path = "" ∧
      (write hidden).2.at? second = some (.file "A=1\n".toUTF8) ∧
      (write crowded).1 = .error (.cannotWrite cache.path .noSpace) ∧
      (write crowded).2.at? target = some (.file "A=".toUTF8) ∧
      (write bound).1 = .error (.cannotWrite cache.path .noSpace) ∧
      (write bound).2.look? cache.path = some (.link (Path.ofText "../target")) := by
  decide +kernel

end EnvTemplate.Cache
