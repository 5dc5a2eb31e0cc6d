import EnvTemplate.FileTree.Access
import EnvTemplate.FileTree.Edit
import EnvTemplate.Proofs.Walk

namespace EnvTemplate.FileTree

variable {tree opened changed left right : FileTree} {path : Path} {location : Location}
  {places : List Location} {entry : Entry} {content : ByteArray} {cause : FileError}

theorem find?_of_locate (h : tree.locate .target path = .ok location) :
    tree.find? path = tree.at? location := by
  simp only [find?, h]

theorem look?_of_locate (h : tree.locate .entry path = .ok location) :
    tree.look? path = tree.at? location := by
  simp only [look?, h]

theorem locate_target_of_creation (h : tree.locate .creation path = .ok location) :
    tree.locate .target path = .ok location := by
  rw [locate_eq_ok_iff] at h ⊢
  exact ⟨h.1, h.2.target_of_creation⟩

theorem exists_locate_entry (h : tree.locate .target path = .ok location) :
    ∃ place, tree.locate .entry path = .ok place ∧
      (place = location ∨ ∃ target, tree.at? place = some (.link target)) := by
  obtain ⟨hp, hl⟩ := locate_eq_ok_iff.mp h
  obtain ⟨place, he, hc⟩ := hl.entry_of_target
  exact ⟨place, locate_eq_ok_iff.mpr ⟨hp, he⟩, hc⟩

theorem locate_entry_of_target (h : tree.locate .target path = .ok location)
    (hn : tree.look? path = none) : tree.locate .entry path = .ok location := by
  obtain ⟨place, hp, rfl | ⟨target, ht⟩⟩ := exists_locate_entry h
  · exact hp
  · rw [look?_of_locate hp, ht] at hn
    cases hn

theorem find?_of_look?_eq_none (h : tree.look? path = none) : tree.find? path = none := by
  unfold find?
  split
  · rename_i place ht
    rw [← look?_of_locate (locate_entry_of_target ht h), h]
  · rfl

theorem home_put (tree : FileTree) (location : Location) (entry : Entry) :
    (tree.put location entry).home = tree.home := by
  unfold put
  dsimp only
  split <;> rfl

theorem refusals_put (tree : FileTree) (location : Location) (entry : Entry) :
    (tree.put location entry).refusals = tree.refusals := by
  unfold put
  dsimp only
  split <;> rfl

theorem room_put (tree : FileTree) (location : Location) (entry : Entry) :
    (tree.put location entry).room = tree.room := by
  unfold put
  dsimp only
  split <;> rfl

theorem at?_put_self (h : location ≠ []) (entry : Entry) :
    (tree.put location entry).at? location = some entry := by
  rw [at?_put h, if_pos rfl]

theorem at?_erase_self (h : location ≠ []) : (tree.erase location).at? location = none := by
  rw [at?_erase h, if_pos rfl]

theorem sameBut_put (h : location ≠ []) (entry : Entry) :
    SameBut [location] tree (tree.put location entry) where
  home := home_put tree location entry
  at? other ho := by rw [at?_put h, if_neg (List.ne_of_not_mem_cons ho)]
  marksAt other _ := marksAt_put h entry other
  refusals := refusals_put tree location entry
  room := room_put tree location entry

theorem sameBut_erase (h : location ≠ []) : SameBut [location] tree (tree.erase location) where
  home := rfl
  at? other ho := by rw [at?_erase h, if_neg (List.ne_of_not_mem_cons ho)]
  marksAt other ho := marksAt_erase h (List.ne_of_not_mem_cons ho)
  refusals := rfl
  room := rfl

theorem SameBut.refl (places : List Location) (tree : FileTree) : SameBut places tree tree :=
  ⟨rfl, fun _ _ => rfl, fun _ _ => rfl, rfl, rfl⟩

theorem SameBut.symm (h : SameBut places tree changed) : SameBut places changed tree where
  home := h.home.symm
  at? other ho := (h.at? other ho).symm
  marksAt other ho := (h.marksAt other ho).symm
  refusals := h.refusals.symm
  room := h.room.symm

theorem SameBut.trans (h : SameBut places tree opened) (h' : SameBut places opened changed) :
    SameBut places tree changed where
  home := h'.home.trans h.home
  at? other ho := (h'.at? other ho).trans (h.at? other ho)
  marksAt other ho := (h'.marksAt other ho).trans (h.marksAt other ho)
  refusals := h'.refusals.trans h.refusals
  room := h'.room.trans h.room

theorem SameBut.mono (h : SameBut places tree changed) {more : List Location}
    (hm : ∀ place ∈ places, place ∈ more) : SameBut more tree changed where
  home := h.home
  at? other ho := h.at? other fun hp => ho (hm other hp)
  marksAt other ho := h.marksAt other fun hp => ho (hm other hp)
  refusals := h.refusals
  room := h.room

theorem SameBut.refusal? (h : SameBut places tree changed) (operation : Operation)
    (location : Location) : changed.refusal? operation location = tree.refusal? operation location := by
  rw [FileTree.refusal?, FileTree.refusal?, h.refusals]

theorem sameBut_put_put (h : location ≠ []) (entry other : Entry) :
    SameBut [location] (tree.put location entry) (tree.put location other) :=
  (sameBut_put h entry).symm.trans (sameBut_put h other)

theorem at?_putAll (h : ∀ place ∈ places, place ≠ []) (entry : Entry) (other : Location) :
    (tree.putAll places entry).at? other =
      if other ∈ places then some entry else tree.at? other := by
  induction places generalizing tree with
  | nil => rfl
  | cons place places ih =>
    obtain ⟨hp, hr⟩ := List.forall_mem_cons.mp h
    rw [putAll, List.foldl_cons, ← putAll, ih hr, at?_put hp]
    by_cases ho : other ∈ places <;> by_cases he : other = place <;> simp [ho, he]

theorem sameBut_putAll (h : ∀ place ∈ places, place ≠ []) (entry : Entry) :
    SameBut places tree (tree.putAll places entry) := by
  induction places generalizing tree with
  | nil => exact .refl _ _
  | cons place places ih =>
    obtain ⟨hp, hr⟩ := List.forall_mem_cons.mp h
    have hfirst : SameBut (place :: places) tree (tree.put place entry) :=
      (sameBut_put hp entry).mono (by simp)
    exact hfirst.trans ((ih hr).mono fun _ hm => List.mem_cons_of_mem _ hm)

theorem marksAt_putAll (h : ∀ place ∈ places, place ≠ []) (entry : Entry) (other : Location) :
    (tree.putAll places entry).marksAt other = tree.marksAt other := by
  induction places generalizing tree with
  | nil => rfl
  | cons place places ih =>
    obtain ⟨hp, hr⟩ := List.forall_mem_cons.mp h
    rw [putAll, List.foldl_cons, ← putAll, ih hr, marksAt_put hp]

theorem holdsFile_iff : tree.holdsFile location ↔ ∃ content, tree.at? location = some (.file content) := by
  unfold holdsFile
  split
  · rename_i content ha
    simp [ha]
  · rename_i hf
    simpa using hf

theorem isLeaf_of_holdsFile (h : tree.holdsFile location) : IsLeaf (tree.at? location) := by
  obtain ⟨content, ha⟩ := holdsFile_iff.mp h
  simp [IsLeaf, ha]

theorem mem_names_self (tree : FileTree) (location : Location) : location ∈ tree.names location := by
  unfold names
  split <;> exact List.mem_cons_self

theorem holdsFile_of_mem_names (h : tree.holdsFile location) {name : Location}
    (hn : name ∈ tree.names location) : tree.holdsFile name := by
  unfold names at hn
  split at hn
  · rwa [List.mem_singleton.mp hn]
  · rcases List.mem_cons.mp hn with rfl | hm
    · exact h
    · have hf := (List.mem_filter.mp hm).2
      simp only [Bool.and_eq_true] at hf
      exact hf.2

theorem areLeaves_names (h : tree.holdsFile location) : AreLeaves (tree.names location) tree :=
  fun _ hn => isLeaf_of_holdsFile (holdsFile_of_mem_names h hn)

theorem names_of_usual (h : tree.marksAt location = .usual) : tree.names location = [location] := by
  rw [names, h]
  rfl

theorem at?_fill (h : tree.holdsFile location) (content : ByteArray) (other : Location) :
    (tree.fill location content).at? other =
      if other ∈ tree.names location then some (.file content) else tree.at? other :=
  at?_putAll (fun _ hm => (areLeaves_names h _ hm).ne_nil) _ _

theorem sameBut_fill (h : tree.holdsFile location) (content : ByteArray) :
    SameBut (tree.names location) tree (tree.fill location content) :=
  sameBut_putAll (fun _ hm => (areLeaves_names h _ hm).ne_nil) _

theorem marksAt_fill (h : tree.holdsFile location) (content : ByteArray) (other : Location) :
    (tree.fill location content).marksAt other = tree.marksAt other :=
  marksAt_putAll (fun _ hm => (areLeaves_names h _ hm).ne_nil) _ _

theorem openForWriting_ok (h : tree.openForWriting path = .ok (location, opened)) :
    tree.locate .creation path = .ok location ∧
      (tree.at? location ≠ some .directory ∧ ∀ name, tree.at? location ≠ some (.program name)) ∧
      ((tree.at? location = none ∧ opened = tree.put location (.file ByteArray.empty)) ∨
        (tree.at? location ≠ none ∧ opened = tree)) := by
  unfold openForWriting at h
  split at h
  · cases h
  · rename_i place hp
    split at h
    · rename_i ha
      split at h
      · cases h
      · cases h
        exact ⟨hp, by simp [ha], .inl ⟨ha, rfl⟩⟩
    · cases h
    · cases h
    · rename_i entry hd hr ha
      split at h
      · cases h
      · cases h
        exact ⟨hp, by simpa [ha] using And.intro hd hr, .inr ⟨by simp [ha], rfl⟩⟩

/-- A file that has been opened keeps its names and its marks, and no more than an empty file has
been made. -/
structure Opened (tree : FileTree) (path : Path) (location : Location) (opened : FileTree) : Prop where
  locate : tree.locate .creation path = .ok location
  kind : tree.at? location ≠ some .directory ∧ ∀ name, tree.at? location ≠ some (.program name)
  names : opened.names location = tree.names location
  marksAt : opened.marksAt location = tree.marksAt location
  sameBut : SameBut [location] tree opened
  ends : opened = tree ∨
    tree.at? location = none ∧ opened = tree.put location (.file ByteArray.empty)

theorem opened_of_ok (h : tree.openForWriting path = .ok (location, opened)) :
    Opened tree path location opened := by
  obtain ⟨hl, hk, ⟨hn, rfl⟩ | ⟨-, rfl⟩⟩ := openForWriting_ok h
  · have hne : location ≠ [] := ne_nil_of_none hn
    have hm : (tree.put location (.file ByteArray.empty)).marksAt location = tree.marksAt location :=
      marksAt_put hne _ _
    have hu : tree.marksAt location = .usual := marksAt_of_none hn
    exact ⟨hl, hk, by rw [names_of_usual (hm.trans hu), names_of_usual hu], hm, sameBut_put hne _,
      .inr ⟨hn, rfl⟩⟩
  · exact ⟨hl, hk, rfl, rfl, .refl _ _, .inl rfl⟩

theorem Opened.none_or_holdsFile (h : Opened tree path location opened)
    (hf : opened.holdsFile location) {name : Location} (hn : name ∈ tree.names location) :
    tree.at? name = none ∨ tree.holdsFile name := by
  rcases h.ends with rfl | ⟨hnone, -⟩
  · exact .inr (holdsFile_of_mem_names hf hn)
  · rw [names_of_usual (marksAt_of_none hnone), List.mem_singleton] at hn
    exact .inl (hn ▸ hnone)

theorem Opened.areLeaves (h : Opened tree path location opened) (hf : opened.holdsFile location) :
    AreLeaves (tree.names location) tree := by
  intro name hn
  rcases h.none_or_holdsFile hf hn with hnone | hfile
  · simp [IsLeaf, hnone]
  · exact isLeaf_of_holdsFile hfile

theorem Opened.locate_opened (h : Opened tree path location opened) {purpose : Purpose}
    {other : Path} {goal : Location} (hl : tree.locate purpose other = .ok goal) :
    opened.locate purpose other = .ok goal := by
  rcases h.ends with rfl | ⟨hn, rfl⟩
  · exact hl
  · exact locate_of_sameBut hl h.sameBut (areLeaves_of_none hn)
      (areLeaves_of_file (at?_put_self (ne_nil_of_none hn) _))

theorem Opened.sameBut_fill (h : Opened tree path location opened)
    (hf : opened.holdsFile location) (content : ByteArray) :
    SameBut (tree.names location) tree (opened.fill location content) := by
  have hs := FileTree.sameBut_fill hf content
  rw [h.names] at hs
  have ho : SameBut (tree.names location) tree opened :=
    h.sameBut.mono fun place hm => List.mem_singleton.mp hm ▸ mem_names_self tree location
  exact ho.trans hs

theorem Opened.at?_fill (h : Opened tree path location opened) (hf : opened.holdsFile location)
    (content : ByteArray) {name : Location} (hn : name ∈ tree.names location) :
    (opened.fill location content).at? name = some (.file content) := by
  rw [FileTree.at?_fill hf, h.names, if_pos hn]

theorem Opened.areLeaves_fill (h : Opened tree path location opened)
    (hf : opened.holdsFile location) (content : ByteArray) :
    AreLeaves (tree.names location) (opened.fill location content) := by
  intro name hn
  rw [h.at?_fill hf content hn]
  simp [IsLeaf]

theorem Opened.locate_fill (h : Opened tree path location opened) (hf : opened.holdsFile location)
    (content : ByteArray) {purpose : Purpose} {other : Path} {goal : Location}
    (hl : tree.locate purpose other = .ok goal) :
    (opened.fill location content).locate purpose other = .ok goal :=
  locate_of_sameBut hl (h.sameBut_fill hf content) (h.areLeaves hf) (h.areLeaves_fill hf content)

/-- What there is after no more than a beginning of a content has been put into an opened file. -/
structure Torn (tree : FileTree) (content : ByteArray) (location : Location) (torn : FileTree) :
    Prop where
  sameBut : SameBut (tree.names location) tree torn
  locate : ∀ purpose path goal, tree.locate purpose path = .ok goal →
    torn.locate purpose path = .ok goal
  ends : torn = tree ∨ ∃ bytes, ∀ name ∈ tree.names location,
    (tree.at? name = none ∨ tree.holdsFile name) ∧
      torn.at? name = some (.file (content.extract 0 bytes))

theorem Opened.torn (h : Opened tree path location opened) (content : ByteArray) :
    Torn tree content location opened where
  sameBut := h.sameBut.mono fun name hn => List.mem_singleton.mp hn ▸ mem_names_self tree location
  locate _ _ _ hl := h.locate_opened hl
  ends := by
    rcases h.ends with rfl | ⟨hn, rfl⟩
    · exact .inl rfl
    · have hne : location ≠ [] := ne_nil_of_none hn
      refine .inr ⟨0, ?_⟩
      rw [names_of_usual (marksAt_of_none hn), List.forall_mem_singleton, at?_put_self hne,
        ByteArray.extract_same]
      exact ⟨.inl hn, rfl⟩

theorem Opened.torn_fill (h : Opened tree path location opened) (hf : opened.holdsFile location)
    (content : ByteArray) (bytes : Nat) :
    Torn tree content location (opened.fill location (content.extract 0 bytes)) where
  sameBut := h.sameBut_fill hf _
  locate _ _ _ hl := h.locate_fill hf _ hl
  ends := .inr ⟨bytes, fun _ hn => ⟨h.none_or_holdsFile hf hn, h.at?_fill hf _ hn⟩⟩

theorem Torn.at?_cases {torn : FileTree} (h : Torn tree content location torn) {name : Location}
    (hn : name ∈ tree.names location) : torn.at? name = tree.at? name ∨
      (tree.at? name = none ∨ tree.holdsFile name) ∧
        ∃ bytes, torn.at? name = some (.file (content.extract 0 bytes)) := by
  rcases h.ends with rfl | ⟨bytes, hb⟩
  · exact .inl rfl
  · exact .inr ⟨(hb name hn).1, bytes, (hb name hn).2⟩

inductive WriteEnds (tree : FileTree) (content : ByteArray) (location : Location) :
    Except FileError Unit × FileTree → Prop
  | refused {cause : FileError} : WriteEnds tree content location (.error cause, tree)
  | broken {cause : FileError} {bytes : Nat} : tree.holdsFile location →
      WriteEnds tree content location (.error cause, tree.fill location (content.extract 0 bytes))
  | done : tree.holdsFile location →
      WriteEnds tree content location (.ok (), tree.fill location content)

theorem writeEnds (tree : FileTree) (content : ByteArray) (location : Location) :
    WriteEnds tree content location (tree.write content location) := by
  unfold write
  split
  · rename_i old ha
    have hf : tree.holdsFile location := holdsFile_iff.mpr ⟨old, ha⟩
    split
    · exact .refused
    · split
      · exact .broken hf
      · split
        · rename_i cause _
          have hb : WriteEnds tree content location
              (.error cause, tree.fill location (content.extract 0 content.size)) := .broken hf
          rwa [ByteArray.extract_zero_size] at hb
        · exact .done hf
  · exact .refused

theorem unlink_ok (h : tree.unlink path = .ok changed) :
    ∃ location, tree.locate .entry path = .ok location ∧ tree.at? location ≠ none ∧
      tree.at? location ≠ some .directory ∧ location ≠ [] ∧ changed = tree.erase location := by
  unfold unlink at h
  split at h
  · cases h
  · rename_i location hl
    refine ⟨location, hl, ?_⟩
    split at h
    · cases h
    · cases h
    · cases h
    · cases h
    · cases h
    · rename_i entry hd _ _ ha _
      cases h
      have hd' : tree.at? location ≠ some .directory := fun he =>
        hd (Option.some.inj (ha.symm.trans he))
      refine ⟨by simp [ha], hd', fun hn => ?_, rfl⟩
      subst hn
      exact hd' rfl

/-- What has been taken away stands at its path no more, even if the path went through it. -/
theorem look?_unlinked (h : tree.unlink path = .ok changed) : changed.look? path = none := by
  obtain ⟨location, hl, -, -, hne, rfl⟩ := unlink_ok h
  have hn : (tree.erase location).at? location = none := at?_erase_self hne
  cases hg : (tree.erase location).locate .entry path with
  | error e => simp only [look?, hg]
  | ok goal =>
    rw [look?_of_locate hg]
    by_cases he : goal = location
    · rw [he, hn]
    · rw [locate_of_sameBut_of_notMem hg (sameBut_erase hne) (areLeaves_of_none hn)
        (by simpa using he)] at hl
      exact absurd (Except.ok.inj hl) he

def IsRemovable : Option Entry → Prop
  | none | some (.file _) | some (.link _) => True
  | some .directory | some (.device _) | some (.program _) => False

/-- The directory of an entry lets it be taken away. -/
def mayRemove (tree : FileTree) (path : Path) : Bool :=
  match tree.locate .entry path with
  | .ok location => (tree.refusal? .remove location.dropLast).isNone
  | .error _ => true

theorem mayRemove_of_locate (h : tree.locate .entry path = .ok location) :
    tree.mayRemove path = (tree.refusal? .remove location.dropLast).isNone := by
  simp only [mayRemove, h]

theorem unlink_of_isRemovable (hl : tree.locate .entry path = .ok location)
    (hr : IsRemovable (tree.at? location)) (hs : tree.at? location ≠ none)
    (hm : tree.mayRemove path) : tree.unlink path = .ok (tree.erase location) := by
  rw [mayRemove_of_locate hl, Option.isNone_iff_eq_none] at hm
  cases ha : tree.at? location with
  | none => exact absurd ha hs
  | some entry =>
    rw [ha] at hr
    cases entry with
    | file _ | link _ => simp only [unlink, hl, ha, hm]
    | directory | device _ | program _ => exact hr.elim

def mayLock (tree : FileTree) (path : Path) : Bool :=
  match tree.locate .target path with
  | .ok location => (tree.refusal? .lock location).isNone
  | .error _ => true

theorem mayLock_of_locate (h : tree.locate .target path = .ok location) :
    tree.mayLock path = (tree.refusal? .lock location).isNone := by
  simp only [mayLock, h]

def mayRead (tree : FileTree) (path : Path) : Bool :=
  match tree.locate .target path with
  | .ok location => (tree.marksAt location).unreadable.isNone
  | .error _ => true

theorem mayRead_of_locate (h : tree.locate .target path = .ok location) :
    tree.mayRead path = (tree.marksAt location).unreadable.isNone := by
  simp only [mayRead, h]

theorem mayRead_of_none (h : tree.locate .target path = .ok location)
    (hn : tree.at? location = none) : tree.mayRead path := by
  rw [mayRead_of_locate h, marksAt_of_none hn]
  rfl

theorem readText_of_locate (h : tree.locate .target path = .ok location) :
    tree.readText path = tree.textAt location := by
  simp only [readText, h]

theorem textAt_congr (ha : changed.at? location = tree.at? location)
    (hm : changed.marksAt location = tree.marksAt location) :
    changed.textAt location = tree.textAt location := by
  simp only [textAt, ha, hm]

theorem textAt_of_file (ha : tree.at? location = some (.file content)) :
    tree.textAt location = (String.fromUTF8? content).getD "" ∧
        (tree.marksAt location).unreadable = none ∨
      tree.textAt location = "" ∧ (tree.marksAt location).unreadable ≠ none := by
  cases hm : (tree.marksAt location).unreadable <;> simp [textAt, ha, hm]

/-- Of changes at some locations, where leaves are left, no more than that is read at any path. -/
theorem readText_of_sameBut (hs : SameBut places tree changed) (new : AreLeaves places changed)
    (path : Path) :
    changed.readText path = tree.readText path ∨
      (∃ place ∈ places, changed.readText path = changed.textAt place) ∨
        changed.readText path = "" := by
  cases hl : changed.locate .target path with
  | error e => exact .inr (.inr (by simp only [readText, hl]))
  | ok goal =>
    rw [readText_of_locate hl]
    by_cases hg : goal ∈ places
    · exact .inr (.inl ⟨goal, hg, rfl⟩)
    · rw [readText_of_locate (locate_of_sameBut_of_notMem hl hs new hg)]
      exact .inl (textAt_congr (hs.at? goal hg) (hs.marksAt goal hg))

/-- Of changes at some locations, where leaves were and are left, nothing is read at a path that
leads elsewhere. -/
theorem readText_of_sameBut_of_ne (hs : SameBut places tree changed) (old : AreLeaves places tree)
    (new : AreLeaves places changed)
    (hne : ∀ place ∈ places, tree.locate .target path ≠ .ok place) :
    changed.readText path = tree.readText path := by
  cases hl : tree.locate .target path with
  | ok goal =>
    have hg : goal ∉ places := fun hm => hne goal hm hl
    rw [readText_of_locate hl, readText_of_locate (locate_of_sameBut hl hs old new)]
    exact textAt_congr (hs.at? goal hg) (hs.marksAt goal hg)
  | error e =>
    cases hc : changed.locate .target path with
    | error e' => simp only [readText, hl, hc]
    | ok goal =>
      rw [locate_of_sameBut hc hs.symm new old] at hl
      cases hl

theorem Same.readText (h : left.Same right) (path : Path) :
    right.readText path = left.readText path := by
  simp only [FileTree.readText, textAt, h.locate, h.at?, h.marksAt]

def IsBeginning (content : ByteArray) (text : String) : Prop :=
  ∃ bytes, text = (String.fromUTF8? (content.extract 0 bytes)).getD ""

theorem isBeginning_empty (content : ByteArray) : IsBeginning content "" := by
  refine ⟨0, ?_⟩
  rw [ByteArray.extract_same]
  rfl

theorem Torn.readText {torn : FileTree} (h : Torn tree content location torn) (other : Path) :
    torn.readText other = tree.readText other ∨ IsBeginning content (torn.readText other) := by
  rcases h.ends with rfl | ⟨bytes, hb⟩
  · exact .inl rfl
  · have new : AreLeaves (tree.names location) torn := fun name hn => by
      simp [IsLeaf, (hb name hn).2]
    rcases readText_of_sameBut h.sameBut new other with ht | ⟨name, hn, ht⟩ | ht
    · exact .inl ht
    · rw [ht]
      rcases textAt_of_file (hb name hn).2 with ⟨he, -⟩ | ⟨he, -⟩
      · exact .inr ⟨bytes, he⟩
      · rw [he]
        exact .inr (isBeginning_empty content)
    · rw [ht]
      exact .inr (isBeginning_empty content)

theorem Opened.readText_fill_self (h : Opened tree path location opened)
    (hf : opened.holdsFile location) (content : ByteArray) :
    (opened.fill location content).readText path =
      if tree.mayRead path then (String.fromUTF8? content).getD "" else "" := by
  have ht := locate_target_of_creation h.locate
  have hm : (opened.fill location content).marksAt location = tree.marksAt location :=
    (marksAt_fill hf content location).trans h.marksAt
  rw [readText_of_locate (h.locate_fill hf content ht), mayRead_of_locate ht, textAt,
    h.at?_fill hf content (mem_names_self tree location), hm]
  cases (tree.marksAt location).unreadable <;> rfl

theorem readText_unlinked (h : tree.unlink path = .ok changed) (other : Path) :
    changed.readText other = tree.readText other ∨ changed.readText other = "" := by
  obtain ⟨location, -, -, -, hne, rfl⟩ := unlink_ok h
  have hn : (tree.erase location).at? location = none := at?_erase_self hne
  rcases readText_of_sameBut (sameBut_erase hne) (areLeaves_of_none hn) other with ht | ⟨place, hp, ht⟩ | ht
  · exact .inl ht
  · obtain rfl := List.mem_singleton.mp hp
    rw [ht, textAt, hn]
    exact .inr rfl
  · exact .inr ht

end EnvTemplate.FileTree
