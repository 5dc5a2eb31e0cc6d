import EnvTemplate.FileTree.Walk

namespace EnvTemplate.FileTree

structure IsStep (purpose : Purpose) (name : Name) (rest : List Name) : Prop where
  not_stay : ¬(name = [] ∨ name = currentName)
  not_up : name ≠ parentName
  not_slash : ¬(purpose = .creation ∧ rest = [[]])
  short : ¬maxNameBytes < name.length

/-- Nothing, or an entry at which a walk has to end. -/
def IsLeaf (entry : Option Entry) : Prop :=
  entry ≠ some .directory ∧ ∀ target, entry ≠ some (.link target)

inductive Leads (tree : FileTree) (purpose : Purpose) :
    Nat → Location → List Name → Location → Prop
  | done {links : Nat} {here : Location} : Leads tree purpose links here [] here
  | stay {links : Nat} {here : Location} {name : Name} {rest : List Name} {location : Location} :
      name = [] ∨ name = currentName → Leads tree purpose links here rest location →
      Leads tree purpose links here (name :: rest) location
  | up {links : Nat} {here : Location} {name : Name} {rest : List Name} {location : Location} :
      ¬(name = [] ∨ name = currentName) → name = parentName →
      Leads tree purpose links here.dropLast rest location →
      Leads tree purpose links here (name :: rest) location
  | enter {links : Nat} {here : Location} {name : Name} {rest : List Name} {location : Location} :
      IsStep purpose name rest → tree.at? (here ++ [name]) = some .directory →
      Leads tree purpose links (here ++ [name]) rest location →
      Leads tree purpose links here (name :: rest) location
  | arrive {links : Nat} {here : Location} {name : Name} :
      IsStep purpose name [] → IsLeaf (tree.at? (here ++ [name])) →
      Leads tree purpose links here [name] (here ++ [name])
  | stop {links : Nat} {here : Location} {name : Name} {target : Path} :
      IsStep purpose name [] → purpose = .entry →
      tree.at? (here ++ [name]) = some (.link target) →
      Leads tree purpose links here [name] (here ++ [name])
  | follow {links : Nat} {here : Location} {name : Name} {rest : List Name} {target : Path}
      {location : Location} :
      IsStep purpose name rest → ¬(purpose = .entry ∧ rest = []) →
      tree.at? (here ++ [name]) = some (.link target) → target.bytes ≠ [] →
      Leads tree purpose links (if target.isAbsolute then [] else here) (target.names ++ rest)
        location →
      Leads tree purpose (links + 1) here (name :: rest) location

variable {tree changed left right : FileTree} {purpose : Purpose} {links : Nat}
  {here location goal : Location}
  {name : Name} {rest names : List Name} {path target : Path}
  {follow : Location → Path → List Name → Except FileError Location} {places : List Location}

theorem walkFrom_step (hs : IsStep purpose name rest) :
    walkFrom tree purpose follow here (name :: rest) =
      match tree.at? (here ++ [name]) with
      | none => if rest = [] then .ok (here ++ [name]) else .error .notFound
      | some .directory => walkFrom tree purpose follow (here ++ [name]) rest
      | some (.link target) =>
        if purpose = .entry ∧ rest = [] then .ok (here ++ [name]) else follow here target rest
      | some _ => if rest = [] then .ok (here ++ [name]) else .error .notADirectory := by
  rw [walkFrom]
  exact (if_neg hs.not_stay).trans <| (if_neg hs.not_up).trans <|
    (if_neg hs.not_slash).trans (if_neg hs.short)

theorem walkFrom_leaf (hs : IsStep purpose name rest) (ha : IsLeaf (tree.at? (here ++ [name])))
    (h : walkFrom tree purpose follow here (name :: rest) = .ok location) :
    rest = [] ∧ here ++ [name] = location := by
  rw [walkFrom_step hs] at h
  split at h
  · split at h
    · exact ⟨‹_›, Except.ok.inj h⟩
    · cases h
  · exact absurd ‹_› ha.1
  · exact absurd ‹_› (ha.2 _)
  · split at h
    · exact ⟨‹_›, Except.ok.inj h⟩
    · cases h

theorem leads_of_walkFrom
    (hf : ∀ {here target rest location}, follow here target rest = .ok location →
      ∃ fewer, links = fewer + 1 ∧ target.bytes ≠ [] ∧
        Leads tree purpose fewer (if target.isAbsolute then [] else here) (target.names ++ rest)
          location)
    (h : walkFrom tree purpose follow here names = .ok location) :
    Leads tree purpose links here names location := by
  induction names generalizing here with
  | nil =>
    obtain rfl : here = location := by simpa [walkFrom] using h
    exact .done
  | cons name rest ih =>
    by_cases hstay : name = [] ∨ name = currentName
    · rw [walkFrom, if_pos hstay] at h
      exact .stay hstay (ih h)
    by_cases hup : name = parentName
    · rw [walkFrom, if_neg hstay, if_pos hup] at h
      exact .up hstay hup (ih h)
    by_cases hslash : purpose = .creation ∧ rest = [[]]
    · rw [walkFrom, if_neg hstay, if_neg hup, if_pos hslash] at h
      cases h
    by_cases hlong : maxNameBytes < name.length
    · rw [walkFrom, if_neg hstay, if_neg hup, if_neg hslash, if_pos hlong] at h
      cases h
    have hs : IsStep purpose name rest := ⟨hstay, hup, hslash, hlong⟩
    by_cases hd : tree.at? (here ++ [name]) = some .directory
    · simp only [walkFrom_step hs, hd] at h
      exact .enter hs hd (ih h)
    by_cases hl : ∃ target, tree.at? (here ++ [name]) = some (.link target)
    · obtain ⟨target, ha⟩ := hl
      simp only [walkFrom_step hs, ha] at h
      split at h
      · rename_i he
        obtain ⟨he, rfl⟩ := he
        cases h
        exact .stop hs he ha
      · rename_i he
        obtain ⟨fewer, rfl, hb, ht⟩ := hf h
        exact .follow hs he ha hb ht
    · have hleaf : IsLeaf (tree.at? (here ++ [name])) := ⟨hd, fun target ha => hl ⟨target, ha⟩⟩
      obtain ⟨rfl, rfl⟩ := walkFrom_leaf hs hleaf h
      exact .arrive hs hleaf

theorem leads_of_walk (h : tree.walk purpose links here names = .ok location) :
    Leads tree purpose links here names location := by
  induction links generalizing here names location with
  | zero => exact leads_of_walkFrom (by simp) h
  | succ links ih =>
    refine leads_of_walkFrom (fun {_ target _ _} hf => ?_) h
    by_cases hb : target.bytes = []
    · rw [if_pos hb] at hf
      cases hf
    · rw [if_neg hb] at hf
      exact ⟨links, rfl, hb, ih hf⟩

theorem exists_walk_eq (tree : FileTree) (purpose : Purpose) (links : Nat) :
    ∃ follow, tree.walk purpose links = walkFrom tree purpose follow := by
  cases links <;> exact ⟨_, rfl⟩

theorem walk_of_leads (h : Leads tree purpose links here names location) :
    tree.walk purpose links here names = .ok location := by
  induction h with
  | @done links here =>
    obtain ⟨follow, hw⟩ := exists_walk_eq tree purpose links
    rw [hw, walkFrom]
  | @stay links here name rest location hs _ ih =>
    obtain ⟨follow, hw⟩ := exists_walk_eq tree purpose links
    rw [hw] at ih ⊢
    rw [walkFrom, if_pos hs, ih]
  | @up links here name rest location hs hu _ ih =>
    obtain ⟨follow, hw⟩ := exists_walk_eq tree purpose links
    rw [hw] at ih ⊢
    rw [walkFrom, if_neg hs, if_pos hu, ih]
  | @enter links here name rest location hs ha _ ih =>
    obtain ⟨follow, hw⟩ := exists_walk_eq tree purpose links
    rw [hw] at ih ⊢
    simp only [walkFrom_step hs, ha, ih]
  | @arrive links here name hs ha =>
    obtain ⟨follow, hw⟩ := exists_walk_eq tree purpose links
    rw [hw, walkFrom_step hs]
    split
    · rfl
    · exact absurd ‹_› ha.1
    · exact absurd ‹_› (ha.2 _)
    · rfl
  | @stop links here name target hs hp ha =>
    obtain ⟨follow, hw⟩ := exists_walk_eq tree purpose links
    rw [hw, walkFrom_step hs]
    simp only [ha]
    exact if_pos ⟨hp, trivial⟩
  | follow hs hr ha hb _ ih =>
    rw [walk, walkFrom_step hs]
    simp only [ha, if_neg hr, if_neg hb, ih]

theorem walk_eq_ok_iff : tree.walk purpose links here names = .ok location ↔
    Leads tree purpose links here names location :=
  ⟨leads_of_walk, walk_of_leads⟩

theorem locate_eq_ok_iff : tree.locate purpose path = .ok location ↔
    (path.bytes ≠ [] ∧ 0 ∉ path.bytes ∧ ¬maxPathBytes < path.bytes.length) ∧
      Leads tree purpose maxLinks (if path.isAbsolute then [] else tree.home) path.names
        location := by
  rw [← walk_eq_ok_iff]
  unfold locate
  by_cases he : path.bytes = []
  · simp [he]
  by_cases hz : 0 ∈ path.bytes
  · simp [he, hz]
  by_cases hl : maxPathBytes < path.bytes.length
  · simp [he, hz, hl]
  · simp [he, hz, hl]

theorem IsStep.weaken {other : Purpose} (h : IsStep purpose name rest) (ho : other ≠ .creation) :
    IsStep other name rest :=
  ⟨h.not_stay, h.not_up, fun hc => ho hc.1, h.short⟩

theorem Leads.target_of_creation (h : Leads tree .creation links here names location) :
    Leads tree .target links here names location := by
  induction h with
  | done => exact .done
  | stay hs _ ih => exact .stay hs ih
  | up hs hu _ ih => exact .up hs hu ih
  | enter hs ha _ ih => exact .enter (hs.weaken (by simp)) ha ih
  | arrive hs ha => exact .arrive (hs.weaken (by simp)) ha
  | stop _ hp => cases hp
  | follow hs _ ha hb _ ih => exact .follow (hs.weaken (by simp)) (by simp) ha hb ih

theorem Leads.entry_of_target (h : Leads tree .target links here names location) :
    ∃ entry, Leads tree .entry links here names entry ∧
      (entry = location ∨ ∃ target, tree.at? entry = some (.link target)) := by
  induction h with
  | done => exact ⟨_, .done, .inl rfl⟩
  | stay hs _ ih => exact ih.imp fun _ h => ⟨.stay hs h.1, h.2⟩
  | up hs hu _ ih => exact ih.imp fun _ h => ⟨.up hs hu h.1, h.2⟩
  | enter hs ha _ ih => exact ih.imp fun _ h => ⟨.enter (hs.weaken (by simp)) ha h.1, h.2⟩
  | arrive hs ha => exact ⟨_, .arrive (hs.weaken (by simp)) ha, .inl rfl⟩
  | stop _ hp => cases hp
  | @follow links here name rest target location hs _ ha hb _ ih =>
    have hs' : IsStep .entry name rest := hs.weaken (by simp)
    by_cases hr : rest = []
    · subst hr
      exact ⟨_, .stop hs' rfl ha, .inr ⟨target, ha⟩⟩
    · exact ih.imp fun _ h => ⟨.follow hs' (fun he => hr he.2) ha hb h.1, h.2⟩

structure SameBut (places : List Location) (tree changed : FileTree) : Prop where
  home : changed.home = tree.home
  at? : ∀ other, other ∉ places → changed.at? other = tree.at? other
  marksAt : ∀ other, other ∉ places → changed.marksAt other = tree.marksAt other
  refusals : changed.refusals = tree.refusals
  room : changed.room = tree.room

def AreLeaves (places : List Location) (tree : FileTree) : Prop :=
  ∀ place ∈ places, IsLeaf (tree.at? place)

theorem areLeaves_singleton : AreLeaves [location] tree ↔ IsLeaf (tree.at? location) :=
  List.forall_mem_singleton

theorem areLeaves_of_none (h : tree.at? location = none) : AreLeaves [location] tree :=
  areLeaves_singleton.mpr (by simp [IsLeaf, h])

theorem areLeaves_of_file {content : ByteArray} (h : tree.at? location = some (.file content)) :
    AreLeaves [location] tree :=
  areLeaves_singleton.mpr (by simp [IsLeaf, h])

theorem IsLeaf.ne_nil (h : IsLeaf (tree.at? location)) : location ≠ [] := by
  rintro rfl
  exact h.1 rfl

theorem ne_nil_of_none (h : tree.at? location = none) : location ≠ [] :=
  (areLeaves_singleton.mp (areLeaves_of_none h)).ne_nil

/-- A walk that ends at a leaf does not pass through one, so what is put in the place of leaves
does not lead it astray; a link in the place is an end only to a walk for the entry itself. -/
theorem Leads.of_sameBut (h : Leads tree purpose links here names location)
    (hs : SameBut places tree changed) (old : AreLeaves places tree)
    (hd : ∀ place ∈ places, changed.at? place ≠ some .directory)
    (hl : purpose = .entry ∨
      ∀ place ∈ places, ∀ target, changed.at? place ≠ some (.link target)) :
    Leads changed purpose links here names location := by
  induction h with
  | done => exact .done
  | stay hn _ ih => exact .stay hn ih
  | up hn hu _ ih => exact .up hn hu ih
  | @enter links here name rest location hn ha _ ih =>
    have hne : here ++ [name] ∉ places := fun hm => (old _ hm).1 ha
    exact .enter hn ((hs.at? _ hne).trans ha) ih
  | @arrive links here name hn ha =>
    by_cases hm : here ++ [name] ∈ places
    · by_cases ht : ∃ target, changed.at? (here ++ [name]) = some (.link target)
      · obtain ⟨target, ht⟩ := ht
        exact .stop hn (hl.resolve_right fun hf => hf _ hm target ht) ht
      · exact .arrive hn ⟨hd _ hm, fun target ha => ht ⟨target, ha⟩⟩
    · exact .arrive hn (hs.at? _ hm ▸ ha)
  | @stop links here name target hn hp ha =>
    have hne : here ++ [name] ∉ places := fun hm => (old _ hm).2 target ha
    exact .stop hn hp ((hs.at? _ hne).trans ha)
  | @follow links here name rest target location hn hp ha hb _ ih =>
    have hne : here ++ [name] ∉ places := fun hm => (old _ hm).2 target ha
    exact .follow hn hp ((hs.at? _ hne).trans ha) hb ih

/-- A walk that ends elsewhere does not pass through leaves either, so it leads to the same end
whatever else stands in their places. -/
theorem Leads.of_sameBut_of_notMem (h : Leads changed purpose links here names goal)
    (hs : SameBut places tree changed) (new : AreLeaves places changed) (hg : goal ∉ places) :
    Leads tree purpose links here names goal := by
  induction h with
  | done => exact .done
  | stay hn _ ih => exact .stay hn (ih hg)
  | up hn hu _ ih => exact .up hn hu (ih hg)
  | @enter links here name rest goal hn ha _ ih =>
    have hl : here ++ [name] ∉ places := fun hm => (new _ hm).1 ha
    exact .enter hn ((hs.at? _ hl).symm.trans ha) (ih hg)
  | arrive hn ha => exact .arrive hn (hs.at? _ hg ▸ ha)
  | stop hn hp ha => exact .stop hn hp ((hs.at? _ hg).symm.trans ha)
  | @follow links here name rest target goal hn hp ha hb _ ih =>
    have hl : here ++ [name] ∉ places := fun hm => (new _ hm).2 target ha
    exact .follow hn hp ((hs.at? _ hl).symm.trans ha) hb (ih hg)

theorem locate_of_sameBut (h : tree.locate purpose path = .ok location)
    (hs : SameBut places tree changed) (old : AreLeaves places tree)
    (new : AreLeaves places changed) : changed.locate purpose path = .ok location := by
  obtain ⟨hp, hl⟩ := locate_eq_ok_iff.mp h
  rw [locate_eq_ok_iff, hs.home]
  exact ⟨hp, hl.of_sameBut hs old (fun place hm => (new place hm).1)
    (.inr fun place hm => (new place hm).2)⟩

theorem locate_of_sameBut_of_notMem (h : changed.locate purpose path = .ok goal)
    (hs : SameBut places tree changed) (new : AreLeaves places changed) (hg : goal ∉ places) :
    tree.locate purpose path = .ok goal := by
  obtain ⟨hp, hl⟩ := locate_eq_ok_iff.mp h
  rw [locate_eq_ok_iff, ← hs.home]
  exact ⟨hp, hl.of_sameBut_of_notMem hs new hg⟩

structure Same (left right : FileTree) : Prop where
  home : right.home = left.home
  at? : ∀ location, right.at? location = left.at? location
  marksAt : ∀ location, right.marksAt location = left.marksAt location
  refusals : right.refusals = left.refusals
  room : right.room = left.room

theorem Same.walkFrom (h : left.Same right) :
    FileTree.walkFrom right purpose follow here names =
      FileTree.walkFrom left purpose follow here names := by
  induction names generalizing here with
  | nil => rfl
  | cons name rest ih => simp only [FileTree.walkFrom, h.at?, ih]

theorem Same.walk (h : left.Same right) (purpose : Purpose) (links : Nat) :
    right.walk purpose links = left.walk purpose links := by
  induction links with
  | zero =>
    funext here names
    exact h.walkFrom
  | succ links ih =>
    funext here names
    simp only [FileTree.walk, ih]
    exact h.walkFrom

theorem Same.locate (h : left.Same right) (purpose : Purpose) (path : Path) :
    right.locate purpose path = left.locate purpose path := by
  simp only [FileTree.locate, h.walk, h.home]

end EnvTemplate.FileTree
