import EnvTemplate.Proofs.FileAccess
import EnvTemplate.Proofs.LineFormat
import EnvTemplate.Publisher.Cache

namespace EnvTemplate.Cache

open FileTree

variable {cache : Cache} {tree opened changed : FileTree} {verdicts : Verdicts}
  {content : ByteArray} {location : Location}

theorem keeps_iff {value : String} : keeps value ↔
    '\n' ∉ value.toList ∧ '\r' ∉ value.toList ∧ Text.trim value.toList = value.toList := by
  simp [keeps, and_assoc]

theorem isValue_of_keeps {value : String} (h : keeps value) : EnvFile.IsValue value :=
  have hk := keeps_iff.mp h
  ⟨hk.2.2, hk.1⟩

theorem read?_of_none (h : tree.find? cache.path = none) : cache.read? tree = none := by
  simp [read?, isPresent, isFile, h]

theorem read?_of_look?_eq_none (h : tree.look? cache.path = none) : cache.read? tree = none :=
  read?_of_none (find?_of_look?_eq_none h)

theorem read?_of_file (h : tree.find? cache.path = some (.file content)) :
    cache.read? tree = some (EnvFile.parse (tree.readText cache.path)) := by
  simp [read?, isPresent, isFile, h]

theorem eq_parse_of_read? {bindings : Bindings} (h : cache.read? tree = some bindings) :
    bindings = EnvFile.parse (tree.readText cache.path) := by
  unfold read? at h
  split at h
  · exact (Option.some.inj h).symm
  · cases h

theorem isPresent_eq (cache : Cache) (tree : FileTree) :
    cache.isPresent tree = (cache.read? tree).isSome := by
  unfold read?
  split
  · assumption
  · rename_i h
    exact Bool.eq_false_iff.mpr h

def rendered (verdicts : Verdicts) : ByteArray := (EnvFile.render verdicts.passed).toUTF8

inductive Written (cache : Cache) (verdicts : Verdicts) (tree : FileTree) :
    Except Cache.Error Unit × FileTree → Prop
  | refused {before after : Verdicts} {v : Verdict} :
      verdicts = before ++ v :: after → v.isOk → keeps v.value = false →
      (∀ u ∈ before, u.isOk → keeps u.value) →
      Written cache verdicts tree (.error (.unstorable cache.path v.key), tree)
  | unopened {cause : FileError} :
      tree.openForWriting cache.path = .error cause →
      Written cache verdicts tree (.error (.cannotOpen cache.path cause), tree)
  | unlocked {location : Location} {opened : FileTree} {cause : FileError} :
      Opened tree cache.path location opened →
      tree.refusal? .lock location = some cause →
      Written cache verdicts tree (.error (.cannotLock cache.path cause), opened)
  | stored {location : Location} {opened : FileTree} :
      (∀ p ∈ verdicts.passed, keeps p.2) →
      Opened tree cache.path location opened → opened.holdsFile location →
      Written cache verdicts tree (.ok (), opened.fill location (rendered verdicts))
  | broken {location : Location} {opened torn : FileTree} {cause : FileError} :
      Opened tree cache.path location opened → Torn tree (rendered verdicts) location torn →
      Written cache verdicts tree
        (.error (.cannotWrite cache.path cause), ((torn.unlink cache.path).toOption).getD torn)

theorem mem_passed {v : Verdict} (hv : v ∈ verdicts) (ho : v.isOk) :
    (v.key, v.value) ∈ verdicts.passed :=
  List.mem_map_of_mem (List.mem_filter.mpr ⟨hv, ho⟩)

theorem find?_passed (verdicts : Verdicts) (p : String × String → Bool) :
    verdicts.passed.find? p =
      (List.find? (fun v => v.isOk && p (v.key, v.value)) verdicts).map
        fun v => (v.key, v.value) := by
  simp only [Verdicts.passed, List.find?_map, List.find?_filter, Bool.decide_and,
    Bool.decide_eq_true, Function.comp_apply]

theorem written (cache : Cache) (verdicts : Verdicts) (tree : FileTree) :
    Written cache verdicts tree (cache.write verdicts tree) := by
  unfold write
  split
  · rename_i key value hf
    rw [find?_passed, Option.map_eq_some_iff] at hf
    obtain ⟨v, hf, he⟩ := hf
    obtain ⟨hv, before, after, hs, hb⟩ := List.find?_eq_some_iff_append.mp hf
    obtain ⟨ho, hk⟩ : v.isOk ∧ keeps v.value = false := by simpa using hv
    cases he
    exact .refused hs ho hk fun u hu hi => by simpa [hi] using hb u hu
  · rename_i hf
    have hk : ∀ p ∈ verdicts.passed, keeps p.2 := fun p hp => by
      simpa using List.find?_eq_none.mp hf p hp
    split
    · exact .unopened (by assumption)
    · rename_i location opened ho
      have hopened := opened_of_ok ho
      split
      · rename_i cause hl
        exact .unlocked hopened ((hopened.sameBut.refusal? _ _).symm.trans hl)
      · -- what has been written is told by the ending of the write itself
        have hw := writeEnds opened (rendered verdicts) location
        rw [rendered] at hw
        generalize opened.write (EnvFile.render verdicts.passed).toUTF8 location = answer at hw
        cases hw with
        | refused => exact .broken hopened (hopened.torn _)
        | @broken _ bytes hf => exact .broken hopened (hopened.torn_fill hf _ bytes)
        | done hf => exact .stored hk hopened hf

/-- What a write leaves that succeeds: its content under each name of the file to which the path of
the cache leads. -/
structure Stores (cache : Cache) (content : ByteArray) (tree changed : FileTree)
    (place location : Location) : Prop where
  entry : tree.locate .entry cache.path = .ok place
  target : tree.locate .target cache.path = .ok location
  direct : place = location ∨ ∃ target, tree.at? place = some (.link target)
  before : tree.at? location = none ∨ tree.holdsFile location
  sameBut : SameBut (tree.names location) tree changed
  held : ∀ name ∈ tree.names location, changed.at? name = some (.file content)
  found : changed.find? cache.path = some (.file content)
  text : changed.readText cache.path =
    if tree.mayRead cache.path then (String.fromUTF8? content).getD "" else ""

/-- What a write leaves that breaks off: no entry at the path of the cache, unless that cannot be
taken away, and under each other name of the file what was there, or a beginning of the content. -/
structure BreaksOff (cache : Cache) (content : ByteArray) (tree changed : FileTree)
    (place location : Location) : Prop where
  entry : tree.locate .entry cache.path = .ok place
  target : tree.locate .target cache.path = .ok location
  direct : place = location ∨ ∃ target, tree.at? place = some (.link target)
  sameBut : SameBut (place :: tree.names location) tree changed
  removed : changed.look? cache.path = none ∨
    tree.mayRemove cache.path = false ∨ ∃ device, tree.at? place = some (.device device)
  left : ∀ name ∈ tree.names location, changed.at? name = tree.at? name ∨
    name = place ∧ changed.at? name = none ∨
      (tree.at? name = none ∨ tree.holdsFile name) ∧
        ∃ bytes, changed.at? name = some (.file (content.extract 0 bytes))

theorem stores_fill (h : Opened tree cache.path location opened) (hf : opened.holdsFile location)
    (content : ByteArray) :
    ∃ place, cache.Stores content tree (opened.fill location content) place location := by
  have ht := locate_target_of_creation h.locate
  obtain ⟨place, hp, hl⟩ := exists_locate_entry ht
  refine ⟨place, hp, ht, hl, h.none_or_holdsFile hf (mem_names_self tree location),
    h.sameBut_fill hf content, fun name => h.at?_fill hf content, ?_,
    h.readText_fill_self hf content⟩
  rw [find?_of_locate (h.locate_fill hf content ht),
    h.at?_fill hf content (mem_names_self tree location)]

theorem write_ok (h : cache.write verdicts tree = (.ok (), changed)) :
    (∀ p ∈ verdicts.passed, keeps p.2) ∧
      ∃ place location, cache.Stores (rendered verdicts) tree changed place location := by
  have hw := written cache verdicts tree
  rw [h] at hw
  cases hw with
  | stored hk ho hf => exact ⟨hk, (stores_fill ho hf _).imp fun place hs => ⟨_, hs⟩⟩

/-- What may stand where a file has been opened can be taken away at the path, unless it is a device
that stands at the path itself. -/
theorem isRemovable_of_torn {torn : FileTree} {place : Location}
    (ho : Opened tree cache.path location opened) (ht : Torn tree content location torn)
    (hl : place = location ∨ ∃ target, tree.at? place = some (.link target))
    (hd : ∀ device, tree.at? place ≠ some (.device device)) : IsRemovable (torn.at? place) := by
  have hold : torn.at? place = tree.at? place ∨ ∃ left, torn.at? place = some (.file left) := by
    by_cases hm : place ∈ tree.names location
    · exact (ht.at?_cases hm).imp_right fun ⟨_, bytes, hb⟩ => ⟨_, hb⟩
    · exact .inl (ht.sameBut.at? place hm)
  rcases hold with he | ⟨_, he⟩
  · rw [he]
    rcases hl with rfl | ⟨target, hlink⟩
    · cases ha : tree.at? place with
      | none => trivial
      | some entry =>
        cases entry with
        | file _ | link _ => trivial
        | directory => exact absurd ha ho.kind.1
        | program name => exact absurd ha (ho.kind.2 name)
        | device device => exact absurd ha (hd device)
    · rw [hlink]
      trivial
  · rw [he]
    trivial

theorem breaksOff {torn : FileTree} (ho : Opened tree cache.path location opened)
    (ht : Torn tree content location torn) :
    ∃ place, cache.BreaksOff content tree
      (((torn.unlink cache.path).toOption).getD torn) place location := by
  have htarget := locate_target_of_creation ho.locate
  obtain ⟨place, hp, hl⟩ := exists_locate_entry htarget
  have hplace := ht.locate _ _ _ hp
  have hsame : SameBut (place :: tree.names location) tree torn :=
    ht.sameBut.mono fun name hn => List.mem_cons_of_mem place hn
  refine ⟨place, ?_⟩
  cases hu : torn.unlink cache.path with
  | ok cleared =>
    obtain ⟨goal, hg, -, -, hne, rfl⟩ := unlink_ok hu
    obtain rfl := Except.ok.inj (hplace.symm.trans hg)
    have hcleared : SameBut (place :: tree.names location) torn (torn.erase place) :=
      (sameBut_erase hne).mono (by simp)
    refine ⟨hp, htarget, hl, hsame.trans hcleared, .inl (look?_unlinked hu), fun name hn => ?_⟩
    change (torn.erase place).at? name = _ ∨ _ ∧ (torn.erase place).at? name = _ ∨
      _ ∧ ∃ bytes, (torn.erase place).at? name = _
    rw [at?_erase hne]
    by_cases he : name = place
    · exact .inr (.inl ⟨he, if_pos he⟩)
    · simp only [if_neg he]
      exact (ht.at?_cases hn).imp_right .inr
  | error cause =>
    refine ⟨hp, htarget, hl, hsame, ?_, fun name hn => (ht.at?_cases hn).imp_right .inr⟩
    change torn.look? cache.path = none ∨ _
    by_cases hd : ∃ device, tree.at? place = some (.device device)
    · exact .inr (.inr hd)
    · have hr := isRemovable_of_torn ho ht hl fun device ha => hd ⟨device, ha⟩
      by_cases hs : torn.at? place = none
      · exact .inl (by rw [look?_of_locate hplace, hs])
      · refine .inr (.inl ?_)
        rw [mayRemove_of_locate hp, ← ht.sameBut.refusal?, ← mayRemove_of_locate hplace]
        cases hm : torn.mayRemove cache.path with
        | false => rfl
        | true =>
          rw [unlink_of_isRemovable hplace hr hs hm] at hu
          cases hu

/-- What a failed operation on the cache leaves: nothing has changed, unless the lock is refused or
the write breaks off. -/
def Residue (cache : Cache) (content : ByteArray) (tree changed : FileTree) : Cache.Error → Prop
  | .cannotLock _ cause => ∃ location, tree.locate .target cache.path = .ok location ∧
      tree.refusal? .lock location = some cause ∧ (changed = tree ∨
        tree.at? location = none ∧ changed = tree.put location (.file ByteArray.empty))
  | .cannotWrite _ _ => ∃ place location, cache.BreaksOff content tree changed place location
  | .cannotOpen _ _ | .cannotRemove _ _ | .unstorable _ _ => changed = tree

theorem write_error {error : Cache.Error}
    (h : cache.write verdicts tree = (.error error, changed)) :
    cache.Residue (rendered verdicts) tree changed error := by
  have hw := written cache verdicts tree
  rw [h] at hw
  cases hw with
  | refused | unopened => rfl
  | unlocked ho hl => exact ⟨_, locate_target_of_creation ho.locate, hl, ho.ends⟩
  | broken ho ht => exact (breaksOff ho ht).imp fun place hb => ⟨_, hb⟩

theorem write_unstorable {path : Path} {key : String}
    (h : cache.write verdicts tree = (.error (.unstorable path key), changed)) :
    changed = tree ∧ ∃ p ∈ verdicts.passed, keeps p.2 = false := by
  have hw := written cache verdicts tree
  rw [h] at hw
  cases hw with
  | @refused before after v hs ho hk _ =>
    exact ⟨rfl, (v.key, v.value), mem_passed (by simp [hs]) ho, hk⟩

theorem Stores.read? {place : Location}
    (h : cache.Stores (rendered verdicts) tree changed place location) :
    cache.read? changed =
      some (if tree.mayRead cache.path then EnvFile.parse (EnvFile.render verdicts.passed) else ∅) := by
  rw [read?_of_file h.found, h.text, rendered, Text.Utf8.fromUTF8?_toUTF8, Option.getD_some]
  split <;> rfl

theorem Stores.mayRead_of_read?_eq_none {place : Location}
    (h : cache.Stores content tree changed place location) (hn : cache.read? tree = none) :
    tree.mayRead cache.path := by
  rcases h.before with hnone | hfile
  · exact mayRead_of_none h.target hnone
  · obtain ⟨old, ha⟩ := holdsFile_iff.mp hfile
    rw [read?_of_file ((find?_of_locate h.target).trans ha)] at hn
    cases hn

theorem Stores.look?_of_none {place : Location}
    (h : cache.Stores content tree changed place location) (hn : tree.look? cache.path = none) :
    changed.look? cache.path = some (.file content) := by
  have hplace := locate_entry_of_target h.target hn
  rw [look?_of_locate hplace] at hn
  have hnames : tree.names location = [location] := names_of_usual (marksAt_of_none hn)
  have hheld := h.held location (mem_names_self tree location)
  have hchanged : changed.locate .entry cache.path = .ok location :=
    locate_of_sameBut hplace (hnames ▸ h.sameBut) (areLeaves_of_none hn)
      (areLeaves_of_file hheld)
  rw [look?_of_locate hchanged, hheld]

theorem look?_of_write_error {error : Cache.Error}
    (h : cache.write verdicts tree = (.error error, changed)) (hn : tree.look? cache.path = none)
    (hl : tree.mayLock cache.path) (hm : tree.mayRemove cache.path) :
    changed.look? cache.path = none := by
  have hr := write_error h
  cases error with
  | cannotOpen | cannotRemove | unstorable =>
    obtain rfl : changed = tree := hr
    exact hn
  | cannotLock =>
    obtain ⟨location, ht, hrefused, -⟩ := hr
    rw [mayLock_of_locate ht, hrefused] at hl
    cases hl
  | cannotWrite =>
    obtain ⟨place, location, hb⟩ := hr
    rw [look?_of_locate hb.entry] at hn
    rcases hb.removed with hnone | hrefused | ⟨device, ha⟩
    · exact hnone
    · rw [hm] at hrefused
      cases hrefused
    · rw [hn] at ha
      cases ha

theorem clear_cases (cache : Cache) (tree : FileTree) :
    (cache.clear tree).2 = tree ∨ tree.unlink cache.path = .ok (cache.clear tree).2 := by
  unfold clear
  split
  · rename_i cleared hu
    exact .inr hu
  · exact .inl rfl
  · exact .inl rfl

theorem clear_error {error : Cache.Error} (h : cache.clear tree = (.error error, changed))
    (content : ByteArray) : cache.Residue content tree changed error := by
  unfold clear at h
  split at h <;> cases h
  rfl

theorem clear_of_removable (hl : tree.locate .entry cache.path = .ok location)
    (hr : IsRemovable (tree.at? location)) (hm : tree.mayRemove cache.path) :
    (cache.clear tree).1 = .ok () ∧ SameBut [location] tree (cache.clear tree).2 ∧
      (cache.clear tree).2.at? location = none := by
  have hne : location ≠ [] := by
    rintro rfl
    exact hr
  by_cases hn : tree.at? location = none
  · simp only [clear, unlink, hl, hn]
    exact ⟨trivial, .refl _ _, trivial⟩
  · simp only [clear, unlink_of_isRemovable hl hr hn hm]
    exact ⟨trivial, sameBut_erase hne, at?_erase_self hne⟩

theorem look?_clear (h : IsRemovable (tree.look? cache.path)) (hm : tree.mayRemove cache.path) :
    (cache.clear tree).2.look? cache.path = none := by
  rcases clear_cases cache tree with hc | hu
  · cases hl : tree.locate .entry cache.path with
    | error cause => rw [hc, look?, hl]
    | ok location =>
      rw [look?_of_locate hl] at h
      obtain ⟨-, -, hn⟩ := clear_of_removable hl h hm
      rw [hc] at hn ⊢
      rw [look?_of_locate hl, hn]
  · exact look?_unlinked hu

theorem readText_clear (cache : Cache) (tree : FileTree) (path : Path) :
    (cache.clear tree).2.readText path = tree.readText path ∨
      (cache.clear tree).2.readText path = "" := by
  rcases clear_cases cache tree with hc | hu
  · rw [hc]
    exact .inl rfl
  · exact readText_unlinked hu path

/-- What is read at a path is there without the cache too. -/
def Apart (cache : Cache) (tree : FileTree) (path : Path) : Prop :=
  (cache.clear tree).2.readText path = tree.readText path

theorem apart_of_locate_ne {path : Path}
    (hl : ∀ target, tree.look? cache.path ≠ some (.link target))
    (hne : tree.locate .target path ≠ tree.locate .entry cache.path) : cache.Apart tree path := by
  rcases clear_cases cache tree with hc | hu
  · rw [Apart, hc]
  · obtain ⟨place, hp, -, hd, hr, he⟩ := unlink_ok hu
    rw [look?_of_locate hp] at hl
    rw [hp] at hne
    have hn : (tree.erase place).at? place = none := at?_erase_self hr
    rw [Apart, he]
    exact readText_of_sameBut_of_ne (sameBut_erase hr) (areLeaves_singleton.mpr ⟨hd, hl⟩)
      (areLeaves_of_none hn) (by simpa using hne)

/-- Writing changes no text, but where the cache is read there is a beginning of what is put into
it. -/
theorem readText_write (cache : Cache) (verdicts : Verdicts) (tree : FileTree) (path : Path) :
    (cache.write verdicts tree).2.readText path = tree.readText path ∨
      IsBeginning (rendered verdicts) ((cache.write verdicts tree).2.readText path) := by
  have hw := written cache verdicts tree
  generalize cache.write verdicts tree = answer at hw ⊢
  cases hw with
  | refused | unopened => exact .inl rfl
  | unlocked ho => exact (ho.torn _).readText path
  | stored _ ho hf =>
    have ht := ho.torn_fill hf (rendered verdicts) (rendered verdicts).size
    rw [ByteArray.extract_zero_size] at ht
    exact ht.readText path
  | @broken _ _ torn _ _ ht =>
    cases hu : torn.unlink cache.path with
    | error => exact ht.readText path
    | ok cleared =>
      rcases readText_unlinked hu path with he | he
      · exact he ▸ ht.readText path
      · exact .inr (he ▸ isBeginning_empty _)

end EnvTemplate.Cache
