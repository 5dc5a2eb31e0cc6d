import EnvTemplate.Proofs.Characters
import EnvTemplate.Proofs.Run
import Mathlib.Data.List.Forall2
import Mathlib.Data.List.TakeDrop

namespace EnvTemplate

open Text

/-- A text that can be handed over as bytes which end in a zero byte. -/
def Text.NulFree (s : String) : Prop := '\x00' ∉ s.toList

instance (s : String) : Decidable (NulFree s) := inferInstanceAs (Decidable ('\x00' ∉ s.toList))

theorem nulFree_of_bytes {s : String} (h : 0 ∉ s.toUTF8.data) : NulFree s :=
  fun hm => h (Utf8.zero_mem_toUTF8_iff.mpr hm)

theorem nulFree_of_isBeginning {s text : String} (hs : NulFree s)
    (h : FileTree.IsBeginning s.toUTF8 text) : NulFree text := by
  obtain ⟨bytes, rfl⟩ := h
  cases hb : String.fromUTF8? (s.toUTF8.extract 0 bytes) with
  | none => exact List.not_mem_nil
  | some beginning =>
    refine nulFree_of_bytes fun hz => hs (Utf8.zero_mem_toUTF8_iff.mp ?_)
    rw [Option.getD_some, ← Utf8.fromUTF8?_eq_some_iff.mp hb, ByteArray.data_extract] at hz
    obtain ⟨i, hi, he⟩ := Array.mem_extract_iff_getElem.mp hz
    exact Array.mem_of_getElem he

/-- What a process can be given: each name and each value ends in a zero byte and holds none. -/
structure Variables.Passable (vars : Variables) : Prop where
  name : ∀ p ∈ vars.entries, NulFree p.1
  value : ∀ p ∈ vars.entries, 0 ∉ p.2.data

theorem Variables.not_mem_of_binding? {piece : List UInt8} {p : String × ByteArray}
    (h : Variables.binding? piece = some p) (hz : 0 ∉ piece) : NulFree p.1 ∧ 0 ∉ p.2.data := by
  have hs : piece.takeWhile (· ≠ 0x3D) ++ piece.dropWhile (· ≠ 0x3D) = piece :=
    List.takeWhile_append_dropWhile
  unfold Variables.binding? at h
  rw [List.span_eq_takeWhile_dropWhile] at h
  split at h
  · cases h
  · rename_i name separator value he
    obtain ⟨hname, hvalue⟩ := Prod.mk.inj he
    rw [hname, hvalue] at hs
    rw [← hs, List.mem_append, List.mem_cons, not_or, not_or] at hz
    obtain ⟨text, ht, rfl⟩ := Option.map_eq_some_iff.mp h
    refine ⟨nulFree_of_bytes ?_, by simpa using hz.2.2⟩
    rw [← Utf8.fromUTF8?_eq_some_iff.mp ht]
    simpa using hz.1

theorem Variables.passable_ofBlock (block : ByteArray) : (Variables.ofBlock block).Passable := by
  have hp : ∀ p ∈ (Variables.ofBlock block).entries, NulFree p.1 ∧ 0 ∉ p.2.data := by
    intro p hp
    obtain ⟨piece, hl, hb⟩ := List.mem_filterMap.mp (OrderedMap.mem_of_mem_ofList hp)
    exact Variables.not_mem_of_binding? hb (of_mem_splitOn hl).1
  exact ⟨fun p hm => (hp p hm).1, fun p hm => (hp p hm).2⟩

namespace Store

variable {store memory process : Store} {overwrite : Bool} {key value : String}
  {entries : List (String × String)} {verdicts : Verdicts}

/-- The store in memory holds what can be read as text among the variables of the process, in
whatever order. -/
structure IsSnapshot (memory process : Store) : Prop where
  isMemory : memory.isProcess = false
  isProcess : process.isProcess = true
  texts : ∀ key, memory.texts.get? key = process.texts.get? key

def NulFree (store : Store) : Prop :=
  ∀ key value, store.value? key = some value → Text.NulFree value

theorem value?_eq_texts (h : store.isProcess → isName key) :
    store.value? key = store.texts.get? key := by
  cases store with
  | memory vars => rfl
  | process vars => rw [value?, if_pos (h rfl), texts, OrderedMap.get?_filterMap]

theorem texts_put (store : Store) (key value other : String) :
    (store.put key value).texts.get? other =
      if other = key then some value else store.texts.get? other := by
  cases store with
  | memory vars => exact vars.get?_insert key other value
  | process vars =>
    simp only [put, texts, OrderedMap.get?_filterMap, OrderedMap.get?_insert]
    split
    · exact Utf8.fromUTF8?_toUTF8 value
    · rfl

theorem accepts_of_memory (h : store.isProcess = false) (key value : String) :
    store.accepts key value := by
  cases store with
  | memory vars => rfl
  | process vars => cases h

theorem isName_of_accepts (h : store.isProcess) (ha : store.accepts key value) : isName key := by
  cases store with
  | memory vars => cases h
  | process vars => exact (Bool.and_eq_true_iff.mp ha).1

theorem isName_of_isKey (hk : EnvFile.IsKey key) (hz : Text.NulFree key) : isName key := by
  have hc : '\x00' ∉ key.toList := hz
  simp [isName, hk.ne_empty, hk.no_separator, hc]

theorem accepts_process_iff {vars : Variables} (hk : EnvFile.IsKey key) :
    (Store.process vars).accepts key value ↔ Text.NulFree key ∧ Text.NulFree value := by
  simp [accepts, isName, hk.ne_empty, hk.no_separator, Text.NulFree]

theorem accepts_of_nulFree (store : Store) (hk : EnvFile.IsKey key) (hz : Text.NulFree key)
    (hv : Text.NulFree value) : store.accepts key value := by
  cases store with
  | memory vars => rfl
  | process vars => exact (accepts_process_iff hk).mpr ⟨hz, hv⟩

theorem IsSnapshot.value? (h : memory.IsSnapshot process) (hk : isName key) :
    memory.value? key = process.value? key := by
  rw [value?_eq_texts fun _ => hk, value?_eq_texts fun _ => hk, h.texts]

theorem IsSnapshot.set (h : memory.IsSnapshot process) (ha : process.accepts key value)
    (overwrite : Bool) : (memory.set overwrite key value).2.IsSnapshot
      (process.set overwrite key value).2 := by
  have hv := h.value? (isName_of_accepts h.isProcess ha)
  refine ⟨by rw [isProcess_set, h.isMemory], by rw [isProcess_set, h.isProcess], fun other => ?_⟩
  rw [set_eq, set_eq, hv]
  split
  · exact h.texts other
  · rw [insert, insert, if_pos ha, if_pos (accepts_of_memory h.isMemory key value)]
    simp only [texts_put, h.texts]

theorem IsSnapshot.setAll (h : memory.IsSnapshot process)
    (ha : ∀ p ∈ entries, process.accepts p.1 p.2) (overwrite : Bool) :
    (memory.setAll overwrite entries).IsSnapshot (process.setAll overwrite entries) := by
  induction entries generalizing memory process with
  | nil => exact h
  | cons p entries ih =>
    refine ih (h.set (ha p List.mem_cons_self) overwrite) fun q hq => ?_
    rw [accepts_set]
    exact ha q (List.mem_cons_of_mem _ hq)

theorem NulFree.set (h : store.NulFree) (hv : Text.NulFree value) (overwrite : Bool)
    (key : String) : (store.set overwrite key value).2.NulFree := by
  by_cases ha : store.accepts key value
  · intro other held hh
    rw [value?_set ha, settle] at hh
    split at hh
    · split at hh
      · exact h other held hh
      · cases hh
        exact hv
    · exact h other held hh
  · rwa [set_of_refused ha]

theorem NulFree.setAll (h : store.NulFree) (hv : ∀ p ∈ entries, Text.NulFree p.2)
    (overwrite : Bool) : (store.setAll overwrite entries).NulFree := by
  induction entries generalizing store with
  | nil => exact h
  | cons p entries ih =>
    exact ih (h.set (hv p List.mem_cons_self) overwrite p.1) fun q hq =>
      hv q (List.mem_cons_of_mem _ hq)

theorem screened_of_accepts (h : ∀ v ∈ verdicts, store.accepts v.key v.value) :
    store.screened verdicts = verdicts := by
  have hs : ∀ v ∈ verdicts, store.screen v = id v := fun v hv => by
    rw [screen_eq, if_neg fun hr => hr.2 (h v hv), id]
  rw [screened, List.map_congr_left hs, List.map_id]

theorem allOk_screened_iff : (store.screened verdicts).allOk ↔
    verdicts.allOk ∧ ∀ v ∈ verdicts, store.accepts v.key v.value := by
  constructor
  · intro h
    have ha := accepts_of_screened h
    rw [screened_eq_self h] at h
    exact ⟨h, fun v hv => ha _ (List.mem_map_of_mem hv)⟩
  · rintro ⟨h, ha⟩
    rwa [screened_of_accepts ha]

theorem publish_of_accepts (h : ∀ v ∈ verdicts, store.accepts v.key v.value) :
    store.publish overwrite verdicts =
      if verdicts.allOk then (.ok verdicts, store.setAll overwrite verdicts.pairs)
      else (.error verdicts, store) := by
  have hs := screened_of_accepts h
  split
  · rename_i ho
    rw [publish_of_screened (hs.symm ▸ ho)]
  · rename_i ho
    rw [publish_of_refused (hs.symm ▸ Bool.eq_false_iff.mpr ho), hs]

end Store

theorem Variables.Passable.nulFree_texts {vars : Variables} (h : vars.Passable) :
    (Store.memory (Store.process vars).texts).NulFree := by
  intro key value hv
  have hg : (vars.get? key).bind String.fromUTF8? = some value := by
    rw [← hv, Store.value?, Store.texts, OrderedMap.get?_filterMap]
  obtain ⟨bytes, hb, ht⟩ := Option.bind_eq_some_iff.mp hg
  refine nulFree_of_bytes ?_
  rw [← Utf8.fromUTF8?_eq_some_iff.mp ht]
  exact h.value _ (OrderedMap.mem_of_get? hb)

theorem Variables.Passable.value?_texts {vars : Variables} {key : String} (h : vars.Passable)
    (hk : EnvFile.IsKey key) :
    (Store.memory (Store.process vars).texts).value? key = (Store.process vars).value? key := by
  show (Store.process vars).texts.get? key = (Store.process vars).value? key
  by_cases hz : NulFree key
  · exact (Store.value?_eq_texts fun _ => Store.isName_of_isKey hk hz).symm
  · -- a process has no variable of that name, so there is nothing to be seen in memory either
    have hg : vars.get? key = none := by
      by_contra hg
      obtain ⟨bytes, hb⟩ := Option.ne_none_iff_exists'.mp hg
      exact hz (h.name _ (OrderedMap.mem_of_get? hb))
    rw [Store.texts, OrderedMap.get?_filterMap, Store.value?, hg]
    exact (ite_self none).symm

end EnvTemplate
