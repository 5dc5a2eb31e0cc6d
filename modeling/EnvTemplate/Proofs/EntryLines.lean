import EnvTemplate.Proofs.LineFormat
import Mathlib.Data.List.Induction
import Mathlib.Data.List.Nodup

namespace EnvTemplate.EnvFile

open Text

variable {lines : List (List Char)} {line : List Char} {entries other : List (String × String)}
  {key name value held : String} {m n : Nat}

/-- A line is an entry if its trim holds an equals sign and what stands before the first one is not
blank. That is the key, what stands after it the value. -/
def IsEntry (line : List Char) (key value : String) : Prop :=
  ∃ before after, trim line = before ++ '=' :: after ∧ '=' ∉ before ∧ trim before ≠ [] ∧
    String.ofList (trim before) = key ∧ String.ofList (trim after) = value

def EntryAt (lines : List (List Char)) (n : Nat) (key value : String) : Prop :=
  ∃ line, lines[n]? = some line ∧ IsEntry line key value

structure IsFirst (lines : List (List Char)) (key : String) (n : Nat) : Prop where
  entry : ∃ value, EntryAt lines n key value
  le : ∀ m value, EntryAt lines m key value → n ≤ m

structure IsLast (lines : List (List Char)) (key value : String) (n : Nat) : Prop where
  entry : EntryAt lines n key value
  le : ∀ m held, EntryAt lines m key held → m ≤ n

/-- The first entry line of the one key comes before that of the other. -/
def Precedes (lines : List (List Char)) (key name : String) : Prop :=
  ∃ m n, IsFirst lines key m ∧ IsFirst lines name n ∧ m < n

/-- What lines state on the whole: the keys of all entry lines, each once, in the order of their
first lines and with the values of their last ones. -/
structure Summary (lines : List (List Char)) (entries : List (String × String)) : Prop where
  mem_keys : ∀ key, key ∈ entries.map Prod.fst ↔ ∃ n value, EntryAt lines n key value
  nodup : (entries.map Prod.fst).Nodup
  order : (entries.map Prod.fst).Pairwise (Precedes lines)
  value : ∀ p ∈ entries, ∃ n, IsLast lines p.1 p.2 n

theorem binding?_append {a b : List Char} (ha : ∀ c ∈ a, isBlank c) (hb : ∀ c ∈ b, isBlank c)
    (line : List Char) : binding? (a ++ line ++ b) = binding? line := by
  have hsep : ∀ s : List Char, (∀ c ∈ s, isBlank c) → '=' ∉ s := fun s hs hm =>
    absurd (hs '=' hm) (by decide)
  cases hc : cut '=' line with
  | none =>
    have hn : '=' ∉ a ++ line ++ b := by
      simp [hsep a ha, hsep b hb, cut_eq_none_iff.mp hc]
    rw [binding?, binding?, hc, cut_eq_none_iff.mpr hn]
  | some pair =>
    obtain ⟨before, after⟩ := pair
    obtain ⟨rfl, hn⟩ := cut_eq_some_iff.mp hc
    have hcut : cut '=' (a ++ (before ++ '=' :: after) ++ b) = some (a ++ before, after ++ b) :=
      cut_eq_some_iff.mpr ⟨by simp, by simp [hsep a ha, hn]⟩
    have hkey : trim (a ++ before) = trim before := by
      simpa using trim_append ha (b := []) (by simp) before
    have hvalue : trim (after ++ b) = trim after := by
      simpa using trim_append (a := []) (by simp) hb after
    rw [binding?, binding?, hc, hcut]
    simp only [hkey, hvalue]

theorem binding?_trim (line : List Char) : binding? (trim line) = binding? line := by
  obtain ⟨a, b, ha, hb, hl⟩ := exists_trim line
  calc binding? (trim line) = binding? (a ++ trim line ++ b) := (binding?_append ha hb _).symm
    _ = binding? line := by rw [← hl]

theorem binding?_eq_some_iff : binding? line = some (key, value) ↔ IsEntry line key value := by
  rw [← binding?_trim, binding?]
  constructor
  · intro h
    split at h
    · cases h
    · rename_i before after hc
      obtain ⟨ht, hn⟩ := cut_eq_some_iff.mp hc
      split at h
      · cases h
      · rename_i hk
        obtain ⟨hkey, hvalue⟩ := Prod.mk.inj (Option.some.inj h)
        exact ⟨before, after, ht, hn, hk, hkey, hvalue⟩
  · rintro ⟨before, after, ht, hn, hk, rfl, rfl⟩
    rw [ht, cut_append '=' hn]
    exact if_neg hk

theorem EntryAt.unique (h : EntryAt lines n key value) (h' : EntryAt lines n key held) :
    value = held := by
  obtain ⟨line, hl, he⟩ := h
  obtain ⟨line', hl', he'⟩ := h'
  obtain rfl : line = line' := Option.some.inj (hl.symm.trans hl')
  rw [← binding?_eq_some_iff] at he he'
  exact (Prod.mk.inj (Option.some.inj (he.symm.trans he'))).2

theorem EntryAt.lt_length (h : EntryAt lines n key value) : n < lines.length := by
  obtain ⟨line, hl, -⟩ := h
  exact (List.getElem?_eq_some_iff.mp hl).1

theorem entryAt_concat_iff : EntryAt (lines ++ [line]) n key value ↔
    EntryAt lines n key value ∨ n = lines.length ∧ IsEntry line key value := by
  constructor
  · rintro ⟨found, hf, he⟩
    by_cases hn : n < lines.length
    · rw [List.getElem?_append_left hn] at hf
      exact .inl ⟨found, hf, he⟩
    · obtain ⟨hn', -⟩ := List.getElem?_eq_some_iff.mp hf
      obtain rfl : n = lines.length := by
        rw [List.length_append, List.length_singleton] at hn'
        omega
      rw [List.getElem?_concat_length] at hf
      cases hf
      exact .inr ⟨rfl, he⟩
  · rintro (h | ⟨rfl, he⟩)
    · have hn := h.lt_length
      obtain ⟨found, hf, he⟩ := h
      exact ⟨found, by rw [List.getElem?_append_left hn, hf], he⟩
    · exact ⟨line, List.getElem?_concat_length, he⟩

theorem IsFirst.concat (h : IsFirst lines key n) (line : List Char) :
    IsFirst (lines ++ [line]) key n := by
  obtain ⟨⟨value, he⟩, hle⟩ := h
  refine ⟨⟨value, entryAt_concat_iff.mpr (.inl he)⟩, fun m held hm => ?_⟩
  rcases entryAt_concat_iff.mp hm with hm | ⟨rfl, -⟩
  · exact hle m held hm
  · exact Nat.le_of_lt he.lt_length

theorem isFirst_concat (h : IsEntry line key value) (hn : ∀ m held, ¬EntryAt lines m key held) :
    IsFirst (lines ++ [line]) key lines.length := by
  refine ⟨⟨value, entryAt_concat_iff.mpr (.inr ⟨rfl, h⟩)⟩, fun m held hm => ?_⟩
  rcases entryAt_concat_iff.mp hm with hm | ⟨rfl, -⟩
  · exact absurd hm (hn m held)
  · exact Nat.le_refl _

theorem Precedes.concat (h : Precedes lines key name) (line : List Char) :
    Precedes (lines ++ [line]) key name := by
  obtain ⟨m, n, hm, hn, hlt⟩ := h
  exact ⟨m, n, hm.concat line, hn.concat line, hlt⟩

theorem exists_isFirst (h : EntryAt lines n key value) : ∃ m, IsFirst lines key m := by
  induction n using Nat.strongRecOn generalizing value with
  | ind n ih =>
    by_cases hn : ∃ m held, EntryAt lines m key held ∧ m < n
    · obtain ⟨m, held, hm, hlt⟩ := hn
      exact ih m hlt hm
    · exact ⟨n, ⟨value, h⟩, fun m held hm => Nat.le_of_not_lt fun hlt => hn ⟨m, held, hm, hlt⟩⟩

theorem precedes_concat (h : EntryAt lines n name held) (he : IsEntry line key value)
    (hn : ∀ m held, ¬EntryAt lines m key held) : Precedes (lines ++ [line]) name key := by
  obtain ⟨m, hm⟩ := exists_isFirst h
  obtain ⟨first, hf⟩ := hm.entry
  exact ⟨m, lines.length, hm.concat line, isFirst_concat he hn, hf.lt_length⟩

theorem IsLast.concat (h : IsLast lines key value n) (hn : ∀ held, ¬IsEntry line key held) :
    IsLast (lines ++ [line]) key value n := by
  refine ⟨entryAt_concat_iff.mpr (.inl h.entry), fun m held hm => ?_⟩
  rcases entryAt_concat_iff.mp hm with hm | ⟨-, he⟩
  · exact h.le m held hm
  · exact absurd he (hn held)

theorem isLast_concat (h : IsEntry line key value) :
    IsLast (lines ++ [line]) key value lines.length := by
  refine ⟨entryAt_concat_iff.mpr (.inr ⟨rfl, h⟩), fun m held hm => ?_⟩
  rcases entryAt_concat_iff.mp hm with hm | ⟨rfl, -⟩
  · exact Nat.le_of_lt hm.lt_length
  · exact Nat.le_refl _

theorem summary_nil : Summary [] [] := by
  refine ⟨fun key => ?_, List.nodup_nil, .nil, fun p hp => absurd hp List.not_mem_nil⟩
  simp [EntryAt]

theorem Summary.concat_of_none (h : Summary lines entries) (hb : binding? line = none) :
    Summary (lines ++ [line]) entries := by
  have hn : ∀ key value, ¬IsEntry line key value := fun key value he => by
    rw [← binding?_eq_some_iff, hb] at he
    cases he
  refine ⟨fun key => ?_, h.nodup, h.order.imp fun hp => hp.concat line, fun p hp => ?_⟩
  · simp only [h.mem_keys, entryAt_concat_iff, hn, and_false, or_false]
  · obtain ⟨n, hl⟩ := h.value p hp
    exact ⟨n, hl.concat (hn p.1)⟩

theorem Summary.concat_of_some {map : Bindings} (h : Summary lines map.entries)
    (hb : binding? line = some (key, value)) :
    Summary (lines ++ [line]) (map.insert key value).entries := by
  have he : IsEntry line key value := binding?_eq_some_iff.mp hb
  have hkey : ∀ name held, IsEntry line name held → name = key := fun name held hh => by
    rw [← binding?_eq_some_iff, hb] at hh
    cases hh
    rfl
  have hbefore : (map.entries.map Prod.fst).Pairwise (Precedes (lines ++ [line])) :=
    h.order.imp fun hp => hp.concat line
  refine ⟨fun name => ?_, (map.insert key value).nodup, ?_, fun p hp => ?_⟩
  · have hmem : name ∈ (map.insert key value).entries.map Prod.fst ↔
        name = key ∨ name ∈ map.entries.map Prod.fst := OrderedMap.mem_keys_put
    rw [hmem, h.mem_keys]
    constructor
    · rintro (rfl | ⟨n, held, hn⟩)
      · exact ⟨lines.length, value, entryAt_concat_iff.mpr (.inr ⟨rfl, he⟩)⟩
      · exact ⟨n, held, entryAt_concat_iff.mpr (.inl hn)⟩
    · rintro ⟨n, held, hn⟩
      rcases entryAt_concat_iff.mp hn with hn | ⟨-, hh⟩
      · exact .inr ⟨n, held, hn⟩
      · exact .inl (hkey name held hh)
  · -- a known key stays where it is; a new one is preceded by all that are there
    by_cases hk : key ∈ map.keys
    · have hkeys : (map.insert key value).entries.map Prod.fst = map.entries.map Prod.fst :=
        OrderedMap.keys_insert_of_mem value hk
      rwa [hkeys]
    · have hnew : ∀ m held, ¬EntryAt lines m key held := fun m held hm =>
        hk ((h.mem_keys key).mpr ⟨m, held, hm⟩)
      rw [OrderedMap.entries_insert_of_not_mem value hk, List.map_append, List.pairwise_append]
      refine ⟨hbefore, List.pairwise_singleton _ _, fun name hname added hadded => ?_⟩
      obtain rfl : added = key := by simpa using hadded
      obtain ⟨n, held, hn⟩ := (h.mem_keys name).mp hname
      exact precedes_concat hn he hnew
  · rcases OrderedMap.of_mem_insert hp with rfl | ⟨hp, hne⟩
    · exact ⟨lines.length, isLast_concat he⟩
    · obtain ⟨n, hl⟩ := h.value p hp
      exact ⟨n, hl.concat fun held hh => hne (hkey p.1 held hh)⟩

-- The loop goes from the first line to the last, so the induction takes the last line off.
theorem summary_ofList (lines : List (List Char)) :
    Summary lines (OrderedMap.ofList (lines.filterMap binding?)).entries := by
  induction lines using List.reverseRecOn with
  | nil => exact summary_nil
  | append_singleton lines line ih =>
    rw [List.filterMap_append]
    cases hb : binding? line with
    | none => simpa [hb] using ih.concat_of_none hb
    | some p =>
      obtain ⟨key, value⟩ := p
      simpa [hb, OrderedMap.ofList_concat] using ih.concat_of_some hb

theorem IsFirst.unique (h : IsFirst lines key m) (h' : IsFirst lines key n) : m = n := by
  obtain ⟨value, hm⟩ := h.entry
  obtain ⟨held, hn⟩ := h'.entry
  exact Nat.le_antisymm (h.le n held hn) (h'.le m value hm)

theorem IsLast.unique (h : IsLast lines key value m) (h' : IsLast lines key held n) :
    value = held := by
  obtain rfl : m = n := Nat.le_antisymm (h'.le m value h.entry) (h.le n held h'.entry)
  exact h.entry.unique h'.entry

theorem Precedes.asymm (h : Precedes lines key name) : ¬Precedes lines name key := by
  obtain ⟨m, n, hm, hn, hlt⟩ := h
  rintro ⟨n', m', hn', hm', hlt'⟩
  obtain rfl := hm.unique hm'
  obtain rfl := hn.unique hn'
  omega

theorem Summary.subset (h : Summary lines entries) (h' : Summary lines other) :
    entries ⊆ other := by
  intro p hp
  have hk : p.1 ∈ other.map Prod.fst :=
    (h'.mem_keys p.1).mpr ((h.mem_keys p.1).mp (List.mem_map_of_mem hp))
  obtain ⟨q, hq, hqp⟩ := List.mem_map.mp hk
  obtain ⟨m, hm⟩ := h.value p hp
  obtain ⟨n, hn⟩ := h'.value q hq
  rw [hqp] at hn
  have he : q = p := Prod.ext hqp (hn.unique hm)
  exact he ▸ hq

/-- Nothing is left open by what is said of a summary. -/
theorem Summary.unique (h : Summary lines entries) (h' : Summary lines other) :
    entries = other := by
  have hperm : entries.Perm other := (List.perm_ext_iff_of_nodup (.of_map _ h.nodup)
    (.of_map _ h'.nodup)).mpr fun p => ⟨fun hp => h.subset h' hp, fun hp => h'.subset h hp⟩
  have ho := List.pairwise_map.mp h.order
  have ho' := List.pairwise_map.mp h'.order
  exact hperm.eq_of_pairwise (fun _ _ _ _ hpq hqp => absurd hqp hpq.asymm) ho ho'

/-- The bindings of a text are the summary of its lines. -/
theorem entries_parse_eq_iff (text : String) (entries : List (String × String)) :
    (parse text).entries = entries ↔ Summary (text.toList.splitOn '\n') entries := by
  have hs : Summary (text.toList.splitOn '\n') (parse text).entries := summary_ofList _
  constructor
  · rintro rfl
    exact hs
  · exact hs.unique

example : (parse " A = 1 \r\nB=2\n=0\nno entry\n\tA=3==").entries = [("A", "3=="), ("B", "2")] := by
  decide +kernel

end EnvTemplate.EnvFile
