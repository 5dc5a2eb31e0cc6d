import EnvTemplate.Proofs.EntryLines

/-! Text put after an env file updates its bindings, and blanks around its lines change none. -/

namespace EnvTemplate

namespace OrderedMap

variable {κ α : Type} [DecidableEq κ] {m : OrderedMap κ α} {k j : κ} {v w : α} {l : List (κ × α)}

theorem put_put (k : κ) (v w : α) (l : List (κ × α)) : put k w (put k v l) = put k w l := by
  induction l with
  | nil => simp [put]
  | cons p l ih =>
    by_cases h : p.1 = k
    · simp [put, h]
    · simp [put, h, ih]

theorem put_comm (hj : k ≠ j) (h : k ∈ l.map Prod.fst) :
    put k v (put j w l) = put j w (put k v l) := by
  induction l with
  | nil => cases h
  | cons p l ih =>
    by_cases hk : p.1 = k
    · simp [put, hk, hj]
    · have hl : k ∈ l.map Prod.fst := (List.mem_cons.mp h).resolve_left (Ne.symm hk)
      by_cases hp : p.1 = j
      · simp [put, hp, Ne.symm hj]
      · simp [put, hk, hp, ih hl]

theorem insert_insert (m : OrderedMap κ α) (k : κ) (v w : α) :
    (m.insert k v).insert k w = m.insert k w := by
  simp only [insert, put_put]

theorem insert_comm (hj : k ≠ j) (h : k ∈ m.keys) :
    (m.insert j w).insert k v = (m.insert k v).insert j w := by
  simp only [insert, put_comm hj h]

theorem insertAll_insert_comm (hm : k ∈ m.keys) (hl : k ∉ l.map Prod.fst) :
    (m.insertAll l).insert k v = (m.insert k v).insertAll l := by
  induction l generalizing m with
  | nil => rfl
  | cons p l ih =>
    obtain ⟨j, w⟩ := p
    obtain ⟨hj, hl⟩ : k ≠ j ∧ k ∉ l.map Prod.fst := by simpa using hl
    have hk : k ∈ (m.insert j w).keys := mem_keys_put.mpr (.inr hm)
    rw [insertAll_cons, insertAll_cons, ih hk hl, insert_comm hj hm]

theorem insertAll_put (m : OrderedMap κ α) (k : κ) (v : α) (h : (l.map Prod.fst).Nodup) :
    m.insertAll (put k v l) = (m.insertAll l).insert k v := by
  induction l generalizing m with
  | nil => rfl
  | cons p l ih =>
    obtain ⟨j, w⟩ := p
    obtain ⟨hj, hl⟩ := List.nodup_cons.mp h
    by_cases he : j = k
    · subst he
      have hk : j ∈ (m.insert j w).keys := mem_keys_put.mpr (.inl rfl)
      rw [put, if_pos rfl, insertAll_cons, insertAll_cons, insertAll_insert_comm hk hj,
        insert_insert]
    · rw [put, if_neg he, insertAll_cons, insertAll_cons, ih _ hl]

theorem insertAll_entries_ofList (m : OrderedMap κ α) (l : List (κ × α)) :
    m.insertAll (ofList l).entries = m.insertAll l := by
  induction l using List.reverseRecOn with
  | nil => rfl
  | append_singleton l p ih =>
    obtain ⟨k, v⟩ := p
    have hp : (ofList (l ++ [(k, v)])).entries = put k v (ofList l).entries := by
      rw [ofList_concat]
      rfl
    rw [hp, insertAll_put m k v (ofList l).nodup, ih, insertAll_append]
    rfl

theorem entries_insertAll_eq (h : (l.map Prod.fst).Nodup) :
    (m.insertAll l).entries = (m.entries.map fun p => (p.1, (l.lookup p.1).getD p.2)) ++
      l.filter fun p => p.1 ∉ m.keys := by
  induction l generalizing m with
  | nil => simp [insertAll]
  | cons p l ih =>
    obtain ⟨k, v⟩ := p
    obtain ⟨hk, hl⟩ := List.nodup_cons.mp h
    have hother : ∀ p : κ × α, p.1 ≠ k →
        (((k, v) :: l).lookup p.1).getD p.2 = (l.lookup p.1).getD p.2 := fun p hp => by
      rw [lookup_cons, if_neg hp]
    rw [insertAll_cons, ih hl]
    by_cases hm : k ∈ m.keys
    · rw [entries_insert_of_mem v hm, keys_insert_of_mem v hm, List.map_map,
        List.filter_cons_of_neg (by simpa using hm)]
      refine congrArg (· ++ _) (List.map_congr_left fun p _ => ?_)
      by_cases hp : p.1 = k
      · simp [hp, lookup_eq_none hk]
      · simp [hp, hother p hp]
    · have hkeys : (m.insert k v).keys = m.keys ++ [k] := by
        rw [keys, entries_insert_of_not_mem v hm, List.map_append]
        rfl
      rw [entries_insert_of_not_mem v hm, hkeys, List.map_append, List.append_assoc,
        List.filter_cons_of_pos (by simpa using hm)]
      refine congrArg₂ (· ++ ·) (List.map_congr_left fun p hp => ?_)
        (congrArg₂ List.cons ?_ (List.filter_congr fun p hp => ?_))
      · rw [hother p (ne_of_not_mem_keys hm hp)]
      · simp [lookup_eq_none hk]
      · simp [ne_of_not_mem_keys hk hp]

end OrderedMap

namespace EnvFile

open Text

structure Padding where
  before : List Char
  after : List Char
  blank : ∀ c ∈ before ++ after, isBlank c ∧ c ≠ '\n'

def Padding.none : Padding := ⟨[], [], by simp⟩

def Padding.carriageReturn : Padding where
  before := []
  after := ['\r']
  blank c hc := by
    obtain rfl : c = '\r' := by simpa using hc
    decide

def Padding.around (padding : Padding) (line : List Char) : List Char :=
  padding.before ++ line ++ padding.after

def Padding.followedBy (first : Padding) (others : Nat → Padding) : Nat → Padding
  | 0 => first
  | n + 1 => others n

def pad (padding : Nat → Padding) (text : String) : String :=
  String.ofList
    (['\n'].intercalate ((text.toList.splitOn '\n').mapIdx fun n line => (padding n).around line))

def withReturn (c : Char) : List Char := if c = '\n' then ['\r', '\n'] else [c]

def withReturns (text : String) : String := String.ofList (text.toList.flatMap withReturn)

variable {line : List Char} {lines : List (List Char)}

theorem bindings_append_line (text other : String) :
    bindings (text ++ "\n" ++ other) = bindings text ++ bindings other := by
  rw [bindings, splitOn_append rfl, List.filterMap_append]
  rfl

theorem parse_append_line (text other : String) :
    parse (text ++ "\n" ++ other) = (parse text).insertAll (parse other).entries := by
  rw [parse, bindings_append_line, OrderedMap.ofList, OrderedMap.insertAll_append,
    ← OrderedMap.insertAll_entries_ofList]
  rfl

theorem binding?_around (padding : Padding) (line : List Char) :
    binding? (padding.around line) = binding? line :=
  binding?_append (fun c hc => (padding.blank c (List.mem_append_left _ hc)).1)
    (fun c hc => (padding.blank c (List.mem_append_right _ hc)).1) line

theorem not_mem_around (padding : Padding) (h : '\n' ∉ line) : '\n' ∉ padding.around line := by
  intro hm
  rcases List.mem_append.mp hm with hm | ha
  · rcases List.mem_append.mp hm with hb | hl
    · exact (padding.blank _ (List.mem_append_left _ hb)).2 rfl
    · exact h hl
  · exact (padding.blank _ (List.mem_append_right _ ha)).2 rfl

theorem filterMap_around (padding : Nat → Padding) (lines : List (List Char)) :
    (lines.mapIdx fun n line => (padding n).around line).filterMap binding? =
      lines.filterMap binding? := by
  induction lines generalizing padding with
  | nil => rfl
  | cons line lines ih =>
    rw [List.mapIdx_cons, List.filterMap_cons, List.filterMap_cons, binding?_around,
      ih fun n => padding (n + 1)]

theorem splitOn_pad (padding : Nat → Padding) (text : String) :
    (pad padding text).toList.splitOn '\n' =
      (text.toList.splitOn '\n').mapIdx fun n line => (padding n).around line := by
  rw [pad, String.toList_ofList]
  refine List.splitOn_intercalate '\n' (fun line hl => ?_) ?_
  · obtain ⟨n, hn, rfl⟩ := List.mem_mapIdx.mp hl
    exact not_mem_around _ (of_mem_splitOn (List.getElem_mem hn)).1
  · rw [Ne, List.mapIdx_eq_nil_iff]
    exact List.splitOn_ne_nil _ _

theorem parse_pad (padding : Nat → Padding) (text : String) :
    parse (pad padding text) = parse text := by
  rw [parse, bindings, splitOn_pad, filterMap_around]
  rfl

theorem flatMap_withReturn (h : '\n' ∉ line) : line.flatMap withReturn = line := by
  induction line with
  | nil => rfl
  | cons c line ih =>
    obtain ⟨hc, hl⟩ : '\n' ≠ c ∧ '\n' ∉ line := by simpa using h
    rw [List.flatMap_cons, ih hl, withReturn, if_neg (Ne.symm hc), List.singleton_append]

theorem exists_padding (h : ∀ line ∈ lines, '\n' ∉ line) : ∃ padding : Nat → Padding,
    (['\n'].intercalate lines).flatMap withReturn =
      ['\n'].intercalate (lines.mapIdx fun n line => (padding n).around line) := by
  induction lines with
  | nil => exact ⟨fun _ => .none, rfl⟩
  | cons line lines ih =>
    have hl := flatMap_withReturn (h line List.mem_cons_self)
    cases lines with
    | nil => exact ⟨fun _ => .none, by simp [hl, Padding.none, Padding.around]⟩
    | cons next lines =>
      obtain ⟨padding, hp⟩ := ih fun line hm => h line (List.mem_cons_of_mem _ hm)
      refine ⟨Padding.carriageReturn.followedBy padding, ?_⟩
      rw [List.intercalate_cons_cons, List.flatMap_append, List.flatMap_append, hl, hp,
        List.mapIdx_cons, List.mapIdx_cons, List.mapIdx_cons, List.intercalate_cons_cons]
      simp [withReturn, Padding.followedBy, Padding.carriageReturn, Padding.around]

theorem parse_withReturns (text : String) : parse (withReturns text) = parse text := by
  have hn : ∀ line ∈ text.toList.splitOn '\n', '\n' ∉ line := fun _ hl => (of_mem_splitOn hl).1
  obtain ⟨padding, hp⟩ := exists_padding hn
  rw [List.intercalate_splitOn] at hp
  have ht : withReturns text = pad padding text := congrArg String.ofList hp
  rw [ht, parse_pad]

/-- Text that is put after another one on a line of its own updates its bindings: known keys keep
their places and take the new values, new ones follow in their order. Neither carriage returns
before the line feeds nor blanks at the ends of lines change what a text states. -/
theorem parse_updated_or_padded (text other : String) :
    parse (text ++ "\n" ++ other) = (parse text).insertAll (parse other).entries ∧
      (parse (text ++ "\n" ++ other)).entries =
        ((parse text).entries.map fun (key, value) =>
            (key, ((parse other).get? key).getD value)) ++
          (parse other).entries.filter (fun (key, _) => key ∉ (parse text).keys) ∧
      parse (withReturns text) = parse text ∧
      ∀ padding : Nat → Padding, parse (pad padding text) = parse text := by
  have hu := parse_append_line text other
  refine ⟨hu, ?_, parse_withReturns text, fun padding => parse_pad padding text⟩
  rw [hu]
  exact OrderedMap.entries_insertAll_eq (parse other).nodup

example : (parse ("A=1\nB=2\r" ++ "\n" ++ "C=3\n B = 4\nC=")).entries =
    [("A", "1"), ("B", "4"), ("C", "")] := by decide +kernel

end EnvFile

end EnvTemplate
