namespace EnvTemplate

/-- A finite map whose entries keep the order in which their keys first came. -/
structure OrderedMap (κ α : Type) where
  entries : List (κ × α)
  nodup : (entries.map Prod.fst).Nodup
  deriving DecidableEq

namespace OrderedMap

variable {κ α : Type} [DecidableEq κ]

def put (k : κ) (v : α) : List (κ × α) → List (κ × α)
  | [] => [(k, v)]
  | (k', v') :: rest => if k' = k then (k, v) :: rest else (k', v') :: put k v rest

theorem mem_keys_put {k j : κ} {v : α} {l : List (κ × α)} :
    j ∈ (put k v l).map Prod.fst ↔ j = k ∨ j ∈ l.map Prod.fst := by
  induction l with
  | nil => simp [put]
  | cons p l ih =>
    obtain ⟨k', v'⟩ := p
    by_cases h : k' = k
    · subst h
      simp [put]
    · simp only [put, h, if_false, List.map_cons, List.mem_cons, ih]
      exact or_left_comm

theorem nodup_put (k : κ) (v : α) {l : List (κ × α)} (h : (l.map Prod.fst).Nodup) :
    ((put k v l).map Prod.fst).Nodup := by
  induction l with
  | nil => simp [put]
  | cons p l ih =>
    obtain ⟨k', v'⟩ := p
    obtain ⟨hk, hl⟩ := List.nodup_cons.mp h
    by_cases he : k' = k
    · subst he
      simpa [put] using h
    · simp only [put, he, if_false, List.map_cons, List.nodup_cons]
      exact ⟨fun hm => (mem_keys_put.mp hm).elim he hk, ih hl⟩

theorem lookup_cons (k j : κ) (v : α) (l : List (κ × α)) :
    ((k, v) :: l).lookup j = if j = k then some v else l.lookup j := by
  by_cases h : j = k
  · simp [h]
  · simp [List.lookup_cons, beq_eq_false_iff_ne.mpr h, h]

theorem lookup_put (k j : κ) (v : α) (l : List (κ × α)) :
    (put k v l).lookup j = if j = k then some v else l.lookup j := by
  induction l with
  | nil => rw [put, lookup_cons]
  | cons p l ih =>
    obtain ⟨k', v'⟩ := p
    by_cases h : k' = k
    · subst h
      rw [put, if_pos rfl, lookup_cons, lookup_cons]
      split <;> rfl
    · rw [put, if_neg h, lookup_cons, lookup_cons, ih]
      by_cases hj : j = k'
      · simp [hj, h]
      · simp [hj]

omit [DecidableEq κ] in
theorem ne_of_not_mem_keys {k : κ} {p : κ × α} {l : List (κ × α)} (h : k ∉ l.map Prod.fst)
    (hp : p ∈ l) : p.1 ≠ k :=
  fun he => h (List.mem_map.mpr ⟨p, hp, he⟩)

theorem lookup_eq_none {k : κ} {l : List (κ × α)} (h : k ∉ l.map Prod.fst) : l.lookup k = none :=
  List.lookup_eq_none_iff.mpr fun _ hp => bne_iff_ne.mpr (ne_of_not_mem_keys h hp).symm

theorem lookup_filter_ne (k j : κ) (l : List (κ × α)) :
    (l.filter fun p => p.1 ≠ k).lookup j = if j = k then none else l.lookup j := by
  induction l with
  | nil => simp
  | cons p l ih =>
    obtain ⟨k', v'⟩ := p
    by_cases h : k' = k
    · subst h
      rw [List.filter_cons_of_neg (by simp), ih, lookup_cons]
      split <;> rfl
    · rw [List.filter_cons_of_pos (by simpa using h), lookup_cons, lookup_cons, ih]
      by_cases hj : j = k'
      · simp [hj, h]
      · simp [hj]

omit [DecidableEq κ] in
theorem keys_filterMap_sublist {β : Type} (f : κ → α → Option β) (l : List (κ × α)) :
    (l.filterMap fun (k, v) => (f k v).map (k, ·)).map Prod.fst |>.Sublist (l.map Prod.fst) := by
  induction l with
  | nil => simp
  | cons p l ih =>
    obtain ⟨k, v⟩ := p
    cases h : f k v with
    | none => simpa [h] using ih.cons k
    | some w => simpa [h] using ih

def empty : OrderedMap κ α := ⟨[], List.nodup_nil⟩

instance : EmptyCollection (OrderedMap κ α) := ⟨empty⟩

instance : Inhabited (OrderedMap κ α) := ⟨empty⟩

def get? (m : OrderedMap κ α) (k : κ) : Option α := m.entries.lookup k

def contains (m : OrderedMap κ α) (k : κ) : Bool := (m.get? k).isSome

def keys (m : OrderedMap κ α) : List κ := m.entries.map Prod.fst

def size (m : OrderedMap κ α) : Nat := m.entries.length

def insert (m : OrderedMap κ α) (k : κ) (v : α) : OrderedMap κ α :=
  ⟨put k v m.entries, nodup_put k v m.nodup⟩

def insertAll (m : OrderedMap κ α) (l : List (κ × α)) : OrderedMap κ α :=
  l.foldl (fun m (k, v) => m.insert k v) m

def ofList (l : List (κ × α)) : OrderedMap κ α := empty.insertAll l

def filter (m : OrderedMap κ α) (p : κ → α → Bool) : OrderedMap κ α :=
  ⟨m.entries.filter fun (k, v) => p k v, (List.filter_sublist.map _).nodup m.nodup⟩

def filterMap {β : Type} (m : OrderedMap κ α) (f : κ → α → Option β) : OrderedMap κ β :=
  ⟨m.entries.filterMap fun (k, v) => (f k v).map (k, ·), (keys_filterMap_sublist f _).nodup m.nodup⟩

def erase (m : OrderedMap κ α) (k : κ) : OrderedMap κ α := m.filter fun j _ => j ≠ k

theorem mem_of_get? {m : OrderedMap κ α} {k : κ} {v : α} (h : m.get? k = some v) :
    (k, v) ∈ m.entries := by
  obtain ⟨a, b, he, -⟩ := List.lookup_eq_some_iff.mp h
  simp [he]

theorem get?_of_mem {m : OrderedMap κ α} {k : κ} {v : α} (h : (k, v) ∈ m.entries) :
    m.get? k = some v := by
  obtain ⟨l, hl⟩ := m
  show l.lookup k = some v
  induction l with
  | nil => cases h
  | cons p l ih =>
    obtain ⟨j, w⟩ := p
    obtain ⟨hj, ht⟩ := List.nodup_cons.mp hl
    rw [lookup_cons]
    rcases List.mem_cons.mp h with he | hm
    · cases he
      exact if_pos rfl
    · rw [if_neg (ne_of_not_mem_keys hj hm)]
      exact ih ht hm

theorem get?_insert (m : OrderedMap κ α) (k j : κ) (v : α) :
    (m.insert k v).get? j = if j = k then some v else m.get? j :=
  lookup_put k j v m.entries

theorem get?_erase (m : OrderedMap κ α) (k j : κ) :
    (m.erase k).get? j = if j = k then none else m.get? j :=
  lookup_filter_ne k j m.entries

theorem get?_filterMap {β : Type} (m : OrderedMap κ α) (f : κ → α → Option β) (k : κ) :
    (m.filterMap f).get? k = (m.get? k).bind (f k) := by
  obtain ⟨l, hl⟩ := m
  show (l.filterMap fun (k, v) => (f k v).map (k, ·)).lookup k = (l.lookup k).bind (f k)
  induction l with
  | nil => rfl
  | cons p l ih =>
    obtain ⟨j, v⟩ := p
    obtain ⟨hj, ht⟩ := List.nodup_cons.mp hl
    rw [lookup_cons, List.filterMap_cons]
    by_cases hk : k = j
    · subst hk
      -- the key is not bound again further on
      have hn : l.lookup k = none := lookup_eq_none hj
      cases hf : f k v with
      | none =>
        simp only [hf, Option.map_none, ih ht, hn, if_true, Option.bind_some, Option.bind_none]
      | some w => simp [hf]
    · cases hf : f j v with
      | none => simp only [hf, hk, Option.map_none, ih ht, if_false]
      | some w => simp only [hf, hk, Option.map_some, lookup_cons, ih ht, if_false]

theorem entries_insert_of_mem {m : OrderedMap κ α} {k : κ} (v : α) (h : k ∈ m.keys) :
    (m.insert k v).entries = m.entries.map fun p => if p.1 = k then (k, v) else p := by
  obtain ⟨l, hl⟩ := m
  show put k v l = _
  replace h : k ∈ l.map Prod.fst := h
  induction l with
  | nil => cases h
  | cons p l ih =>
    obtain ⟨j, w⟩ := p
    obtain ⟨hj, hl⟩ := List.nodup_cons.mp hl
    by_cases he : j = k
    · subst he
      have hid : ∀ p ∈ l, (if p.1 = j then (j, v) else p) = p := fun p hp =>
        if_neg (ne_of_not_mem_keys hj hp)
      rw [put, if_pos rfl, List.map_cons, if_pos rfl, List.map_congr_left hid, List.map_id']
    · have hk : k ∈ l.map Prod.fst := (List.mem_cons.mp h).resolve_left (Ne.symm he)
      rw [put, if_neg he, List.map_cons, if_neg he, ih hl hk]

theorem keys_insert_of_mem {m : OrderedMap κ α} {k : κ} (v : α) (h : k ∈ m.keys) :
    (m.insert k v).keys = m.keys := by
  rw [keys, entries_insert_of_mem v h, List.map_map]
  refine List.map_congr_left fun p _ => ?_
  by_cases hp : p.1 = k
  · simp [hp]
  · simp [hp]

theorem entries_insert_of_not_mem {m : OrderedMap κ α} {k : κ} (v : α) (h : k ∉ m.keys) :
    (m.insert k v).entries = m.entries ++ [(k, v)] := by
  show put k v m.entries = m.entries ++ [(k, v)]
  have h' : k ∉ m.entries.map Prod.fst := h
  revert h'
  induction m.entries with
  | nil => simp [put]
  | cons p l ih =>
    obtain ⟨k', v'⟩ := p
    intro hm
    obtain ⟨hk, hl⟩ : k ≠ k' ∧ k ∉ l.map Prod.fst := by simpa using hm
    simp [put, Ne.symm hk, ih hl]

theorem insertAll_cons (m : OrderedMap κ α) (k : κ) (v : α) (l : List (κ × α)) :
    m.insertAll ((k, v) :: l) = (m.insert k v).insertAll l := rfl

theorem insertAll_append (m : OrderedMap κ α) (l l' : List (κ × α)) :
    m.insertAll (l ++ l') = (m.insertAll l).insertAll l' :=
  List.foldl_append

theorem entries_insertAll {m : OrderedMap κ α} {l : List (κ × α)}
    (h : (m.keys ++ l.map Prod.fst).Nodup) : (m.insertAll l).entries = m.entries ++ l := by
  induction l generalizing m with
  | nil => simp [insertAll]
  | cons p l ih =>
    obtain ⟨k, v⟩ := p
    have hk : k ∉ m.keys := fun hm => (List.nodup_append.mp h).2.2 k hm k (by simp) rfl
    have he : (m.insert k v).entries = m.entries ++ [(k, v)] := entries_insert_of_not_mem v hk
    have hn : ((m.insert k v).keys ++ l.map Prod.fst).Nodup := by simpa [keys, he] using h
    rw [insertAll_cons, ih hn, he, List.append_assoc, List.singleton_append]

theorem entries_ofList {l : List (κ × α)} (h : (l.map Prod.fst).Nodup) :
    (ofList l).entries = l :=
  entries_insertAll (m := empty) h

theorem mem_put {k : κ} {v : α} {p : κ × α} {l : List (κ × α)} (h : p ∈ put k v l) :
    p = (k, v) ∨ p ∈ l := by
  induction l with
  | nil => simpa [put] using h
  | cons q l ih =>
    obtain ⟨k', v'⟩ := q
    by_cases he : k' = k
    · rw [put, if_pos he] at h
      exact (List.mem_cons.mp h).imp_right (List.mem_cons_of_mem _)
    · rw [put, if_neg he] at h
      rcases List.mem_cons.mp h with hq | hp
      · exact .inr (by simp [hq])
      · exact (ih hp).imp_right (List.mem_cons_of_mem _)

theorem mem_insertAll {m : OrderedMap κ α} {p : κ × α} {l : List (κ × α)}
    (h : p ∈ (m.insertAll l).entries) : p ∈ m.entries ∨ p ∈ l := by
  induction l generalizing m with
  | nil => exact .inl h
  | cons q l ih =>
    obtain ⟨k, v⟩ := q
    rcases ih h with hm | hl
    · exact (mem_put hm).symm.imp_right fun hp => by simp [hp]
    · exact .inr (List.mem_cons_of_mem _ hl)

theorem of_mem_insert {m : OrderedMap κ α} {k : κ} {v : α} {p : κ × α}
    (h : p ∈ (m.insert k v).entries) : p = (k, v) ∨ p ∈ m.entries ∧ p.1 ≠ k := by
  obtain ⟨j, w⟩ := p
  have hg := get?_of_mem h
  rw [get?_insert] at hg
  by_cases hj : j = k
  · rw [if_pos hj] at hg
    exact .inl (by rw [hj, Option.some.inj hg])
  · rw [if_neg hj] at hg
    exact .inr ⟨mem_of_get? hg, hj⟩

theorem mem_keys_insertAll {m : OrderedMap κ α} {l : List (κ × α)} {k : κ} :
    k ∈ (m.insertAll l).keys ↔ k ∈ m.keys ∨ k ∈ l.map Prod.fst := by
  induction l generalizing m with
  | nil => simp [insertAll]
  | cons p l ih =>
    obtain ⟨j, v⟩ := p
    have hk : k ∈ (m.insert j v).keys ↔ k = j ∨ k ∈ m.keys := mem_keys_put
    rw [insertAll_cons, ih, hk, List.map_cons, List.mem_cons]
    exact or_assoc.trans or_left_comm

theorem ofList_concat (l : List (κ × α)) (k : κ) (v : α) :
    ofList (l ++ [(k, v)]) = (ofList l).insert k v :=
  insertAll_append empty l [(k, v)]

theorem mem_keys_ofList {l : List (κ × α)} {k : κ} :
    k ∈ (ofList l).keys ↔ k ∈ l.map Prod.fst := by
  rw [ofList, mem_keys_insertAll]
  exact or_iff_right List.not_mem_nil

theorem mem_of_mem_ofList {p : κ × α} {l : List (κ × α)} (h : p ∈ (ofList l).entries) : p ∈ l :=
  (mem_insertAll h).resolve_left List.not_mem_nil

end OrderedMap

end EnvTemplate
