import EnvTemplate.Publisher.Settings
import Mathlib.Data.List.Induction
import Mathlib.Data.List.Sort
import Mathlib.Data.String.Basic

namespace EnvTemplate

namespace OrderedMap

variable {κ α : Type} [DecidableEq κ] {l l' : List (κ × α)}

theorem get?_eq_some_iff {m : OrderedMap κ α} {k : κ} {v : α} :
    m.get? k = some v ↔ (k, v) ∈ m.entries :=
  ⟨mem_of_get?, get?_of_mem⟩

theorem lookup_of_perm (h : l.Perm l') (hn : (l.map Prod.fst).Nodup) (k : κ) :
    l.lookup k = l'.lookup k := by
  let m : OrderedMap κ α := ⟨l, hn⟩
  let m' : OrderedMap κ α := ⟨l', (h.map _).nodup_iff.mp hn⟩
  refine Option.ext fun v => ?_
  have hm : m.get? k = some v ↔ (k, v) ∈ m.entries := get?_eq_some_iff
  have hm' : m'.get? k = some v ↔ (k, v) ∈ m'.entries := get?_eq_some_iff
  exact hm.trans (h.mem_iff.trans hm'.symm)

end OrderedMap

namespace Standard

theorem isSome_ofName?_iff {name : String} :
    (ofName? name).isSome ↔ name ∈ names.map Prod.fst := by
  rw [ofName?, List.lookup_isSome_iff]
  simp

theorem ofName?_eq_none_iff {name : String} : ofName? name = none ↔ name ∉ names.map Prod.fst := by
  rw [← isSome_ofName?_iff, Option.not_isSome_iff_eq_none]

end Standard

namespace Registry

variable {registry : Registry} {name : String} {run : CustomValidator}
  {history reordered : List (String × CustomValidator)}

theorem insert_of_standard (h : name ∈ Standard.names.map Prod.fst) (registry : Registry)
    (run : CustomValidator) : registry.insert name run = (false, registry) :=
  if_pos (Standard.isSome_ofName?_iff.mpr h)

theorem insert_of_not_standard (h : name ∉ Standard.names.map Prod.fst) (registry : Registry)
    (run : CustomValidator) :
    registry.insert name run = (true, ⟨registry.custom.insert name run⟩) :=
  if_neg fun hs => h (Standard.isSome_ofName?_iff.mp hs)

theorem insert_fst_eq_false_iff : (registry.insert name run).1 = false ↔
    name ∈ Standard.names.map Prod.fst := by
  by_cases h : name ∈ Standard.names.map Prod.fst
  · simp only [insert_of_standard h, h]
  · simp [insert_of_not_standard h, h]

theorem get?_of_mem_names (h : name ∈ Standard.names.map Prod.fst) (registry : Registry) :
    registry.get? name = (Standard.ofName? name).map .standard := by
  obtain ⟨validator, hv⟩ := Option.isSome_iff_exists.mp (Standard.isSome_ofName?_iff.mpr h)
  rw [get?_of_standard hv, hv, Option.map_some]

theorem get?_of_not_standard (h : name ∉ Standard.names.map Prod.fst) (registry : Registry) :
    registry.get? name = (registry.custom.get? name).map .custom := by
  simp only [get?, Standard.ofName?_eq_none_iff.mpr h]

theorem insertAll_concat (registry : Registry) (history : List (String × CustomValidator))
    (name : String) (run : CustomValidator) : registry.insertAll (history ++ [(name, run)]) =
      ((registry.insertAll history).insert name run).2 :=
  List.foldl_append

theorem get?_insert (h : name ∉ Standard.names.map Prod.fst) (registry : Registry) (other : String)
    (run : CustomValidator) :
    (registry.insert other run).2.get? name =
      if name = other then some (.custom run) else registry.get? name := by
  by_cases ho : other ∈ Standard.names.map Prod.fst
  · have hne : name ≠ other := fun he => h (he ▸ ho)
    rw [insert_of_standard ho, if_neg hne]
  · rw [insert_of_not_standard ho, get?_of_not_standard h, get?_of_not_standard h,
      OrderedMap.get?_insert]
    split <;> rfl

theorem get?_insertAll (h : name ∉ Standard.names.map Prod.fst)
    (history : List (String × CustomValidator)) :
    (standard.insertAll history).get? name = (history.reverse.lookup name).map .custom := by
  induction history using List.reverseRecOn with
  | nil => exact get?_of_not_standard h standard
  | append_singleton history p ih =>
    rw [insertAll_concat, get?_insert h, ih, List.reverse_concat, OrderedMap.lookup_cons]
    split <;> rfl

theorem mem_keys_insert {other : String} : other ∈ (registry.insert name run).2.custom.keys ↔
    (other = name ∧ name ∉ Standard.names.map Prod.fst) ∨ other ∈ registry.custom.keys := by
  by_cases h : name ∈ Standard.names.map Prod.fst
  · simp [insert_of_standard h, h]
  · rw [insert_of_not_standard h, and_iff_left h]
    exact OrderedMap.mem_keys_put

theorem mem_keys_insertAll : name ∈ (standard.insertAll history).custom.keys ↔
    name ∉ Standard.names.map Prod.fst ∧ name ∈ history.map Prod.fst := by
  induction history using List.reverseRecOn with
  | nil => exact iff_of_false List.not_mem_nil fun h => List.not_mem_nil h.2
  | append_singleton history p ih =>
    rw [insertAll_concat, mem_keys_insert, ih, List.map_append, List.mem_append]
    constructor
    · rintro (⟨rfl, hn⟩ | ⟨hn, hm⟩)
      · exact ⟨hn, .inr (by simp)⟩
      · exact ⟨hn, .inl hm⟩
    · rintro ⟨hn, hm | hm⟩
      · exact .inr ⟨hn, hm⟩
      · obtain rfl : name = p.1 := by simpa using hm
        exact .inl ⟨rfl, hn⟩

theorem names_of_perm (h : history.Perm reordered) :
    (standard.insertAll reordered).names = (standard.insertAll history).names := by
  have hkeys : (standard.insertAll reordered).custom.keys.Perm
      (standard.insertAll history).custom.keys := by
    refine (List.perm_ext_iff_of_nodup (OrderedMap.nodup _) (OrderedMap.nodup _)).mpr fun name => ?_
    rw [← OrderedMap.keys, ← OrderedMap.keys, mem_keys_insertAll, mem_keys_insertAll,
      (h.map Prod.fst).mem_iff]
  have hsorted : ∀ l : List String,
      (l.mergeSort fun a b => !decide (b < a)).Pairwise fun a b => !decide (b < a) := by
    refine fun l => List.pairwise_mergeSort (fun a b c hab hbc => ?_) (fun a b => ?_) l
    · simp only [Bool.not_eq_true', decide_eq_false_iff_not, not_lt] at hab hbc ⊢
      exact hab.trans hbc
    · simp only [Bool.or_eq_true, Bool.not_eq_true', decide_eq_false_iff_not, not_lt]
      exact le_total a b
  refine List.Perm.eq_of_pairwise (fun a b _ _ hab hba => ?_) (hsorted _) (hsorted _) ?_
  · simp only [Bool.not_eq_true', decide_eq_false_iff_not, not_lt] at hab hba
    exact le_antisymm hab hba
  · exact (List.mergeSort_perm _ _).trans
      ((hkeys.append_left _).trans (List.mergeSort_perm _ _).symm)

/-- Built-in and custom validators in one table. -/
abbrev Table := OrderedMap String Validator

namespace Table

def standard : Table := (OrderedMap.ofList Standard.names).filterMap fun _ validator =>
  some (.standard validator)

def register (table : Table) (name : String) (run : CustomValidator) : Bool × Table :=
  match table.get? name with
  | some (.standard _) => (false, table)
  | _ => (true, table.insert name (.custom run))

def registerAll (table : Table) (history : List (String × CustomValidator)) : Table :=
  history.foldl (fun table (name, run) => (table.register name run).2) table

end Table

def IsStored (registry : Registry) (table : Table) : Prop :=
  ∀ name, table.get? name = registry.get? name

theorem isStored_standard : standard.IsStored Table.standard := by
  intro name
  have hl : (OrderedMap.ofList Standard.names).get? name = Standard.ofName? name := by
    rw [OrderedMap.get?, OrderedMap.entries_ofList (by decide), Standard.ofName?]
  rw [Table.standard, OrderedMap.get?_filterMap, hl, get?]
  cases Standard.ofName? name <;> rfl

/-- One table, in which built-in names are protected, does what two tables do, of which that of the
built-in validators comes first. -/
theorem IsStored.register {table : Table} (h : registry.IsStored table) (name : String)
    (run : CustomValidator) :
    (table.register name run).1 = (registry.insert name run).1 ∧
      (registry.insert name run).2.IsStored (table.register name run).2 := by
  by_cases hn : name ∈ Standard.names.map Prod.fst
  · obtain ⟨validator, hv⟩ := Option.isSome_iff_exists.mp (Standard.isSome_ofName?_iff.mpr hn)
    have ht : table.register name run = (false, table) := by
      rw [Table.register, h name, get?_of_standard hv]
    rw [ht, insert_of_standard hn]
    exact ⟨rfl, h⟩
  · have ht : table.register name run = (true, table.insert name (.custom run)) := by
      rw [Table.register, h name, get?_of_not_standard hn]
      cases registry.custom.get? name <;> rfl
    rw [ht]
    refine ⟨by rw [insert_of_not_standard hn], fun other => ?_⟩
    rw [OrderedMap.get?_insert]
    by_cases ho : other ∈ Standard.names.map Prod.fst
    · have hne : other ≠ name := fun he => hn (he ▸ ho)
      rw [if_neg hne, h other, get?_of_mem_names ho, get?_of_mem_names ho]
    · rw [get?_insert ho, h other]

theorem IsStored.registerAll {table : Table} (h : registry.IsStored table)
    (history : List (String × CustomValidator)) :
    (registry.insertAll history).IsStored (table.registerAll history) := by
  induction history generalizing registry table with
  | nil => exact h
  | cons p history ih => exact ih (h.register p.1 p.2).2

/-- After any registrations a built-in name is refused and means its built-in validator, any other
name means what it was registered with last, and all this is the same with a single table. A
registry that is made of a map of custom validators does not depend on the order of the map. -/
theorem resolves_history (history : List (String × CustomValidator)) :
    let registry := standard.insertAll history
    let table := Table.standard.registerAll history
    (∀ name run,
      ((registry.insert name run).1 = false ↔ name ∈ Standard.names.map Prod.fst) ∧
        ((registry.insert name run).1 = false → (registry.insert name run).2 = registry) ∧
        (table.register name run).1 = (registry.insert name run).1) ∧
      (∀ name ∈ Standard.names.map Prod.fst, ∃ validator,
        Standard.ofName? name = some validator ∧ registry.get? name = some (.standard validator)) ∧
      (∀ name ∉ Standard.names.map Prod.fst,
        registry.get? name = (history.reverse.lookup name).map .custom) ∧
      (∀ name, registry.contains name = (registry.get? name).isSome ∧
        table.get? name = registry.get? name ∧ table.contains name = registry.contains name) ∧
      ∀ settings : Settings, settings.custom.entries.Perm history →
        settings.registry.names = registry.names ∧ ∀ name,
          settings.registry.get? name = registry.get? name ∧
            settings.registry.contains name = registry.contains name := by
  intro registry table
  have hstored : registry.IsStored table := isStored_standard.registerAll history
  refine ⟨fun name run => ⟨insert_fst_eq_false_iff, fun hf => ?_, (hstored.register name run).1⟩,
    fun name hn => ?_, fun name hn => get?_insertAll hn history,
    fun name => ⟨rfl, hstored name, ?_⟩, fun settings hp => ⟨?_, fun name => ?_⟩⟩
  · rw [insert_of_standard (insert_fst_eq_false_iff.mp hf)]
  · obtain ⟨validator, hv⟩ := Option.isSome_iff_exists.mp (Standard.isSome_ofName?_iff.mpr hn)
    exact ⟨validator, hv, get?_of_standard hv⟩
  · rw [OrderedMap.contains, hstored name, contains]
  · exact (names_of_perm hp).symm
  · have hg : settings.registry.get? name = registry.get? name := by
      by_cases hn : name ∈ Standard.names.map Prod.fst
      · rw [get?_of_mem_names hn, get?_of_mem_names hn]
      · have hr := (List.reverse_perm _).trans (hp.trans (List.reverse_perm _).symm)
        have hnodup : (settings.custom.entries.reverse.map Prod.fst).Nodup := by
          rw [List.map_reverse, List.nodup_reverse]
          exact settings.custom.nodup
        rw [Settings.registry, get?_insertAll hn, get?_insertAll hn,
          OrderedMap.lookup_of_perm hr hnodup]
    exact ⟨hg, by rw [contains, contains, hg]⟩

theorem resolves_history_of_shadowed :
    let first : CustomValidator := fun _ _ _ => .ok "1"
    let second : CustomValidator := fun _ _ _ => .ok "2"
    let custom := [("upper", first), ("trim", first), ("lower", second)]
    let settings := Settings.ofNames "" "" true custom
    let registry := standard.insertAll custom.reverse
    (registry.insert "options" first).1 = false ∧ registry.get? "trim" = some (.standard .trim) ∧
      registry.get? "upper" = some (.custom first) ∧
      settings.registry.get? "lower" = some (.custom second) := by
  intro first second custom settings registry
  obtain ⟨hi, hs, hc, -, hp⟩ := resolves_history custom.reverse
  obtain ⟨validator, hv, ht⟩ := hs "trim" (by decide)
  cases hv
  have hperm : settings.custom.entries.Perm custom.reverse := (List.reverse_perm custom).symm
  have hlower : settings.registry.get? "lower" = registry.get? "lower" := ((hp settings hperm).2 _).1
  exact ⟨(hi "options" first).1.mpr (by decide), ht, hc "upper" (by decide),
    hlower.trans (hc "lower" (by decide))⟩

end Registry

end EnvTemplate
