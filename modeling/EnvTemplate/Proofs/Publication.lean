import EnvTemplate.Store.Publish
import Mathlib.Data.List.Basic

namespace EnvTemplate

def Verdicts.pairs (verdicts : Verdicts) : List (String × String) :=
  verdicts.map fun v => (v.key, v.value)

theorem Verdicts.passed_of_allOk {verdicts : Verdicts} (h : verdicts.allOk) :
    verdicts.passed = verdicts.pairs := by
  rw [passed, List.filter_eq_self.mpr fun v hv => List.all_eq_true.mp h v hv, pairs]

theorem Verdicts.messages_eq_flatMap (verdicts : Verdicts) :
    verdicts.messages = verdicts.flatMap fun v =>
      match v.outcome with
      | .ok => []
      | .failed message => [message] := by
  rw [messages, List.filterMap_eq_flatMap_toList]
  refine List.flatMap_congr fun v _ => ?_
  cases ho : v.outcome <;> simp [Verdict.message?, ho]

namespace Store

variable {store : Store} {overwrite : Bool} {key value : String}
  {entries : List (String × String)} {verdicts : Verdicts}

def isProcess : Store → Bool
  | memory _ => false
  | process _ => true

/-- The bytes held under a name, be they text or not. -/
def bytes? (key : String) : Store → Option ByteArray
  | memory vars => (vars.get? key).map String.toUTF8
  | process vars => vars.get? key

theorem accepts_congr {other : Store} (h : other.isProcess = store.isProcess) (key value : String) :
    other.accepts key value = store.accepts key value := by
  cases store <;> cases other <;> first | rfl | cases h

theorem bytes?_put (store : Store) (key value other : String) :
    (store.put key value).bytes? other =
      if other = key then some value.toUTF8 else store.bytes? other := by
  cases store with
  | memory vars =>
    simp only [put, bytes?, OrderedMap.get?_insert]
    split <;> rfl
  | process vars => exact vars.get?_insert key other value.toUTF8

theorem isProcess_put (store : Store) (key value : String) :
    (store.put key value).isProcess = store.isProcess := by
  cases store <;> rfl

theorem set_eq (store : Store) (overwrite : Bool) (key value : String) :
    store.set overwrite key value =
      if overwrite = false ∧ (store.value? key).getD "" ≠ "" then (false, store)
      else store.insert key value := by
  unfold set
  cases hv : store.value? key with
  | none => simp
  | some old => simp

theorem set_eq_or (store : Store) (overwrite : Bool) (key value : String) :
    (store.set overwrite key value).2 = store ∨
      (store.set overwrite key value).2 = store.put key value := by
  rw [set_eq, insert]
  split
  · exact .inl rfl
  · split
    · exact .inr rfl
    · exact .inl rfl

theorem set_of_refused (h : ¬store.accepts key value) (overwrite : Bool) :
    store.set overwrite key value = (false, store) := by
  rw [set_eq, insert, if_neg h, ite_self]

theorem isProcess_set (store : Store) (overwrite : Bool) (key value : String) :
    (store.set overwrite key value).2.isProcess = store.isProcess := by
  rcases set_eq_or store overwrite key value with h | h
  · rw [h]
  · rw [h, isProcess_put]

theorem accepts_set (store : Store) (overwrite : Bool) (name held key value : String) :
    (store.set overwrite name held).2.accepts key value = store.accepts key value :=
  accepts_congr (isProcess_set store overwrite name held) key value

theorem bytes?_set_of_ne {other : String} (h : other ≠ key) :
    (store.set overwrite key value).2.bytes? other = store.bytes? other := by
  rcases set_eq_or store overwrite key value with hs | hs
  · rw [hs]
  · rw [hs, bytes?_put, if_neg h]

/-- What setting one more value makes of the value held so far. -/
def settle (overwrite : Bool) (old : Option String) (value : String) : Option String :=
  if overwrite = false ∧ old.getD "" ≠ "" then old else some value

theorem value?_set (h : store.accepts key value) (overwrite : Bool) (other : String) :
    (store.set overwrite key value).2.value? other =
      if other = key then settle overwrite (store.value? other) value else store.value? other := by
  rw [set_eq, settle]
  by_cases hk : overwrite = false ∧ (store.value? key).getD "" ≠ ""
  · rw [if_pos hk]
    by_cases ho : other = key
    · subst ho
      simp [hk]
    · simp [ho]
  · rw [if_neg hk, insert, if_pos h]
    show (store.put key value).value? other = _
    rw [value?_put store key value other h]
    by_cases ho : other = key
    · subst ho
      simp [hk]
    · simp [ho]

theorem setAll_cons (store : Store) (overwrite : Bool) (key value : String)
    (entries : List (String × String)) : store.setAll overwrite ((key, value) :: entries) =
      (store.set overwrite key value).2.setAll overwrite entries := rfl

theorem isProcess_setAll (store : Store) (overwrite : Bool) (entries : List (String × String)) :
    (store.setAll overwrite entries).isProcess = store.isProcess := by
  induction entries generalizing store with
  | nil => rfl
  | cons p entries ih => rw [setAll_cons, ih, isProcess_set]

theorem bytes?_setAll_of_not_mem (h : key ∉ entries.map Prod.fst) :
    (store.setAll overwrite entries).bytes? key = store.bytes? key := by
  induction entries generalizing store with
  | nil => rfl
  | cons p entries ih =>
    obtain ⟨hp, he⟩ : key ≠ p.1 ∧ key ∉ entries.map Prod.fst := by simpa using h
    rw [setAll_cons, ih he, bytes?_set_of_ne hp]

theorem value?_congr {other : Store} (ho : other.isProcess = store.isProcess)
    (hb : other.bytes? key = store.bytes? key) : other.value? key = store.value? key := by
  cases store with
  | memory vars =>
    cases other with
    | process _ => cases ho
    | memory others => exact Option.map_injective (fun _ _ => String.toByteArray_inj.mp) hb
  | process vars =>
    cases other with
    | memory _ => cases ho
    | process others =>
      have hg : others.get? key = vars.get? key := hb
      simp only [value?, hg]

theorem value?_set_of_ne {other : String} (h : other ≠ key) :
    (store.set overwrite key value).2.value? other = store.value? other :=
  value?_congr (isProcess_set store overwrite key value) (bytes?_set_of_ne h)

theorem value?_setAll_of_nodup (hn : (entries.map Prod.fst).Nodup) {p : String × String}
    (hp : p ∈ entries) :
    (store.setAll overwrite entries).value? p.1 =
      if store.accepts p.1 p.2 then settle overwrite (store.value? p.1) p.2
      else store.value? p.1 := by
  induction entries generalizing store with
  | nil => cases hp
  | cons q entries ih =>
    obtain ⟨hq, hn⟩ : q.1 ∉ entries.map Prod.fst ∧ (entries.map Prod.fst).Nodup := by
      simpa using hn
    rw [setAll_cons]
    rcases List.mem_cons.mp hp with rfl | hp
    · rw [value?_congr (isProcess_setAll _ _ _) (bytes?_setAll_of_not_mem hq)]
      by_cases ha : store.accepts p.1 p.2
      · rw [value?_set ha, if_pos rfl, if_pos ha]
      · rw [set_of_refused ha, if_neg ha]
    · have hne : p.1 ≠ q.1 := fun he => hq (he ▸ List.mem_map_of_mem hp)
      rw [ih hn hp, accepts_set, value?_set_of_ne hne]

def valuesOf (key : String) (entries : List (String × String)) : List String :=
  (entries.filter fun p => p.1 = key).map Prod.snd

theorem valuesOf_eq_nil_iff : valuesOf key entries = [] ↔ key ∉ entries.map Prod.fst := by
  rw [valuesOf, List.map_eq_nil_iff, List.filter_eq_nil_iff, List.mem_map]
  constructor
  · rintro h ⟨p, hp, he⟩
    exact h p hp (by simpa using he)
  · intro h p hp he
    exact h ⟨p, hp, by simpa using he⟩

theorem value?_setAll (h : ∀ p ∈ entries, store.accepts p.1 p.2) :
    (store.setAll overwrite entries).value? key =
      (valuesOf key entries).foldl (settle overwrite) (store.value? key) := by
  induction entries generalizing store with
  | nil => rfl
  | cons p entries ih =>
    have hp := h p (by simp)
    have he : ∀ q ∈ entries, (store.set overwrite p.1 p.2).2.accepts q.1 q.2 := fun q hq => by
      rw [accepts_set]
      exact h q (List.mem_cons_of_mem _ hq)
    rw [setAll_cons, ih he, value?_set hp]
    by_cases hk : key = p.1
    · subst hk
      simp [valuesOf]
    · simp [valuesOf, hk, Ne.symm hk]

theorem foldl_settle_true (old : Option String) (values : List String) :
    values.foldl (settle true) old = values.getLast?.or old := by
  induction values generalizing old with
  | nil => rfl
  | cons value values ih =>
    rw [List.foldl_cons, ih]
    cases h : values.getLast? <;> simp [settle, List.getLast?_cons, h]

theorem foldl_settle_of_kept {old : Option String} (h : old.getD "" ≠ "") (values : List String) :
    values.foldl (settle false) old = old := by
  induction values with
  | nil => rfl
  | cons value values ih => rw [List.foldl_cons, settle, if_pos ⟨rfl, h⟩, ih]

theorem foldl_settle_of_empty {old : Option String} (h : old.getD "" = "") {values : List String}
    (hv : values ≠ []) :
    values.foldl (settle false) old = some ((values.find? (· ≠ "")).getD "") := by
  induction values generalizing old with
  | nil => exact absurd rfl hv
  | cons value values ih =>
    rw [List.foldl_cons, settle, if_neg fun hk => hk.2 h]
    by_cases he : value = ""
    · subst he
      cases values with
      | nil => rfl
      | cons next rest =>
        have hn : (some "").getD "" = "" := rfl
        simpa using ih hn (by simp)
    · rw [foldl_settle_of_kept (by simpa using he)]
      simp [he]

/-- The value that publishing some values under a key leaves there. -/
def settled (overwrite : Bool) (old : Option String) (values : List String) : String :=
  if overwrite then values.getLast?.getD ""
  else if old.getD "" ≠ "" then old.getD ""
  else (values.find? (· ≠ "")).getD ""

theorem foldl_settle {values : List String} (overwrite : Bool) (old : Option String)
    (hv : values ≠ []) :
    values.foldl (settle overwrite) old = some (settled overwrite old values) := by
  unfold settled
  cases overwrite with
  | true =>
    rw [foldl_settle_true]
    cases h : values.getLast? with
    | none => exact absurd (List.getLast?_eq_none_iff.mp h) hv
    | some last => rfl
  | false =>
    by_cases ho : old.getD "" = ""
    · simp [foldl_settle_of_empty ho hv, ho]
    · rw [foldl_settle_of_kept ho]
      cases old with
      | none => exact absurd rfl ho
      | some text =>
        have ht : text ≠ "" := ho
        simp [ht]

def refused (v : Verdict) : Verdict :=
  { v with
    outcome := .failed ("[environment]: value for " ++ v.key ++
      " cannot be stored in the environment") }

theorem text_unstorable (key : String) : (unstorable key).text =
    "[environment]: value for " ++ key ++ " cannot be stored in the environment" := by
  show "[" ++ "environment" ++ "]: " ++
    ("value for " ++ key ++ " cannot be stored in the environment") = _
  simp only [← String.append_assoc]
  rfl

theorem screen_eq (store : Store) (v : Verdict) :
    store.screen v = if v.isOk ∧ ¬store.accepts v.key v.value then refused v else v := by
  simp only [screen, refused, text_unstorable, Bool.and_eq_true, Bool.not_eq_true',
    Bool.not_eq_true]

theorem screen_of_isOk {v : Verdict} (h : (store.screen v).isOk) :
    store.screen v = v ∧ v.isOk ∧ store.accepts v.key v.value := by
  rw [screen_eq] at h ⊢
  split at h
  · simp [refused, Verdict.isOk] at h
  · rename_i hr
    exact ⟨if_neg hr, h, by simpa [h] using hr⟩

def screened (store : Store) (verdicts : Verdicts) : Verdicts := verdicts.map store.screen

theorem screened_congr {other : Store} (h : other.isProcess = store.isProcess)
    (verdicts : Verdicts) : other.screened verdicts = store.screened verdicts :=
  List.map_congr_left fun v _ => by rw [screen, screen, accepts_congr h]

theorem keys_screened (store : Store) (verdicts : Verdicts) :
    (store.screened verdicts).map Verdict.key = verdicts.map Verdict.key := by
  rw [screened, List.map_map]
  refine List.map_congr_left fun v _ => ?_
  rw [Function.comp_apply, screen]
  split <;> rfl

theorem screened_eq_self (h : (store.screened verdicts).allOk) :
    store.screened verdicts = verdicts := by
  have hs : ∀ v ∈ verdicts, store.screen v = id v := fun v hv =>
    (screen_of_isOk (List.all_eq_true.mp h _ (List.mem_map_of_mem hv))).1
  rw [screened, List.map_congr_left hs, List.map_id]

theorem accepts_of_screened (h : (store.screened verdicts).allOk) :
    ∀ p ∈ verdicts.pairs, store.accepts p.1 p.2 := by
  intro p hp
  obtain ⟨v, hv, rfl⟩ := List.mem_map.mp hp
  exact (screen_of_isOk (List.all_eq_true.mp h _ (List.mem_map_of_mem hv))).2.2

theorem publish_of_screened (h : (store.screened verdicts).allOk) (overwrite : Bool) :
    store.publish overwrite verdicts = (.ok verdicts, store.setAll overwrite verdicts.pairs) := by
  have hs : verdicts.map store.screen = verdicts := screened_eq_self h
  rw [screened, hs] at h
  simp only [publish, hs, h]
  rfl

theorem publish_of_refused (h : (store.screened verdicts).allOk = false) (overwrite : Bool) :
    store.publish overwrite verdicts = (.error (store.screened verdicts), store) := by
  rw [screened] at h ⊢
  simp [publish, h]

theorem valuesOf_pairs (key : String) (verdicts : Verdicts) :
    valuesOf key verdicts.pairs =
      (verdicts.filter fun v => v.key = key).map Verdict.value := by
  simp [valuesOf, Verdicts.pairs, List.filter_map, Function.comp_def]

theorem keys_pairs (verdicts : Verdicts) :
    verdicts.pairs.map Prod.fst = verdicts.map Verdict.key := by
  simp [Verdicts.pairs, Function.comp_def]

/-- Publishing fails with the refused verdicts in place of those the store does not accept, and
leaves the store alone; or no verdict has failed or is refused, the values are there, and what is
held under other names is not touched. -/
theorem publish_all_or_nothing (store : Store) (overwrite : Bool) (verdicts : Verdicts) :
    let judged : Verdicts := verdicts.map fun v =>
      if v.isOk ∧ ¬store.accepts v.key v.value then refused v else v
    ((∃ v ∈ judged, ¬v.isOk) ∧ store.publish overwrite verdicts = (.error judged, store) ∧
        judged.messages = judged.flatMap fun v =>
          match v.outcome with
          | .ok => []
          | .failed message => [message]) ∨
      ((∀ v ∈ judged, v.isOk) ∧ ∃ after, store.publish overwrite verdicts = (.ok verdicts, after) ∧
        after.isProcess = store.isProcess ∧
        (∀ key ∉ verdicts.map Verdict.key,
          after.bytes? key = store.bytes? key ∧ after.value? key = store.value? key) ∧
        ∀ key ∈ verdicts.map Verdict.key, after.value? key = some (settled overwrite
          (store.value? key) ((verdicts.filter fun v => v.key = key).map Verdict.value))) := by
  intro judged
  have hj : judged = store.screened verdicts :=
    List.map_congr_left fun v _ => (screen_eq store v).symm
  rw [hj]
  by_cases h : (store.screened verdicts).allOk
  · refine .inr ⟨List.all_eq_true.mp h, _, publish_of_screened h overwrite,
      isProcess_setAll _ _ _, fun key hk => ⟨?_, ?_⟩, fun key hk => ?_⟩
    · rw [← keys_pairs] at hk
      exact bytes?_setAll_of_not_mem hk
    · have hv : valuesOf key verdicts.pairs = [] := by
        rw [valuesOf_eq_nil_iff, keys_pairs]
        exact hk
      rw [value?_setAll (accepts_of_screened h), hv, List.foldl_nil]
    · have hv : valuesOf key verdicts.pairs ≠ [] := by
        rw [Ne, valuesOf_eq_nil_iff, keys_pairs]
        exact not_not_intro hk
      rw [value?_setAll (accepts_of_screened h), foldl_settle _ _ hv, valuesOf_pairs]
  · have hf := Bool.eq_false_iff.mpr h
    exact .inl ⟨List.all_eq_false.mp hf, publish_of_refused hf overwrite,
      Verdicts.messages_eq_flatMap _⟩

end Store

end EnvTemplate
