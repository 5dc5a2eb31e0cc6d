import EnvTemplate.Report
import Mathlib.Data.List.Forall2

namespace EnvTemplate

namespace Text.Json

def escaped : List Char := ['"', '\\'] ++ (List.range 0x20).map Char.ofNat

theorem escape_of_not_mem {c : Char} (h : c ∉ escaped) : escape c = [c] := by
  have hlow : ¬c.toNat < 0x20 := by
    intro hn
    refine h (List.mem_append_right _ (List.mem_map.mpr ⟨c.toNat, List.mem_range.mpr hn, ?_⟩))
    exact Char.ofNat_toNat c
  have hne : ∀ d ∈ escaped, c ≠ d := fun d hd he => h (he ▸ hd)
  simp [escape, hlow, hne '"' (by decide), hne '\\' (by decide), hne '\x08' (by decide),
    hne '\x0c' (by decide), hne '\n' (by decide), hne '\r' (by decide), hne '\t' (by decide)]

theorem head?_escape_of_mem {c : Char} (h : c ∈ escaped) : (escape c).head? = some '\\' := by
  have ha : escaped.all fun c => (escape c).head? = some '\\' := by decide +kernel
  simpa using List.all_eq_true.mp ha c h

theorem escape_prefixFree_of_mem {c d : Char} (hc : c ∈ escaped) (hd : d ∈ escaped)
    (h : escape c <+: escape d) : c = d := by
  -- as a test of the list, because a statement on characters is decided over all of them
  have ha : escaped.all fun c => escaped.all fun d => escape c <+: escape d → c = d := by
    decide +kernel
  simpa [h] using List.all_eq_true.mp (List.all_eq_true.mp ha c hc) d hd

theorem ne_of_escape_append {c d : Char} {s t : List Char} (hc : c ∈ escaped) (hd : d ∉ escaped)
    (h : escape c ++ s = escape d ++ t) : False := by
  have hh := congrArg List.head? h
  rw [escape_of_not_mem hd, List.head?_append, head?_escape_of_mem hc] at hh
  obtain rfl : '\\' = d := by simpa using hh
  exact hd (by decide)

/-- Where one character ends and the next begins can be read off what is written. -/
theorem escape_append_inj {c d : Char} {s t : List Char} (h : escape c ++ s = escape d ++ t) :
    c = d ∧ s = t := by
  have hcd : c = d := by
    by_cases hc : c ∈ escaped
    · by_cases hd : d ∈ escaped
      · rcases List.prefix_or_prefix_of_prefix (List.prefix_append _ s)
          (h ▸ List.prefix_append (escape d) t) with hp | hp
        · exact escape_prefixFree_of_mem hc hd hp
        · exact (escape_prefixFree_of_mem hd hc hp).symm
      · exact (ne_of_escape_append hc hd h).elim
    · by_cases hd : d ∈ escaped
      · exact (ne_of_escape_append hd hc h.symm).elim
      · rw [escape_of_not_mem hc, escape_of_not_mem hd] at h
        exact (List.cons.inj h).1
  subst hcd
  exact ⟨rfl, List.append_cancel_left h⟩

theorem escape_ne_quote (c : Char) (s t : List Char) : escape c ++ s ≠ '"' :: t := by
  intro h
  by_cases hc : c ∈ escaped
  · have hh := congrArg List.head? h
    rw [List.head?_append, head?_escape_of_mem hc] at hh
    cases hh
  · rw [escape_of_not_mem hc] at h
    obtain rfl := (List.cons.inj h).1
    exact hc (by decide)

theorem flatMap_escape_append_inj {s t rest other : List Char}
    (h : s.flatMap escape ++ '"' :: rest = t.flatMap escape ++ '"' :: other) :
    s = t ∧ rest = other := by
  induction s generalizing t with
  | nil =>
    cases t with
    | nil => exact ⟨rfl, (List.cons.inj h).2⟩
    | cons d t =>
      rw [List.flatMap_cons, List.append_assoc] at h
      exact (escape_ne_quote d _ _ h.symm).elim
  | cons c s ih =>
    cases t with
    | nil =>
      rw [List.flatMap_cons, List.append_assoc] at h
      exact (escape_ne_quote c _ _ h).elim
    | cons d t =>
      rw [List.flatMap_cons, List.flatMap_cons, List.append_assoc, List.append_assoc] at h
      obtain ⟨rfl, hst⟩ := escape_append_inj h
      obtain ⟨rfl, hr⟩ := ih hst
      exact ⟨rfl, hr⟩

/-- Two texts of which neither is the beginning of the other, unless they are the same. -/
def Separable (a b : String) : Prop := ∀ rest other : String, a ++ rest = b ++ other → a = b

theorem Separable.refl (a : String) : Separable a a := fun _ _ _ => rfl

theorem Separable.append {a b c d : String} (h : Separable a b) (h' : Separable c d) :
    Separable (a ++ c) (b ++ d) := by
  intro rest other he
  rw [String.append_assoc, String.append_assoc] at he
  obtain rfl := h _ _ he
  rw [h' _ _ ((String.append_right_inj a).mp he)]

theorem eq_of_string_append {s t rest other : String}
    (h : string s ++ rest = string t ++ other) : s = t := by
  have hl : s.toList.flatMap escape ++ '"' :: rest.toList =
      t.toList.flatMap escape ++ '"' :: other.toList := by
    have hs := congrArg String.toList h
    simpa [string] using hs
  exact String.toList_inj.mp (flatMap_escape_append_inj hl).1

theorem separable_string (s t : String) : Separable (string s) (string t) :=
  fun _ _ h => congrArg string (eq_of_string_append h)

variable {l l' : List String}

theorem intercalate_append_inj (h : List.Forall₂ Separable l l') (sep : String)
    {rest other : String} (he : sep.intercalate l ++ rest = sep.intercalate l' ++ other) :
    l = l' := by
  induction h with
  | nil => rfl
  | @cons a b _ _ hab ht ih =>
    cases ht with
    | nil =>
      rw [String.intercalate_singleton, String.intercalate_singleton] at he
      rw [hab _ _ he]
    | cons hcd ht =>
      simp only [String.intercalate_cons_cons, String.append_assoc] at he
      obtain rfl := hab _ _ he
      rw [ih ((String.append_right_inj sep).mp ((String.append_right_inj a).mp he))]

theorem block_append_inj (h : List.Forall₂ Separable l l') (first last indent : String)
    {rest other : String} (he : block first last indent l ++ rest =
      block first last indent l' ++ other) : l = l' := by
  by_cases hl : l = []
  · subst hl
    exact (List.forall₂_nil_left_iff.mp h).symm
  · have hl' : l' ≠ [] := fun hn => hl (List.forall₂_nil_right_iff.mp (hn ▸ h))
    simp only [block, if_neg hl, if_neg hl', String.append_assoc, String.append_right_inj] at he
    have hi : List.Forall₂ Separable (l.map fun item => indent ++ ("  " ++ item))
        (l'.map fun item => indent ++ ("  " ++ item)) :=
      List.forall₂_map_left_iff.mpr (List.forall₂_map_right_iff.mpr
        (h.imp fun _ _ hs => (Separable.refl _).append ((Separable.refl _).append hs)))
    refine List.map_injective_iff.mpr (fun a b hs => ?_) (intercalate_append_inj hi _ he)
    simpa only [String.append_right_inj] using hs

theorem separable_block (h : List.Forall₂ Separable l l') (first last indent : String) :
    Separable (block first last indent l) (block first last indent l') :=
  fun _ _ he => by rw [block_append_inj h first last indent he]

end Text.Json

namespace Report

open Text

structure Row.SameButMessage (r r' : Row) : Prop where
  key : r'.key = r.key
  status : r'.status = r.status
  value : r'.value = r.value
  message : r'.message.isSome = r.message.isSome

def Row.fields (r : Row) : List String :=
  ([("key", Json.string r.key), ("status", Json.string r.status), ("value", Json.string r.value)] ++
    r.message.toList.map fun message => ("message", Json.string message)).map
      fun (name, value) => Json.string name ++ ": " ++ value

theorem json_eq (l : List Row) :
    json l = Json.block "[" "]" "" (l.map fun r => Json.block "\x7b" "\x7d" "  " r.fields) := rfl

theorem Row.SameButMessage.separable_fields {r r' : Row} (h : r.SameButMessage r') :
    List.Forall₂ Json.Separable r.fields r'.fields := by
  obtain ⟨key, status, value, message⟩ := r
  obtain ⟨key', status', value', message'⟩ := r'
  obtain ⟨rfl, rfl, rfl, hm⟩ := h
  cases message with
  | none =>
    obtain rfl : message' = none := by simpa using hm
    exact List.forall₂_same.mpr fun field _ => .refl field
  | some words =>
    obtain ⟨words', rfl⟩ := Option.isSome_iff_exists.mp hm
    exact .cons (.refl _) (.cons (.refl _) (.cons (.refl _)
      (.cons ((Json.Separable.refl _).append (Json.separable_string _ _)) .nil)))

theorem Row.SameButMessage.eq_of_message {r r' : Row} (h : r.SameButMessage r')
    (hm : r.message = r'.message) : r = r' := by
  obtain ⟨key, status, value, message⟩ := r
  obtain ⟨key', status', value', message'⟩ := r'
  obtain ⟨rfl, rfl, rfl, -⟩ := h
  obtain rfl : message = message' := hm
  rfl

theorem Row.SameButMessage.eq_of_fields {r r' : Row} (h : r.SameButMessage r')
    (hf : r.fields = r'.fields) : r = r' := by
  refine h.eq_of_message ?_
  have hm := h.message
  cases hr : r.message with
  | none =>
    rw [hr] at hm
    exact (Option.isNone_iff_eq_none.mp (by simpa using hm)).symm
  | some words =>
    rw [hr] at hm
    obtain ⟨words', hr'⟩ := Option.isSome_iff_exists.mp hm
    have hs : Json.string words = Json.string words' := by
      simpa [Row.fields, hr, hr', h.key, h.status, h.value] using hf
    have hw : words = words' := Json.eq_of_string_append (congrArg (· ++ "") hs)
    rw [hr', hw]

/-- Reports in which at most the words of messages differ have the same text only if they have the
same words. -/
theorem eq_of_json {l l' : List Row} (h : List.Forall₂ Row.SameButMessage l l')
    (hj : json l = json l') : l = l' := by
  have hs : List.Forall₂ Json.Separable
      (l.map fun r => Json.block "\x7b" "\x7d" "  " r.fields)
      (l'.map fun r => Json.block "\x7b" "\x7d" "  " r.fields) :=
    List.forall₂_map_left_iff.mpr (List.forall₂_map_right_iff.mpr
      (h.imp fun _ _ hr => Json.separable_block hr.separable_fields _ _ _))
  rw [json_eq, json_eq] at hj
  have he := Json.block_append_inj hs "[" "]" "" (congrArg (· ++ "") hj)
  clear hs hj
  induction h with
  | nil => rfl
  | cons hr _ ih =>
    obtain ⟨hb, ht⟩ := List.cons.inj he
    have hf := Json.block_append_inj hr.separable_fields _ _ _ (congrArg (· ++ "") hb)
    rw [hr.eq_of_fields hf, ih ht]

end Report

end EnvTemplate
