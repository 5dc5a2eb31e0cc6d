import EnvTemplate.Number.Normal
import Mathlib.Algebra.Order.Field.Power
import Mathlib.Algebra.Order.Field.Rat
import Mathlib.Algebra.Order.Ring.Abs
import Mathlib.Tactic.FieldSimp
import Mathlib.Tactic.Positivity
import Mathlib.Tactic.Ring

/-! The grammar of decimal literals, stated apart from the reader, and the number that a literal
denotes. -/

namespace EnvTemplate.Number

open Text

variable {s rest sign whole digits : List Char} {fraction : Option (List Char)} {negative : Bool}
  {c : Char}

inductive IsSign : Bool → List Char → Prop
  | absent : IsSign false []
  | plus : IsSign false ['+']
  | minus : IsSign true ['-']

def AllDigits (s : List Char) : Prop := ∀ c ∈ s, c.isDigit

instance (s : List Char) : Decidable (AllDigits s) :=
  decidable_of_iff (s.all Char.isDigit) List.all_eq_true

/-- Digits, perhaps with a point before, among or after them, but one digit at least. -/
inductive IsMantissa : List Char → Option (List Char) → List Char → Prop
  | whole {whole : List Char} (hn : whole ≠ []) (hd : AllDigits whole) : IsMantissa whole none whole
  | pointed {whole fraction : List Char} (hn : whole ++ fraction ≠ [])
      (hd : AllDigits (whole ++ fraction)) :
      IsMantissa whole (some fraction) (whole ++ '.' :: fraction)

def signed (negative : Bool) (n : Nat) : Int := if negative then -n else n

inductive IsExponent : Option Int → List Char → Prop
  | absent : IsExponent none []
  | marked {mark : Char} {negative : Bool} {sign digits : List Char} (hm : mark = 'e' ∨ mark = 'E')
      (hs : IsSign negative sign) (hn : digits ≠ []) (hd : AllDigits digits) :
      IsExponent (some (signed negative (Nat.ofDigitChars 10 digits 0))) (mark :: (sign ++ digits))

/-- How a literal is written: a sign, a mantissa and an exponent, and nothing else. -/
inductive Literal.Written (l : Literal) : List Char → Prop
  | intro {sign mantissa exponent : List Char} (hs : IsSign l.negative sign)
      (hm : IsMantissa l.whole l.fraction mantissa) (he : IsExponent l.exponent exponent) :
      Written l (sign ++ (mantissa ++ exponent))

theorem AllDigits.all (h : AllDigits s) : s.all Char.isDigit := List.all_eq_true.mpr h

theorem allDigits_of_all (h : s.all Char.isDigit) : AllDigits s := List.all_eq_true.mp h

theorem AllDigits.not_mem (h : AllDigits s) (hc : c.isDigit = false) : c ∉ s := fun hm => by
  rw [h c hm] at hc
  cases hc

theorem IsMantissa.exists_head (h : IsMantissa whole fraction s) :
    ∃ first ∈ s.head?, first.isDigit ∨ first = '.' := by
  cases h with
  | whole hn hd =>
    obtain ⟨first, later, rfl⟩ := List.exists_cons_of_ne_nil hn
    exact ⟨first, rfl, .inl (hd first List.mem_cons_self)⟩
  | pointed hn hd =>
    cases whole with
    | nil => exact ⟨'.', rfl, .inr rfl⟩
    | cons first later => exact ⟨first, rfl, .inl (hd first List.mem_cons_self)⟩

theorem IsMantissa.no_mark (h : IsMantissa whole fraction s) :
    ∀ c ∈ s, !Literal.isExponentMark c := by
  have hd : ∀ c : Char, c.isDigit → !Literal.isExponentMark c := by
    intro c hc
    unfold Literal.isExponentMark
    rcases eq_or_ne c 'e' with rfl | he
    · exact absurd hc (by decide)
    · rcases eq_or_ne c 'E' with rfl | hE
      · exact absurd hc (by decide)
      · simp [he, hE]
  intro c hc
  cases h with
  | whole hn h => exact hd c (h c hc)
  | pointed hn h =>
    rcases List.mem_append.mp hc with hw | hf
    · exact hd c (h c (List.mem_append_left _ hw))
    · rcases List.mem_cons.mp hf with rfl | hf
      · rfl
      · exact hd c (h c (List.mem_append_right _ hf))

theorem cutSign_append (hs : IsSign negative sign) (hr : ∀ c ∈ rest.head?, c ≠ '-' ∧ c ≠ '+') :
    Literal.cutSign (sign ++ rest) = (negative, rest) := by
  cases hs with
  | plus => rfl
  | minus => rfl
  | absent =>
    cases rest with
    | nil => rfl
    | cons c rest =>
      obtain ⟨hm, hp⟩ := hr c rfl
      rw [List.nil_append, Literal.cutSign.eq_def]
      split
      · rename_i he
        exact absurd (List.cons.inj he).1 hm
      · rename_i he
        exact absurd (List.cons.inj he).1 hp
      · rfl

theorem exists_of_cutSign (h : Literal.cutSign s = (negative, rest)) :
    ∃ sign, IsSign negative sign ∧ s = sign ++ rest := by
  rw [Literal.cutSign.eq_def] at h
  split at h <;> cases h
  · exact ⟨['-'], .minus, rfl⟩
  · exact ⟨['+'], .plus, rfl⟩
  · exact ⟨[], .absent, rfl⟩

theorem ne_sign_of_isDigit (h : c.isDigit) : c ≠ '-' ∧ c ≠ '+' := by
  constructor <;> rintro rfl <;> exact absurd h (by decide)

theorem parseMantissa_eq_some_iff :
    Literal.parseMantissa s = some (whole, fraction) ↔ IsMantissa whole fraction s := by
  constructor
  · intro h
    unfold Literal.parseMantissa at h
    split at h
    · split at h <;> cases h
      rename_i hd
      exact .whole hd.1 (allDigits_of_all hd.2)
    · rename_i hc
      split at h <;> cases h
      rename_i hd
      rw [(cut_eq_some_iff.mp hc).1]
      exact .pointed hd.1 (allDigits_of_all hd.2)
  · intro h
    unfold Literal.parseMantissa
    cases h with
    | whole hn hd =>
      rw [cut_eq_none_iff.mpr (hd.not_mem rfl)]
      exact if_pos ⟨hn, hd.all⟩
    | pointed hn hd =>
      rw [cut_append '.' fun hm => hd.not_mem rfl (List.mem_append_left _ hm)]
      exact if_pos ⟨hn, hd.all⟩

theorem digitsValue_eq (digits : List Char) :
    Literal.digitsValue digits = Nat.ofDigitChars 10 digits 0 := rfl

theorem parseExponent_append (hs : IsSign negative sign) (hn : digits ≠ [])
    (hd : AllDigits digits) :
    Literal.parseExponent (sign ++ digits) =
      some (signed negative (Nat.ofDigitChars 10 digits 0)) := by
  have hr : ∀ c ∈ digits.head?, c ≠ '-' ∧ c ≠ '+' := fun c hc =>
    ne_sign_of_isDigit (hd c (List.mem_of_mem_head? hc))
  unfold Literal.parseExponent
  rw [cutSign_append hs hr]
  exact if_pos ⟨hn, hd.all⟩

theorem exists_of_parseExponent {e : Int} (h : Literal.parseExponent s = some e) :
    ∃ negative sign digits, IsSign negative sign ∧ digits ≠ [] ∧ AllDigits digits ∧
      s = sign ++ digits ∧ e = signed negative (Nat.ofDigitChars 10 digits 0) := by
  unfold Literal.parseExponent at h
  cases hc : Literal.cutSign s with
  | mk negative digits =>
    obtain ⟨sign, hs, rfl⟩ := exists_of_cutSign hc
    rw [hc] at h
    dsimp only at h
    split at h <;> cases h
    rename_i hd
    exact ⟨negative, sign, digits, hs, hd.1, allDigits_of_all hd.2, rfl, rfl⟩

namespace Literal

variable {l l' : Literal}

theorem parse_of_written (h : l.Written s) : parse s = some l := by
  obtain ⟨negative, whole, fraction, exponent⟩ := l
  cases h with
  | @intro sign mantissa tail hs hm he =>
    dsimp only at hs hm he
    obtain ⟨first, hf, hd⟩ := hm.exists_head
    have hr : ∀ c ∈ (mantissa ++ tail).head?, c ≠ '-' ∧ c ≠ '+' := by
      intro c hc
      obtain rfl : first = c := by simpa [List.head?_append, Option.mem_def.mp hf] using hc
      rcases hd with hd | rfl
      · exact ne_sign_of_isDigit hd
      · decide
    have hp : parseMantissa mantissa = some (whole, fraction) := parseMantissa_eq_some_iff.mpr hm
    simp only [parse, cutSign_append hs hr, List.takeWhile_append_of_pos hm.no_mark,
      List.dropWhile_append_of_pos hm.no_mark]
    cases he with
    | absent => simp [hp]
    | @marked mark _ _ _ hmark hsign hn hdigits =>
      have hk : isExponentMark mark := by rcases hmark with rfl | rfl <;> rfl
      simp [hp, hk, parseExponent_append hsign hn hdigits]

theorem written_of_parse (h : parse s = some l) : l.Written s := by
  unfold parse at h
  cases hc : cutSign s with
  | mk negative unsigned =>
    obtain ⟨sign, hs, rfl⟩ := exists_of_cutSign hc
    simp only [hc] at h
    obtain ⟨⟨whole, fraction⟩, hp, h⟩ := Option.bind_eq_some_iff.mp h
    have hm := parseMantissa_eq_some_iff.mp hp
    rw [← List.takeWhile_append_dropWhile (p := (!isExponentMark ·)) (l := unsigned)]
    dsimp only at h
    split at h
    · rename_i hnil
      cases h
      rw [hnil]
      exact .intro hs hm .absent
    · rename_i mark tail hcons
      obtain ⟨e, he, h⟩ := Option.bind_eq_some_iff.mp h
      cases h
      obtain ⟨minus, esign, digits, hes, hn, hd, rfl, rfl⟩ := exists_of_parseExponent he
      have hmark : mark = 'e' ∨ mark = 'E' := by
        have hh := List.head?_dropWhile_not (!isExponentMark ·) unsigned
        rw [hcons] at hh
        exact or_iff_not_imp_left.mpr (by simpa [isExponentMark] using hh)
      rw [hcons]
      exact .intro hs hm (.marked hmark hes hn hd)

theorem parse_eq_some_iff : parse s = some l ↔ l.Written s := ⟨written_of_parse, parse_of_written⟩

theorem Written.unique (h : l.Written s) (h' : l'.Written s) : l = l' :=
  Option.some.inj ((parse_of_written h).symm.trans (parse_of_written h'))

theorem Written.exists_iff (h : l.Written s) {p : Literal → Prop} :
    (∃ l' : Literal, l'.Written s ∧ p l') ↔ p l :=
  ⟨fun ⟨_, hw, hp⟩ => hw.unique h ▸ hp, fun hp => ⟨l, h, hp⟩⟩

def toRat (l : Literal) : ℚ :=
  (if l.negative then -1 else 1) *
    (Nat.ofDigitChars 10 l.whole 0 +
      Nat.ofDigitChars 10 (l.fraction.getD []) 0 / 10 ^ (l.fraction.getD []).length) *
    10 ^ l.exponent.getD 0

theorem coefficient_eq (l : Literal) : l.coefficient =
    Nat.ofDigitChars 10 l.whole 0 * 10 ^ (l.fraction.getD []).length +
      Nat.ofDigitChars 10 (l.fraction.getD []) 0 := by
  rw [coefficient, digitsValue_eq, Nat.ofDigitChars_append, Nat.ofDigitChars_eq_ofDigitChars_zero]
  ring

theorem toRat_eq (l : Literal) :
    l.toRat = (if l.negative then -1 else 1) * (l.coefficient * 10 ^ l.scale) := by
  have hp : (10 : ℚ) ^ (l.fraction.getD []).length ≠ 0 := by positivity
  have hc : (Nat.ofDigitChars 10 l.whole 0 : ℚ) +
      Nat.ofDigitChars 10 (l.fraction.getD []) 0 / 10 ^ (l.fraction.getD []).length =
        l.coefficient / 10 ^ (l.fraction.getD []).length := by
    rw [coefficient_eq]
    push_cast
    field_simp
  rw [toRat, hc, scale, zpow_sub₀ (by norm_num), zpow_natCast]
  ring

theorem abs_toRat (l : Literal) : |l.toRat| = l.coefficient * 10 ^ l.scale := by
  have hs : |(if l.negative then -1 else 1 : ℚ)| = 1 := by split <;> norm_num
  rw [toRat_eq, abs_mul, hs, one_mul, abs_of_nonneg (by positivity)]

theorem toInt_eq (l : Literal) : l.toInt = signed l.negative (Nat.ofDigitChars 10 l.whole 0) := rfl

theorem toRat_of_isInteger (h : l.isInteger) : l.toRat = l.toInt := by
  obtain ⟨negative, whole, fraction, exponent⟩ := l
  obtain ⟨rfl, rfl⟩ : fraction = none ∧ exponent = none := by simpa [isInteger] using h
  rw [toInt_eq, signed]
  cases negative <;> simp [toRat]

end Literal

theorem normal?_eq_some_iff {value result : String} : normal? value = some result ↔
    ∃ l : Literal, l.Written value.toList ∧ l.normal? = some result := by
  simp only [normal?, Option.bind_eq_some_iff, Literal.parse_eq_some_iff]

theorem normal?_of_written {l : Literal} {value : String} (h : l.Written value.toList) :
    normal? value = l.normal? := by
  rw [normal?, Literal.parse_of_written h]
  rfl

end EnvTemplate.Number
