import EnvTemplate.Proofs.NumeralGrammar
import EnvTemplate.Proofs.ShortestDecimal

/-! The text of a number is a literal again, of the number that was written. -/

namespace EnvTemplate.Number

open Binary64 Shortest

variable {sign digits : List Char} {negative : Bool} {u x m n p : Nat}

theorem allDigits_toDigits (n : Nat) : AllDigits (Nat.toDigits 10 n) := fun _ hc =>
  Nat.isDigit_of_mem_toDigits (by decide) (by decide) hc

def padded (p m : Nat) : List Char :=
  List.replicate (p - (Nat.toDigits 10 m).length) '0' ++ Nat.toDigits 10 m

def stripZeros (s : List Char) : List Char := (s.reverse.dropWhile (· = '0')).reverse

def fractionDigits (x : Nat) : List Char := stripZeros (padded places (x % 10 ^ places))

theorem length_padded (hp : 0 < p) (hm : m < 10 ^ p) : (padded p m).length = p := by
  have hl : (Nat.toDigits 10 m).length ≤ p :=
    (Nat.length_toDigits_le_iff (by decide) hp).mpr hm
  rw [padded, List.length_append, List.length_replicate, Nat.sub_add_cancel hl]

theorem ofDigitChars_padded (p m : Nat) : Nat.ofDigitChars 10 (padded p m) 0 = m := by
  rw [padded, Nat.ofDigitChars_append, Nat.ofDigitChars_replicate_zero, Nat.mul_zero,
    Nat.ofDigitChars_ten_toDigits]

theorem allDigits_padded (p m : Nat) : AllDigits (padded p m) := by
  intro c hc
  rcases List.mem_append.mp hc with hz | hd
  · rw [List.eq_of_mem_replicate hz]
    decide
  · exact allDigits_toDigits m c hd

theorem padded_zero (hp : 0 < p) : padded p 0 = List.replicate p '0' := by
  rw [padded, Nat.toDigits_zero, ← List.replicate_succ', List.length_singleton,
    Nat.sub_add_cancel hp]

theorem exists_zeros (s : List Char) : ∃ t, s = stripZeros s ++ List.replicate t '0' := by
  have hz : s.reverse.takeWhile (· = '0') =
      List.replicate (s.reverse.takeWhile (· = '0')).length '0' :=
    List.eq_replicate_iff.mpr ⟨rfl, fun c hc => by
      simpa using List.all_eq_true.mp List.all_takeWhile c hc⟩
  have hs : s.reverse.takeWhile (· = '0') ++ s.reverse.dropWhile (· = '0') = s.reverse :=
    List.takeWhile_append_dropWhile
  rw [hz] at hs
  exact ⟨_, by simpa [stripZeros] using (congrArg List.reverse hs).symm⟩

theorem places_pos : 0 < places := by decide

theorem allDigits_fractionDigits (x : Nat) : AllDigits (fractionDigits x) := by
  obtain ⟨t, ht⟩ := exists_zeros (padded places (x % 10 ^ places))
  intro c hc
  refine allDigits_padded places (x % 10 ^ places) c ?_
  rw [ht]
  exact List.mem_append_left _ hc

theorem ofDigitChars_fractionDigits (x : Nat) : ∃ t, (fractionDigits x).length + t = places ∧
    Nat.ofDigitChars 10 (fractionDigits x) 0 * 10 ^ t = x % 10 ^ places := by
  have hp := places_pos
  unfold fractionDigits
  generalize places = p at hp ⊢
  obtain ⟨t, ht⟩ := exists_zeros (padded p (x % 10 ^ p))
  have hl := length_padded hp (Nat.mod_lt x (by positivity))
  have hv := ofDigitChars_padded p (x % 10 ^ p)
  rw [ht, List.length_append, List.length_replicate] at hl
  rw [ht, Nat.ofDigitChars_append, Nat.ofDigitChars_replicate_zero, Nat.mul_comm] at hv
  exact ⟨t, hl, hv⟩

theorem fractionDigits_of_dvd (h : 10 ^ places ∣ x) : fractionDigits x = [] := by
  rw [fractionDigits, Nat.mod_eq_zero_of_dvd h, padded_zero places_pos, stripZeros,
    List.reverse_replicate, List.dropWhile_replicate, if_pos (decide_eq_true rfl),
    List.reverse_nil]

theorem fixedPoint_eq (x : Nat) : fixedPoint x =
    if fractionDigits x = [] then Nat.toDigits 10 (x / 10 ^ places)
    else Nat.toDigits 10 (x / 10 ^ places) ++ '.' :: fractionDigits x := by
  by_cases hf : fractionDigits x = []
  · rw [if_pos hf]
    simp only [fractionDigits, stripZeros, padded] at hf
    simp only [fixedPoint, Nat.pow_eq, hf, if_true]
  · rw [if_neg hf]
    simp only [fractionDigits, stripZeros, padded] at hf ⊢
    simp only [fixedPoint, Nat.pow_eq, hf, if_false]

def decimalLiteral (negative : Bool) (x : Nat) : Literal where
  negative := negative
  whole := Nat.toDigits 10 (x / 10 ^ places)
  fraction := if fractionDigits x = [] then none else some (fractionDigits x)
  exponent := none

theorem written_digits (hs : IsSign negative sign) (hn : digits ≠ []) (hd : AllDigits digits) :
    Literal.Written ⟨negative, digits, none, none⟩ (sign ++ digits) := by
  have h := Literal.Written.intro (l := ⟨negative, digits, none, none⟩) hs (.whole hn hd) .absent
  rwa [List.append_nil] at h

theorem written_fixedPoint (hs : IsSign negative sign) (x : Nat) :
    (decimalLiteral negative x).Written (sign ++ fixedPoint x) := by
  have hw := allDigits_toDigits (x / 10 ^ places)
  have hm : IsMantissa (decimalLiteral negative x).whole (decimalLiteral negative x).fraction
      (fixedPoint x) := by
    rw [fixedPoint_eq, decimalLiteral]
    by_cases hf : fractionDigits x = []
    · rw [if_pos hf, if_pos hf]
      exact .whole Nat.toDigits_ne_nil hw
    · rw [if_neg hf, if_neg hf]
      refine .pointed (List.append_ne_nil_of_right_ne_nil _ hf) fun c hc => ?_
      exact (List.mem_append.mp hc).elim (hw c) (allDigits_fractionDigits x c)
  have h := Literal.Written.intro hs hm .absent
  rwa [List.append_nil] at h

theorem fractionDigits_of_isInteger (h : (decimalLiteral negative x).isInteger) :
    fractionDigits x = [] := by
  by_contra hf
  simp [Literal.isInteger, decimalLiteral, if_neg hf] at h

theorem abs_decimalLiteral (negative : Bool) (x : Nat) :
    |(decimalLiteral negative x).toRat| = x / 10 ^ places := by
  obtain ⟨t, hl, hv⟩ := ofDigitChars_fractionDigits x
  have hf : (decimalLiteral negative x).fraction.getD [] = fractionDigits x := by
    rw [decimalLiteral]
    split <;> simp_all
  have hx : Nat.ofDigitChars 10 (decimalLiteral negative x).whole 0 = x / 10 ^ places :=
    Nat.ofDigitChars_ten_toDigits
  have hc : (decimalLiteral negative x).coefficient * 10 ^ t = x := by
    rw [Literal.coefficient_eq, hf, hx]
    calc (x / 10 ^ places * 10 ^ (fractionDigits x).length +
          Nat.ofDigitChars 10 (fractionDigits x) 0) * 10 ^ t
        = x / 10 ^ places * (10 ^ (fractionDigits x).length * 10 ^ t) +
            Nat.ofDigitChars 10 (fractionDigits x) 0 * 10 ^ t := by ring
      _ = x / 10 ^ places * 10 ^ places + x % 10 ^ places := by rw [← pow_add, hl, hv]
      _ = x := Nat.div_add_mod' x (10 ^ places)
  have he : (decimalLiteral negative x).scale = -((fractionDigits x).length : Int) := by
    rw [Literal.scale, hf]
    exact zero_sub _
  have hp : (10 : ℚ) ^ places = 10 ^ (fractionDigits x).length * 10 ^ t := by rw [← pow_add, hl]
  have hq : ((decimalLiteral negative x).coefficient * 10 ^ t : ℚ) = x := by exact_mod_cast hc
  rw [Literal.abs_toRat, he, zpow_neg, zpow_natCast, hp, ← hq]
  field_simp

theorem fixedPoint_eq_toDigits_iff : fixedPoint x = Nat.toDigits 10 m ↔ x = m * 10 ^ places := by
  constructor
  · intro h
    have hx := written_fixedPoint .absent x
    rw [h] at hx
    have hl := hx.unique (written_digits .absent Nat.toDigits_ne_nil (allDigits_toDigits m))
    have hv := abs_decimalLiteral false x
    rw [hl, Literal.toRat_of_isInteger rfl, Literal.toInt_eq, signed, if_neg Bool.false_ne_true,
      Nat.ofDigitChars_ten_toDigits, Int.cast_natCast, Nat.abs_cast, eq_div_iff (by positivity)] at hv
    exact_mod_cast hv.symm
  · intro h
    rw [h, fixedPoint_eq, if_pos (fractionDigits_of_dvd (Nat.dvd_mul_left _ m)),
      Nat.mul_div_cancel m (by positivity)]

theorem ofDecimal?_decimalLiteral (negative : Bool) (hu : IsMagnitude u) (hb : u < bound) :
    ofDecimal? (decimalLiteral negative (Shortest.digits u)).coefficient
      (decimalLiteral negative (Shortest.digits u)).scale = some u := by
  have hr := readsBack_iff.mp (isShortest_digits hu).readsBack
  have hv : (Shortest.digits u / (10 ^ places : Nat) : ℚ) =
      (decimalLiteral negative (Shortest.digits u)).coefficient *
        10 ^ (decimalLiteral negative (Shortest.digits u)).scale := by
    rw [← Literal.abs_toRat, abs_decimalLiteral]
    push_cast
    rfl
  rw [ofDecimal?_eq (by positivity) hv, hr, finite?, if_pos hb]

def signedText (negative : Bool) (digits : List Char) : String :=
  (if negative then "-" else "") ++ String.ofList digits

theorem toList_signedText (negative : Bool) (digits : List Char) :
    (signedText negative digits).toList = (if negative then ['-'] else []) ++ digits := by
  cases negative <;> simp [signedText]

theorem isSign_minus (negative : Bool) : IsSign negative (if negative then ['-'] else []) := by
  cases negative
  · exact .absent
  · exact .minus

theorem toString_signed (negative : Bool) (n : Nat) :
    toString (signed negative n) = signedText (negative && n ≠ 0) (Nat.toDigits 10 n) := by
  rw [Int.toString_eq_repr, Int.repr_eq_if]
  cases negative with
  | false => simp [signed, signedText, Nat.repr_eq_ofList_toDigits]
  | true =>
    cases n with
    | zero => rfl
    | succ n =>
      have hn : ¬(0 : Int) ≤ -(n + 1 : Nat) := by omega
      simp only [signed, if_true, if_neg hn, neg_neg, Int.toNat_natCast]
      simp [signedText, Nat.repr_eq_ofList_toDigits]

theorem normal?_toString_signed (h : fitsWord (signed negative n)) :
    normal? (toString (signed negative n)) = some (toString (signed negative n)) := by
  have hw := written_digits (isSign_minus (negative && n ≠ 0)) Nat.toDigits_ne_nil
    (allDigits_toDigits n)
  have hi : signed (negative && n ≠ 0) n = signed negative n := by
    cases n <;> simp [signed]
  rw [← toList_signedText, ← toString_signed] at hw
  rw [normal?_of_written hw, Literal.normal?, Literal.toInt_eq, Nat.ofDigitChars_ten_toDigits, hi]
  exact if_pos h

theorem normal?_signedText (hu : IsMagnitude u) (hb : u < bound) (h : negative → u ≠ 0) :
    normal? (signedText negative (text u)) = some (signedText negative (text u)) := by
  have hw := written_fixedPoint (isSign_minus negative) (Shortest.digits u)
  rw [← toList_signedText] at hw
  rw [text, normal?_of_written hw, Literal.normal?]
  split
  · -- a whole number of a word is read as an integer this time
    rename_i hi
    have ht : fixedPoint (Shortest.digits u) =
        Nat.toDigits 10 (Shortest.digits u / 10 ^ places) := by
      rw [fixedPoint_eq, if_pos (fractionDigits_of_isInteger (Bool.and_eq_true_iff.mp hi).1)]
    have hn : negative → Shortest.digits u / 10 ^ places ≠ 0 := by
      intro hm h0
      rw [h0, fixedPoint_eq_toDigits_iff, Nat.zero_mul] at ht
      exact digits_ne_zero hu (h hm) ht
    rw [Literal.toInt_eq, decimalLiteral, Nat.ofDigitChars_ten_toDigits, toString_signed, ht]
    generalize Shortest.digits u / 10 ^ places = n at hn
    cases negative <;> simp_all
  · rw [ofDecimal?_decimalLiteral negative hu hb]
    rfl

theorem text_zero : text 0 = ['0'] := by decide +kernel

/-- What is written for a binary number is written for its text too, but for a negative zero. -/
theorem normal?_signedText_iff (hu : IsMagnitude u) (hb : u < bound) :
    normal? (signedText negative (text u)) = some (signedText negative (text u)) ↔
      ¬(negative ∧ u = 0) := by
  by_cases hz : negative ∧ u = 0
  · refine iff_of_false ?_ (not_not_intro hz)
    rw [hz.1, hz.2, text_zero]
    decide +kernel
  · exact iff_of_true (normal?_signedText hu hb fun hm hu0 => hz ⟨hm, hu0⟩) hz

end EnvTemplate.Number
