import EnvTemplate.Proofs.NormalForm

/-! The integers up to two to the 53 are magnitudes, and no decimal with fewer digits is rounded to
one of them. So it does not matter whether a literal is read as an integer or as a binary number. -/

namespace EnvTemplate

namespace Number

namespace Binary64

variable {m n : Nat}

theorem isMagnitude_mul_pow (hm : m ≤ 2 ^ 53) (e : Nat) : IsMagnitude (m * 2 ^ e) := by
  rcases hm.lt_or_eq with hlt | rfl
  · by_cases hz : m * 2 ^ e = 0
    · rw [hz]
      exact dvd_zero _
    · have hpow : m * 2 ^ e < 2 ^ (53 + e) := by
        rw [pow_add]
        exact Nat.mul_lt_mul_of_pos_right hlt (by positivity)
      have hlog : (m * 2 ^ e).log2 < 53 + e := (Nat.log2_lt hz).mpr hpow
      exact (spacing_dvd_pow (by omega)).trans (Nat.dvd_mul_left _ _)
  · rw [← pow_add]
    exact spacing_dvd_pow (by rw [Nat.log2_two_pow]; omega)

theorem nearest_whole (hn : n ≤ 2 ^ 53) : nearest n 1 = n * 2 ^ unitBits :=
  nearest_eq_of_eq Nat.one_pos (isMagnitude_mul_pow hn _) (by push_cast; rw [div_one])

theorem finite?_whole (hn : n ≤ 2 ^ 53) :
    finite? (n * 2 ^ unitBits) = some (n * 2 ^ unitBits) := by
  have hb : n * 2 ^ unitBits < bound := by
    calc n * 2 ^ unitBits ≤ 2 ^ 53 * 2 ^ unitBits := Nat.mul_le_mul_right _ hn
      _ = 2 ^ (53 + unitBits) := (pow_add 2 53 unitBits).symm
      _ < bound := by
        rw [bound_eq (e := 1024 + unitBits) rfl]
        exact Nat.pow_lt_pow_right one_lt_two (Nat.add_lt_add_right (by norm_num) unitBits)
  rw [finite?, if_pos hb]

end Binary64

namespace Shortest

open Binary64

variable {u w x y d k m n : Nat}

theorem lt_of_readsBack (hx : readsBack u x) (hy : readsBack w y) (h : u < w) : x < y := by
  have hp : 0 < 10 ^ places := by positivity
  rw [readsBack_iff] at hx hy
  refine not_le.mp fun hle => h.not_ge ?_
  rw [← hx, ← hy]
  exact nearest_mono hp hp (by gcongr)

theorem expansion_whole (n : Nat) : expansion (n * 2 ^ unitBits) = n * 10 ^ places := by
  have hten : 10 ^ places = 2 ^ unitBits * 5 ^ places := by
    rw [places, ← Nat.mul_pow]
  rw [expansion_eq, hten, Nat.mul_assoc]

theorem readsBack_whole (hn : n ≤ 2 ^ 53) : readsBack (n * 2 ^ unitBits) (n * 10 ^ places) := by
  rw [← expansion_whole]
  exact readsBack_expansion (isMagnitude_mul_pow hn _)

theorem beats_expansion (u y : Nat) : Beats u (expansion u) y := by
  rw [Beats, Nat.dist_self]
  rcases Nat.eq_zero_or_pos (Nat.dist y (expansion u)) with hz | hpos
  · exact .inr ⟨hz.symm, (Nat.eq_of_dist_eq_zero hz).le⟩
  · exact .inl hpos

theorem pred_lt_of_readsBack (h0 : n ≠ 0) (hn : n ≤ 2 ^ 53)
    (hy : readsBack (n * 2 ^ unitBits) y) : (n - 1) * 10 ^ places < y :=
  lt_of_readsBack (readsBack_whole (by omega)) hy
    (Nat.mul_lt_mul_of_pos_right (by omega) (by positivity))

/-- No other integer is rounded to a smaller one, and only the next one to two to the 53. -/
theorem eq_of_readsBack_whole (h0 : n ≠ 0) (hn : n ≤ 2 ^ 53)
    (h : readsBack (n * 2 ^ unitBits) (x * 10 ^ places)) : x = n ∨ n = 2 ^ 53 ∧ x = n + 1 := by
  have hbelow : n - 1 < x := Nat.lt_of_mul_lt_mul_right (pred_lt_of_readsBack h0 hn h)
  rcases hn.lt_or_eq with hlt | rfl
  · have habove : x * 10 ^ places < (n + 1) * 10 ^ places :=
      lt_of_readsBack h (readsBack_whole hlt)
        (Nat.mul_lt_mul_of_pos_right (Nat.lt_succ_self n) (by positivity))
    have hx := Nat.lt_of_mul_lt_mul_right habove
    exact .inl (by omega)
  · -- from here on every other integer is a magnitude
    have hnext : readsBack ((2 ^ 52 + 1) * 2 ^ (unitBits + 1)) ((2 ^ 53 + 2) * 10 ^ places) := by
      have hu : (2 ^ 52 + 1) * 2 ^ (unitBits + 1) = (2 ^ 53 + 2) * 2 ^ unitBits := by ring
      have hm := isMagnitude_mul_pow (m := 2 ^ 52 + 1) (by norm_num) (unitBits + 1)
      rw [hu] at hm ⊢
      rw [← expansion_whole]
      exact readsBack_expansion hm
    have habove : x * 10 ^ places < (2 ^ 53 + 2) * 10 ^ places := by
      refine lt_of_readsBack h hnext ?_
      rw [pow_succ 2 unitBits]
      have hpos : 0 < 2 ^ unitBits := by positivity
      omega
    have hx := Nat.lt_of_mul_lt_mul_right habove
    omega

theorem hasDigits_whole (h0 : n ≠ 0) (hn : n ≤ 2 ^ 53) (hy : readsBack (n * 2 ^ unitBits) y)
    (hd : HasDigits d y) : HasDigits d (n * 10 ^ places) := by
  obtain ⟨m, k, hm, rfl⟩ := hd
  have hlong : n ≤ m → HasDigits d (n * 10 ^ places) := fun hle =>
    ⟨n, places, hle.trans_lt hm, rfl⟩
  rcases Nat.le_total k places with hk | hk
  · -- the last digit is not left of the point
    have hbelow : (n - 1) * 10 ^ places < m * 10 ^ places :=
      (pred_lt_of_readsBack h0 hn hy).trans_le
        (Nat.mul_le_mul_left m (Nat.pow_le_pow_right (by norm_num) hk))
    have hle := Nat.lt_of_mul_lt_mul_right hbelow
    exact hlong (by omega)
  · have hwhole : m * 10 ^ k = m * 10 ^ (k - places) * 10 ^ places := by
      rw [Nat.mul_assoc, ← pow_add, Nat.sub_add_cancel hk]
    rw [hwhole] at hy
    rcases eq_of_readsBack_whole h0 hn hy with he | ⟨rfl, he⟩
    · rw [← he, ← hwhole]
      exact ⟨m, k, hm, rfl⟩
    · -- the integer after two to the 53 has a last digit of its own
      cases hj : k - places with
      | zero =>
        rw [hj, pow_zero, Nat.mul_one] at he
        exact hlong (by omega)
      | succ j =>
        rw [hj, pow_succ, ← Nat.mul_assoc] at he
        omega

theorem isShortest_whole (h0 : n ≠ 0) (hn : n ≤ 2 ^ 53) :
    IsShortest (n * 2 ^ unitBits) (n * 10 ^ places) where
  readsBack := readsBack_whole hn
  fewest _ _ hy hd := hasDigits_whole h0 hn hy hd
  nearest y _ _ := by
    rw [← expansion_whole]
    exact beats_expansion _ y

theorem text_whole (h0 : n ≠ 0) (hn : n ≤ 2 ^ 53) :
    text (n * 2 ^ unitBits) = Nat.toDigits 10 n := by
  rw [text, fixedPoint_eq_toDigits_iff, digits_eq_iff (isMagnitude_mul_pow hn _)]
  exact isShortest_whole h0 hn

end Shortest

open Binary64 Shortest

variable {l : Literal} {n : Int}

theorem cast_signed (negative : Bool) (m : Nat) :
    (signed negative m : ℚ) = (if negative then -1 else 1) * m := by
  cases negative <;> simp [signed]

theorem Literal.eq_signed (h : l.toRat = n) : n = signed l.negative n.natAbs := by
  have ha : (n.natAbs : ℚ) = l.coefficient * 10 ^ l.scale := by
    rw [← abs_toRat, h, Nat.cast_natAbs, Int.cast_abs]
  have hq : (n : ℚ) = signed l.negative n.natAbs := by rw [cast_signed, ha, ← toRat_eq, h]
  exact Int.cast_inj.mp hq

theorem Literal.normal?_of_whole (h : l.toRat = n) (h0 : n ≠ 0) (hn : |n| ≤ 2 ^ 53) :
    l.normal? = some (toString n) := by
  by_cases hw : l.isInteger && fitsWord l.toInt
  · have hi : l.toInt = n := by
      rw [toRat_of_isInteger (Bool.and_eq_true_iff.mp hw).1] at h
      exact_mod_cast h
    rw [normal?, if_pos hw, hi]
  · have hz : n.natAbs ≠ 0 := Int.natAbs_ne_zero.mpr h0
    have hle : n.natAbs ≤ 2 ^ 53 := by
      rw [Int.abs_eq_natAbs] at hn
      exact_mod_cast hn
    have hv : (n.natAbs / (1 : Nat) : ℚ) = |l.toRat| := by
      rw [h, Nat.cast_one, div_one, Nat.cast_natAbs, Int.cast_abs]
    have ht : toString n = signedText l.negative (Nat.toDigits 10 n.natAbs) := by
      have hs : (l.negative && n.natAbs ≠ 0) = l.negative := by simp [hz]
      conv_lhs => rw [eq_signed h, toString_signed, hs]
    rw [l.normal?_of_not_word hw Nat.one_pos hv, nearest_whole hle, finite?_whole hle,
      Option.map_some, text_whole hz hle, ht]

end Number

open Number

namespace Standard

variable {value : String} {l : Literal} {n : Int}

/-- However an integer up to two to the 53 is written, with a plus sign, zeros, a point or an
exponent, it is given in its canonical form. -/
theorem number_eq_of_exact_integer (args : List String) (hw : l.Written value.toList)
    (h : l.toRat = n) (h0 : n ≠ 0) (hn : |n| ≤ 2 ^ 53) :
    number.apply args value = .ok (toString n) :=
  number_eq_ok_iff.mpr (normal?_eq_some_iff.mpr ⟨l, hw, Literal.normal?_of_whole h h0 hn⟩)

theorem number_eq_of_exact_integer_of_largest :
    let l : Literal := ⟨true, ['0'], some "90071992547409920".toList, some 16⟩
    l.Written "-0.90071992547409920e+16".toList ∧ l.toRat = (-9007199254740992 : Int) ∧
      number.apply [] "-0.90071992547409920e+16" = .ok "-9007199254740992" := by
  intro l
  have hw : l.Written "-0.90071992547409920e+16".toList :=
    Literal.written_of_parse (by decide +kernel)
  have hz : Nat.ofDigitChars 10 ['0'] 0 = 0 := rfl
  have hd : Nat.ofDigitChars 10 "90071992547409920".toList 0 = 90071992547409920 := by
    decide +kernel
  have hl : "90071992547409920".toList.length = 17 := by decide +kernel
  have hv : l.toRat = (-9007199254740992 : Int) := by
    simp only [Literal.toRat, l, Option.getD_some, hz, hd, hl]
    norm_num
  exact ⟨hw, hv, number_eq_of_exact_integer [] hw hv (by decide) (by decide)⟩

end Standard

end EnvTemplate
