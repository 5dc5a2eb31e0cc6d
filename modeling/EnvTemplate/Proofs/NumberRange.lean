import EnvTemplate.Proofs.NumeralGrammar
import EnvTemplate.Proofs.Rounding
import EnvTemplate.Validator.Standard
import Mathlib.Data.Nat.Cast.Order.Ring
import Mathlib.Data.Rat.Cast.Order

namespace EnvTemplate

namespace Number

variable {l : Literal}

theorem exists_ratio (c : Nat) (e : Int) :
    ∃ num den : Nat, 0 < den ∧ (num / den : ℚ) = c * 10 ^ e := by
  cases e with
  | ofNat k => exact ⟨c * 10 ^ k, 1, by norm_num, by simp⟩
  | negSucc k => exact ⟨c, 10 ^ (k + 1), by positivity, by simp [zpow_negSucc, div_eq_mul_inv]⟩

theorem isSome_ofDecimal?_iff (c : Nat) (e : Int) :
    (Binary64.ofDecimal? c e).isSome ↔ (c * 10 ^ e : ℚ) < 2 ^ 1024 - 2 ^ 970 := by
  obtain ⟨num, den, hd, h⟩ := exists_ratio c e
  rw [Binary64.ofDecimal?_eq hd h, Binary64.finite?, ← h, ← Binary64.nearest_lt_bound_iff hd]
  split <;> simp_all

theorem abs_lt_of_fitsWord {i : Int} (h : fitsWord i) : (|i| : ℚ) < 2 ^ 1024 - 2 ^ 970 := by
  have hi : |i| ≤ 2 ^ 63 := by
    simp only [fitsWord, Bool.and_eq_true, decide_eq_true_eq] at h
    rw [abs_le]
    omega
  have hword : (2 : ℚ) ^ 63 < 2 ^ 970 := pow_lt_pow_right₀ (by norm_num) (by norm_num)
  have hdouble : (2 : ℚ) ^ 970 + 2 ^ 970 ≤ 2 ^ 1024 := by
    rw [← mul_two, ← pow_succ]
    exact pow_le_pow_right₀ (by norm_num) (by norm_num)
  calc (|i| : ℚ) ≤ 2 ^ 63 := by exact_mod_cast hi
    _ < 2 ^ 970 := hword
    _ ≤ 2 ^ 1024 - 2 ^ 970 := le_sub_iff_add_le.mpr hdouble

theorem Literal.isSome_normal?_iff (l : Literal) :
    l.normal?.isSome ↔ |l.toRat| < 2 ^ 1024 - 2 ^ 970 := by
  unfold normal?
  split
  · rename_i h
    obtain ⟨hi, hf⟩ := Bool.and_eq_true_iff.mp h
    rw [toRat_of_isInteger hi]
    exact iff_of_true rfl (by exact_mod_cast abs_lt_of_fitsWord hf)
  · rw [Option.isSome_map, isSome_ofDecimal?_iff, abs_toRat]

end Number

open Number

namespace Standard

/-- A number is a text of the grammar whose exact value is nearer to a finite magnitude than to the
first one that is not: less than half a spacing above the largest. -/
theorem number_accepts_iff (args : List String) (value : String) :
    (∃ result, number.apply args value = .ok result) ↔
      ∃ l : Literal, l.Written value.toList ∧ |l.toRat| < 2 ^ 1024 - 2 ^ 970 := by
  constructor
  · rintro ⟨result, h⟩
    obtain ⟨l, hw, hl⟩ := normal?_eq_some_iff.mp (number_eq_ok_iff.mp h)
    exact ⟨l, hw, l.isSome_normal?_iff.mp (Option.isSome_of_eq_some hl)⟩
  · rintro ⟨l, hw, hl⟩
    obtain ⟨result, hr⟩ := Option.isSome_iff_exists.mp (l.isSome_normal?_iff.mpr hl)
    exact ⟨result, number_eq_ok_iff.mpr (normal?_eq_some_iff.mpr ⟨l, hw, hr⟩)⟩

end Standard

end EnvTemplate
