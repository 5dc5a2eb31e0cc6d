import EnvTemplate.Number.Binary64
import Mathlib.Algebra.Order.Field.Power
import Mathlib.Algebra.Order.Field.Rat
import Mathlib.Data.Nat.Cast.Order.Field
import Mathlib.Data.Nat.Log
import Mathlib.Tactic.FieldSimp
import Mathlib.Tactic.Linarith
import Mathlib.Tactic.Positivity
import Mathlib.Tactic.Ring

/-! Rounding to the nearest magnitude, even at ties: which numbers are rounded to a magnitude or
below it. All else follows from that: rounding is monotone, keeps magnitudes, and overflows from
half a spacing below the bound on. -/

namespace EnvTemplate.Number.Binary64

variable {n d k a den a' den' num num' u w : Nat} {v v' x : ℚ}

theorem roundHalfEven_le_iff (hd : 0 < d) : roundHalfEven n d ≤ k ↔
    2 * n < (2 * k + 1) * d ∨ 2 * n = (2 * k + 1) * d ∧ k % 2 = 0 := by
  have hn : d * (n / d) + n % d = n := Nat.div_add_mod n d
  have hr : n % d < d := Nat.mod_lt n hd
  have hk : (2 * k + 1) * d = 2 * (d * k) + d := by ring
  unfold roundHalfEven
  rw [hk]
  rcases Nat.lt_trichotomy k (n / d) with hlt | rfl | hgt
  · have hm : d * k + d ≤ d * (n / d) := Nat.mul_le_mul_left d hlt
    split <;> omega
  · split <;> omega
  · have hm : d * (n / d) + d ≤ d * k := Nat.mul_le_mul_left d hgt
    split <;> omega

theorem le_roundHalfEven (h : k * d ≤ n) (hd : 0 < d) : k ≤ roundHalfEven n d := by
  have hk : k ≤ n / d := (Nat.le_div_iff_mul_le hd).mpr h
  unfold roundHalfEven
  split <;> omega

theorem spacing_eq (u : Nat) : spacing u = 2 ^ (u.log2 - 52) := rfl

theorem spacing_pos (u : Nat) : 0 < spacing u := by
  rw [spacing_eq]
  positivity

theorem spacing_dvd_pow {e : Nat} (h : u.log2 - 52 ≤ e) : spacing u ∣ 2 ^ e := pow_dvd_pow 2 h

/-- A magnitude that a number of 53 significant bits can have. -/
def IsMagnitude (u : Nat) : Prop := spacing u ∣ u

theorem add_spacing_le (hw : IsMagnitude w) : w + spacing w ≤ 2 ^ (w.log2 + 1) := by
  have hlt : w < 2 ^ (w.log2 + 1) := Nat.lt_log2_self
  have hdvd : spacing w ∣ 2 ^ (w.log2 + 1) - w := Nat.dvd_sub (spacing_dvd_pow (by omega)) hw
  have hle : spacing w ≤ 2 ^ (w.log2 + 1) - w := Nat.le_of_dvd (by omega) hdvd
  omega

theorem add_spacing_le_of_lt (hw : IsMagnitude w) (hu : IsMagnitude u) (h : w < u) :
    w + spacing w ≤ u := by
  have hu0 : u ≠ 0 := by omega
  have hlog : w.log2 ≤ u.log2 := by
    rw [Nat.log2_eq_log_two, Nat.log2_eq_log_two]
    exact Nat.log_mono_right h.le
  rcases hlog.eq_or_lt with heq | hlt
  · have hsame : spacing u = spacing w := by rw [spacing_eq, spacing_eq, heq]
    have hdvd : spacing w ∣ u - w := Nat.dvd_sub (hsame ▸ hu) hw
    have hle : spacing w ≤ u - w := Nat.le_of_dvd (by omega) hdvd
    omega
  · exact (add_spacing_le hw).trans
      ((Nat.pow_le_pow_right (by norm_num) hlt).trans (Nat.log2_self_le hu0))

def ofUnits (a den : Nat) : Nat := spacing (a / den) * roundHalfEven a (den * spacing (a / den))

theorem nearest_eq (num den : Nat) : nearest num den = ofUnits (num * 2 ^ unitBits) den := by
  simp only [nearest, ofUnits, Nat.pow_eq]

theorem ofUnits_le_pow (hd : 0 < den) : ofUnits a den ≤ 2 ^ ((a / den).log2 + 1) := by
  obtain ⟨t, ht⟩ := spacing_dvd_pow (u := a / den) (e := (a / den).log2 + 1) (by omega)
  have ha : a < den * 2 ^ ((a / den).log2 + 1) := by
    rw [mul_comm]
    exact (Nat.div_lt_iff_lt_mul hd).mp Nat.lt_log2_self
  have hs := spacing_pos (a / den)
  rw [ofUnits, ht]
  refine Nat.mul_le_mul_left _ ((roundHalfEven_le_iff (by positivity)).mpr (.inl ?_))
  rw [ht] at ha
  nlinarith

theorem pow_le_ofUnits (hd : 0 < den) (hq : a / den ≠ 0) :
    2 ^ (a / den).log2 ≤ ofUnits a den := by
  obtain ⟨t, ht⟩ := spacing_dvd_pow (u := a / den) (e := (a / den).log2) (by omega)
  have ha : den * 2 ^ (a / den).log2 ≤ a :=
    (Nat.mul_le_mul_left den (Nat.log2_self_le hq)).trans (Nat.mul_div_le a den)
  have hs := spacing_pos (a / den)
  rw [ofUnits, ht]
  refine Nat.mul_le_mul_left _ (le_roundHalfEven ?_ (by positivity))
  rw [ht] at ha
  linarith

theorem isMagnitude_ofUnits (a : Nat) (hd : 0 < den) : IsMagnitude (ofUnits a den) := by
  rcases (ofUnits_le_pow (a := a) hd).eq_or_lt with he | hlt
  · rw [he]
    exact spacing_dvd_pow (by rw [Nat.log2_two_pow]; omega)
  · have hl : (ofUnits a den).log2 ≤ (a / den).log2 := by
      by_cases hz : ofUnits a den = 0
      · simp [hz]
      · have := (Nat.log2_lt hz).mpr hlt
        omega
    exact (spacing_dvd_pow (by omega)).trans (Dvd.intro _ rfl)

/-- A number of units up to the middle between a magnitude and the next one; the middle itself
counts if the magnitude is even. -/
def Reaches (w : Nat) (v : ℚ) : Prop :=
  v < w + spacing w / 2 ∨ v = w + spacing w / 2 ∧ w / spacing w % 2 = 0

theorem Reaches.mono (h : Reaches w v') (hv : v ≤ v') : Reaches w v := by
  rcases h with hlt | ⟨rfl, he⟩
  · exact .inl (hv.trans_lt hlt)
  · exact hv.lt_or_eq.imp_right fun h => ⟨h, he⟩

-- Between two neighbouring powers of two one rounding decides, otherwise the powers decide.
theorem ofUnits_le_iff (hd : 0 < den) (hw : IsMagnitude w) :
    ofUnits a den ≤ w ↔ Reaches w (a / den : ℚ) := by
  have hdq : (0 : ℚ) < den := by exact_mod_cast hd
  have hs : (0 : ℚ) < spacing w := by exact_mod_cast spacing_pos w
  rcases Nat.lt_trichotomy (a / den).log2 w.log2 with hlt | heq | hgt
  · have hw0 : w ≠ 0 := by rintro rfl; simp at hlt
    have hpow : 2 ^ ((a / den).log2 + 1) ≤ w :=
      (Nat.pow_le_pow_right (by norm_num) hlt).trans (Nat.log2_self_le hw0)
    have ha : a < w * den :=
      (Nat.div_lt_iff_lt_mul hd).mp (Nat.lt_log2_self.trans_le hpow)
    have hv : (a / den : ℚ) < w := (div_lt_iff₀ hdq).mpr (by exact_mod_cast ha)
    exact iff_of_true ((ofUnits_le_pow hd).trans hpow) (.inl (by linarith))
  · have hsame : spacing (a / den) = spacing w := by rw [spacing_eq, spacing_eq, heq]
    have hpos := spacing_pos w
    rw [ofUnits, hsame, Reaches]
    obtain ⟨k, hk⟩ := hw
    generalize spacing w = s at hk hs hpos
    subst hk
    rw [Nat.mul_le_mul_left_iff hpos, roundHalfEven_le_iff (by positivity),
      Nat.mul_div_cancel_left k hpos]
    have hmiddle : ((s * k : Nat) + s / 2 : ℚ) * (2 * den) = (2 * k + 1) * (den * s) := by
      push_cast
      ring
    have hv : (a / den : ℚ) * (2 * den) = 2 * a := by
      field_simp
    refine or_congr ?_ (and_congr_left' ?_)
    · rw [← mul_lt_mul_iff_left₀ (show (0 : ℚ) < 2 * den by positivity), hmiddle, hv]
      norm_cast
    · rw [← mul_left_inj' (show (2 * den : ℚ) ≠ 0 by positivity), hmiddle, hv]
      norm_cast
  · have hq : a / den ≠ 0 := by
      intro hz
      simp [hz] at hgt
    have hpow : 2 ^ (w.log2 + 1) ≤ 2 ^ (a / den).log2 := Nat.pow_le_pow_right (by norm_num) hgt
    have hv : (w + spacing w : ℚ) ≤ a / den := by
      have hn : w + spacing w ≤ a / den :=
        (add_spacing_le hw).trans (hpow.trans (Nat.log2_self_le hq))
      exact le_trans (by exact_mod_cast hn) Nat.cast_div_le
    refine iff_of_false (not_le.mpr ?_) ?_
    · exact (Nat.lt_log2_self.trans_le hpow).trans_le (pow_le_ofUnits hd hq)
    · rintro (h | ⟨h, -⟩) <;> linarith

theorem isMagnitude_nearest (num : Nat) (hd : 0 < den) : IsMagnitude (nearest num den) := by
  rw [nearest_eq]
  exact isMagnitude_ofUnits _ hd

theorem nearest_le_iff (hd : 0 < den) (hw : IsMagnitude w) :
    nearest num den ≤ w ↔ Reaches w (num / den * 2 ^ unitBits : ℚ) := by
  rw [nearest_eq, ofUnits_le_iff hd hw]
  push_cast
  rw [div_mul_eq_mul_div]

theorem nearest_mono (hd : 0 < den) (hd' : 0 < den') (h : (num / den : ℚ) ≤ num' / den') :
    nearest num den ≤ nearest num' den' := by
  have hw := isMagnitude_nearest num' hd'
  have hr := (nearest_le_iff hd' hw).mp le_rfl
  exact (nearest_le_iff hd hw).mpr (hr.mono (by gcongr))

theorem nearest_congr (hd : 0 < den) (hd' : 0 < den') (h : (num / den : ℚ) = num' / den') :
    nearest num den = nearest num' den' :=
  le_antisymm (nearest_mono hd hd' h.le) (nearest_mono hd' hd h.ge)

theorem nearest_eq_of_eq (hd : 0 < den) (hu : IsMagnitude u)
    (h : (num / den * 2 ^ unitBits : ℚ) = u) : nearest num den = u := by
  have hle : nearest num den ≤ u := by
    have hs : (0 : ℚ) < spacing u := by exact_mod_cast spacing_pos u
    exact (nearest_le_iff hd hu).mpr (.inl (by rw [h]; linarith))
  refine hle.antisymm (not_lt.mp fun hlt => ?_)
  have hn := isMagnitude_nearest num hd
  have hs : (0 : ℚ) < spacing (nearest num den) := by exact_mod_cast spacing_pos _
  have hnext : (nearest num den + spacing (nearest num den) : ℚ) ≤ u := by
    exact_mod_cast add_spacing_le_of_lt hn hu hlt
  have hr := (nearest_le_iff hd hn).mp le_rfl
  rw [h] at hr
  rcases hr with hr | ⟨hr, -⟩ <;> linarith

theorem nearest_eq_zero_iff (hd : 0 < den) :
    nearest num den = 0 ↔ (num / den : ℚ) ≤ 1 / 2 ^ (unitBits + 1) := by
  have hr : ∀ v : ℚ, Reaches 0 v ↔ v ≤ 1 / 2 := by
    intro v
    have hs : spacing 0 = 1 := by simp [spacing_eq]
    rw [Reaches, hs, le_iff_lt_or_eq]
    norm_num
  rw [← Nat.le_zero, nearest_le_iff hd (dvd_zero _), hr, pow_succ, le_div_iff₀ (by positivity),
    le_div_iff₀ (by positivity), mul_assoc]

-- The largest magnitude below a power of two is half a spacing away from the numbers that are
-- rounded to the power itself: it is odd, so the middle goes up.
theorem ofUnits_lt_pow_iff (hd : 0 < den) (t : Nat) :
    ofUnits a den < 2 ^ (t + 54) ↔ (a / den : ℚ) < 2 ^ (t + 54) - 2 ^ t := by
  have hsplit : 2 ^ (t + 54) = 2 ^ (t + 1) * (2 ^ 53 - 1) + 2 ^ (t + 1) := by
    rw [show t + 54 = (t + 1) + 53 by ring, pow_add]
    ring
  generalize hg : 2 ^ (t + 1) * (2 ^ 53 - 1) = largest at hsplit
  have hpos : 0 < 2 ^ (t + 1) := by positivity
  have hlog : largest.log2 = t + 53 := by
    have hle : 2 ^ (t + 53) ≤ largest := by
      rw [show t + 53 = (t + 1) + 52 by ring, pow_add, ← hg]
      exact Nat.mul_le_mul_left _ (by norm_num)
    have hlt : largest < 2 ^ (t + 54) := hsplit ▸ Nat.lt_add_of_pos_right hpos
    exact (Nat.log2_eq_iff (Nat.ne_of_gt (lt_of_lt_of_le (by positivity) hle))).mpr ⟨hle, hlt⟩
  have hs : spacing largest = 2 ^ (t + 1) := by
    rw [spacing_eq, hlog, show t + 53 - 52 = t + 1 by omega]
  have hm : IsMagnitude largest := by
    rw [IsMagnitude, hs, ← hg]
    exact Nat.dvd_mul_right _ _
  have hodd : largest / spacing largest % 2 = 1 := by
    rw [hs, ← hg, Nat.mul_div_cancel_left _ hpos]
    norm_num
  have hlt : ofUnits a den < 2 ^ (t + 54) ↔ ofUnits a den ≤ largest := by
    refine ⟨fun h => not_lt.mp fun hgt => ?_, fun h => by omega⟩
    have := add_spacing_le_of_lt hm (isMagnitude_ofUnits a hd) hgt
    omega
  have hmiddle : (largest + (2 ^ (t + 1) : Nat) / 2 : ℚ) = 2 ^ (t + 54) - 2 ^ t := by
    have hc : (2 : ℚ) ^ (t + 54) = largest + 2 ^ (t + 1) := by exact_mod_cast hsplit
    rw [hc]
    push_cast
    ring
  rw [hlt, ofUnits_le_iff hd hm, Reaches, hodd, hs, hmiddle]
  simp

theorem nearest_lt_pow_iff (hd : 0 < den) (t : Nat) :
    nearest num den < 2 ^ (t + 54 + unitBits) ↔ (num / den : ℚ) < 2 ^ (t + 54) - 2 ^ t := by
  have hu : (0 : ℚ) < 2 ^ unitBits := by positivity
  have hscaled : (num / den * 2 ^ unitBits : ℚ) < (2 ^ (t + 54) - 2 ^ t) * 2 ^ unitBits ↔
      (num / den : ℚ) < 2 ^ (t + 54) - 2 ^ t := mul_lt_mul_iff_left₀ hu
  rw [nearest_eq, Nat.add_right_comm, ofUnits_lt_pow_iff hd, ← hscaled, sub_mul, ← pow_add,
    ← pow_add, Nat.add_right_comm t 54]
  push_cast
  rw [div_mul_eq_mul_div]

theorem bound_eq {e : Nat} (h : 1024 + unitBits = e) : bound = 2 ^ e := by
  unfold bound
  rw [h]
  rfl

theorem nearest_lt_bound_iff (hd : 0 < den) :
    nearest num den < bound ↔ (num / den : ℚ) < 2 ^ 1024 - 2 ^ 970 := by
  rw [bound_eq (e := 970 + 54 + unitBits) rfl]
  exact nearest_lt_pow_iff hd 970

theorem lt_pow_length_toDigits (c : Nat) : c < 10 ^ (Nat.toDigits 10 c).length :=
  (Nat.length_toDigits_le_iff (by norm_num) Nat.length_toDigits_pos).mp le_rfl

theorem pow_length_toDigits_le {c : Nat} (hc : c ≠ 0) :
    10 ^ ((Nat.toDigits 10 c).length - 1) ≤ c := by
  by_cases hl : (Nat.toDigits 10 c).length - 1 = 0
  · rw [hl]
    omega
  · refine not_lt.mp fun hlt => ?_
    have hle := (Nat.length_toDigits_le_iff (by norm_num) (Nat.pos_of_ne_zero hl)).mpr hlt
    omega

section Decimal

variable {c : Nat} {e : Int}

theorem lt_zpow_digits (c : Nat) (e : Int) :
    (c * 10 ^ e : ℚ) < 10 ^ ((Nat.toDigits 10 c).length + e) := by
  have hc : (c : ℚ) < 10 ^ (Nat.toDigits 10 c).length := by
    exact_mod_cast lt_pow_length_toDigits c
  rw [zpow_add₀ (by norm_num), zpow_natCast]
  gcongr

theorem zpow_digits_le (hc : c ≠ 0) (e : Int) :
    (10 ^ ((Nat.toDigits 10 c).length - 1 + e) : ℚ) ≤ c * 10 ^ e := by
  have hl : ((Nat.toDigits 10 c).length - 1 : Int) = ((Nat.toDigits 10 c).length - 1 : Nat) := by
    have := Nat.length_toDigits_pos (b := 10) (n := c)
    omega
  have hle : (10 ^ ((Nat.toDigits 10 c).length - 1) : ℚ) ≤ c := by
    exact_mod_cast pow_length_toDigits_le hc
  rw [zpow_add₀ (by norm_num), hl, zpow_natCast]
  gcongr

theorem nearest_of_small (hd : 0 < den) (h : (num / den : ℚ) = c * 10 ^ e)
    (he : c = 0 ∨ (Nat.toDigits 10 c).length + e < -324) : nearest num den = 0 := by
  rw [nearest_eq_zero_iff hd, h]
  rcases he with rfl | he
  · simp
  · have hp : (2 : ℚ) ^ (unitBits + 1) ≤ 10 ^ 325 := by
      calc (2 : ℚ) ^ (unitBits + 1) = (2 ^ 43) ^ 25 := by rw [← pow_mul]; rfl
        _ ≤ (10 ^ 13) ^ 25 := pow_le_pow_left₀ (by norm_num) (by norm_num) 25
        _ = 10 ^ 325 := by rw [← pow_mul]
    calc (c * 10 ^ e : ℚ) ≤ 10 ^ ((Nat.toDigits 10 c).length + e) := (lt_zpow_digits c e).le
      _ ≤ 10 ^ (-(325 : Nat) : Int) := zpow_le_zpow_right₀ (by norm_num) (by omega)
      _ = 1 / 10 ^ 325 := by rw [zpow_neg, zpow_natCast, one_div]
      _ ≤ 1 / 2 ^ (unitBits + 1) := one_div_le_one_div_of_le (by positivity) hp

theorem bound_le_nearest_of_large (hd : 0 < den) (h : (num / den : ℚ) = c * 10 ^ e) (hc : c ≠ 0)
    (he : 310 < (Nat.toDigits 10 c).length + e) : bound ≤ nearest num den := by
  have hp : (2 : ℚ) ^ 1024 ≤ 10 ^ 310 := by
    calc (2 : ℚ) ^ 1024 ≤ (2 ^ 205) ^ 5 := by
          rw [← pow_mul]
          exact pow_le_pow_right₀ (by norm_num) (by norm_num)
      _ ≤ (10 ^ 62) ^ 5 := pow_le_pow_left₀ (by norm_num) (by norm_num) 5
      _ = 10 ^ 310 := by rw [← pow_mul]
  have hlarge : (2 : ℚ) ^ 1024 ≤ num / den := by
    calc (2 : ℚ) ^ 1024 ≤ 10 ^ 310 := hp
      _ = 10 ^ ((310 : Nat) : Int) := (zpow_natCast _ _).symm
      _ ≤ 10 ^ ((Nat.toDigits 10 c).length - 1 + e) :=
        zpow_le_zpow_right₀ (by norm_num) (by omega)
      _ ≤ num / den := h ▸ zpow_digits_le hc e
  have hs : (0 : ℚ) < 2 ^ 970 := by positivity
  refine not_lt.mp fun hlt => ?_
  exact (((nearest_lt_bound_iff hd).mp hlt).trans (sub_lt_self _ hs)).not_ge hlarge

/-- The bounds on the digits that are read only spare work: a decimal is rounded as the number that
it stands for. -/
theorem ofDecimal?_eq (hd : 0 < den) (h : (num / den : ℚ) = c * 10 ^ e) :
    ofDecimal? c e = finite? (nearest num den) := by
  have hb : 0 < bound := by
    rw [bound_eq rfl]
    positivity
  unfold ofDecimal?
  dsimp only
  split
  · rename_i hsmall
    rw [nearest_of_small hd h hsmall, finite?, if_pos hb]
  · rename_i hsmall
    split
    · rename_i hlarge
      have hc : c ≠ 0 := fun hc => hsmall (.inl hc)
      rw [finite?, if_neg (not_lt.mpr (bound_le_nearest_of_large hd h hc hlarge))]
    · split
      · rename_i he
        obtain ⟨k, rfl⟩ := Int.eq_ofNat_of_zero_le he
        refine congrArg finite? (nearest_congr (by norm_num) hd ?_)
        rw [h]
        simp
      · rename_i he
        obtain ⟨k, rfl⟩ : ∃ k : Nat, e = -k := ⟨(-e).toNat, by omega⟩
        refine congrArg finite? (nearest_congr (Nat.pow_pos (by norm_num)) hd ?_)
        rw [h, zpow_neg, zpow_natCast]
        simp [div_eq_mul_inv]

end Decimal

end EnvTemplate.Number.Binary64
