import EnvTemplate.Number.Shortest
import EnvTemplate.Proofs.Rounding
import Mathlib.Data.Nat.Dist

/-! The decimal that is written for a magnitude: of those that are rounded to it, one of fewest
digits, and of these the nearest. -/

namespace EnvTemplate.Number.Shortest

open Binary64

variable {u x y z d g k : Nat}

def HasDigits (d x : Nat) : Prop := ∃ m k, m < 10 ^ d ∧ x = m * 10 ^ k

def Beats (u x y : Nat) : Prop :=
  Nat.dist x (expansion u) < Nat.dist y (expansion u) ∨
    Nat.dist x (expansion u) = Nat.dist y (expansion u) ∧ y ≤ x

/-- A decimal that reads back as a magnitude and has as few digits as any that does; no other one
that has as few is nearer. -/
structure IsShortest (u x : Nat) : Prop where
  readsBack : readsBack u x
  fewest : ∀ y d, Shortest.readsBack u y → HasDigits d y → HasDigits d x
  nearest : ∀ y, Shortest.readsBack u y → (∀ d, HasDigits d x → HasDigits d y) → Beats u x y

theorem HasDigits.mono (h : HasDigits d x) {e : Nat} (hd : d ≤ e) : HasDigits e x := by
  obtain ⟨m, k, hm, rfl⟩ := h
  exact ⟨m, k, hm.trans_le (Nat.pow_le_pow_right (by norm_num) hd), rfl⟩

theorem Beats.trans (hxy : Beats u x y) (hyz : Beats u y z) : Beats u x z := by
  unfold Beats at *
  omega

theorem IsShortest.unique (hx : IsShortest u x) (hy : IsShortest u y) : x = y := by
  have hxy := hx.nearest y hy.readsBack fun d => hy.fewest x d hx.readsBack
  have hyx := hy.nearest x hx.readsBack fun d => hx.fewest y d hy.readsBack
  unfold Beats at *
  omega

theorem readsBack_iff : readsBack u x ↔ nearest x (10 ^ places) = u := by
  simp only [readsBack, decide_eq_true_eq, Nat.pow_eq]

theorem readsBack_of_between (hx : readsBack u x) (hy : readsBack u y) (hxz : x ≤ z)
    (hzy : z ≤ y) : readsBack u z := by
  have hp : 0 < 10 ^ places := by positivity
  rw [readsBack_iff] at hx hy ⊢
  refine le_antisymm ?_ ?_
  · rw [← hy]
    exact nearest_mono hp hp (by gcongr)
  · rw [← hx]
    exact nearest_mono hp hp (by gcongr)

theorem expansion_eq (u : Nat) : expansion u = u * 5 ^ places := by
  simp only [expansion, Nat.pow_eq]

theorem readsBack_expansion (hu : IsMagnitude u) : readsBack u (expansion u) := by
  have hten : (10 : ℚ) ^ places = 5 ^ places * 2 ^ unitBits := by
    have hf : (10 : ℚ) = 5 * 2 := by norm_num
    rw [places, hf, mul_pow]
  have hp : (5 : ℚ) ^ places ≠ 0 := by positivity
  rw [readsBack_iff, expansion_eq]
  refine nearest_eq_of_eq (by positivity) hu ?_
  push_cast
  rw [hten]
  field_simp

theorem not_readsBack_zero (hu : u ≠ 0) : ¬readsBack u 0 := by
  have hz : nearest 0 (10 ^ places) = 0 :=
    nearest_eq_of_eq (by positivity) (dvd_zero _) (by rw [Nat.cast_zero, zero_div, zero_mul])
  rw [readsBack_iff, hz]
  exact hu.symm

/-- If a multiple of the grid reads back as `e` does, so does the one next to `e` on its side. -/
theorem readsBack_neighbour {e : Nat} (he : readsBack u e) (hg : 0 < g) (hd : g ∣ y)
    (hy : readsBack u y) :
    (y ≤ e / g * g ∧ readsBack u (e / g * g)) ∨
      (e / g * g + g ≤ y ∧ readsBack u (e / g * g + g)) := by
  have hbelow : e / g * g ≤ e := Nat.div_mul_le_self e g
  have habove : e < e / g * g + g := Nat.lt_div_mul_add hg
  obtain ⟨m, rfl⟩ := hd
  rcases Nat.lt_or_ge e (g * m) with hlt | hge
  · have hm : e / g < m := (Nat.div_lt_iff_lt_mul hg).mpr (by rwa [Nat.mul_comm])
    have hle : e / g * g + g ≤ g * m := by
      calc e / g * g + g = g * (e / g + 1) := by ring
        _ ≤ g * m := Nat.mul_le_mul_left g hm
    exact .inr ⟨hle, readsBack_of_between he hy habove.le hle⟩
  · have hm : m ≤ e / g := (Nat.le_div_iff_mul_le hg).mpr (by rwa [Nat.mul_comm])
    have hle : g * m ≤ e / g * g := by
      calc g * m = m * g := Nat.mul_comm g m
        _ ≤ e / g * g := Nat.mul_le_mul_right g hm
    exact .inl ⟨hle, readsBack_of_between hy he hle hbelow⟩

theorem nearer?_cases {e below above : Nat} {p q : Bool} (h : nearer? e below above p q = some x) :
    (x = below ∧ p ∧ (q → e - below < above - e)) ∨
      (x = above ∧ q ∧ (p → above - e ≤ e - below)) := by
  cases p <;> cases q <;> simp only [nearer?, reduceCtorEq, Option.some.injEq] at h
  · exact .inr ⟨h.symm, rfl, nofun⟩
  · exact .inl ⟨h.symm, rfl, nofun⟩
  · split at h
    · exact .inl ⟨h.symm, rfl, fun _ => by assumption⟩
    · exact .inr ⟨h.symm, rfl, fun _ => by omega⟩

theorem nearer?_eq_none_iff {e below above : Nat} {p q : Bool} :
    nearer? e below above p q = none ↔ p = false ∧ q = false := by
  cases p <;> cases q <;> simp [nearer?]

/-- What a grid offers: of its multiples that read back, the one that beats the others. -/
structure Offers (u g x : Nat) : Prop where
  dvd : g ∣ x
  readsBack : readsBack u x
  le : x ≤ expansion u / g * g + g
  beats : ∀ y, g ∣ y → Shortest.readsBack u y → Beats u x y

theorem offers_of_onGrid? (hu : IsMagnitude u) (hg : 0 < g) (h : onGrid? u g = some x) :
    Offers u g x := by
  have hbelow : expansion u / g * g ≤ expansion u := Nat.div_mul_le_self _ g
  have habove : expansion u < expansion u / g * g + g := Nat.lt_div_mul_add hg
  have hside := fun y => readsBack_neighbour (y := y) (readsBack_expansion hu) hg
  have hd : g ∣ expansion u / g * g := Nat.dvd_mul_left _ _
  unfold onGrid? at h
  rcases nearer?_cases h with ⟨rfl, hr, hnear⟩ | ⟨rfl, hr, hnear⟩
  · refine ⟨hd, hr, by omega, fun y hy hry => ?_⟩
    rcases hside y hy hry with ⟨hle, -⟩ | ⟨hle, ha⟩
    · unfold Beats Nat.dist
      omega
    · have := hnear ha
      unfold Beats Nat.dist
      omega
  · refine ⟨Nat.dvd_add hd (Nat.dvd_refl g), hr, le_rfl, fun y hy hry => ?_⟩
    rcases hside y hy hry with ⟨hle, hb⟩ | ⟨hle, -⟩
    · have := hnear hb
      unfold Beats Nat.dist
      omega
    · unfold Beats Nat.dist
      omega

theorem not_readsBack_of_onGrid? (hu : IsMagnitude u) (hg : 0 < g) (h : onGrid? u g = none)
    (hy : g ∣ y) : ¬readsBack u y := by
  intro hr
  unfold onGrid? at h
  obtain ⟨hb, ha⟩ := nearer?_eq_none_iff.mp h
  rcases readsBack_neighbour (readsBack_expansion hu) hg hy hr with ⟨-, hr'⟩ | ⟨-, hr'⟩
  · simp [hb] at hr'
  · simp [ha] at hr'

theorem onGrid?_one (hu : IsMagnitude u) : onGrid? u (10 ^ 0) = some (expansion u) := by
  have he := readsBack_expansion hu
  cases hg : onGrid? u (10 ^ 0) with
  | none => exact absurd he (not_readsBack_of_onGrid? hu (by norm_num) hg (one_dvd _))
  | some x =>
    have hb := (offers_of_onGrid? hu (by norm_num) hg).beats (expansion u) (one_dvd _) he
    have hx : x = expansion u := by
      unfold Beats at hb
      rw [Nat.dist_self] at hb
      exact Nat.eq_of_dist_eq_zero (by omega)
    rw [hx]

/-- The search ends on a grid that offers its result, and no coarser one offers anything. -/
theorem exists_search (hu : IsMagnitude u) (k : Nat) :
    ∃ j ≤ k, onGrid? u (10 ^ j) = some (search u k) ∧
      ∀ i, j < i → i ≤ k → onGrid? u (10 ^ i) = none := by
  induction k with
  | zero => exact ⟨0, le_rfl, onGrid?_one hu, fun i hi hk => by omega⟩
  | succ k ih =>
    have hs : search u (k + 1) = (onGrid? u (10 ^ (k + 1))).getD (search u k) := by
      rw [search, Nat.pow_eq]
    rw [hs]
    cases hg : onGrid? u (10 ^ (k + 1)) with
    | some x => exact ⟨k + 1, le_rfl, hg, fun i hi hk => by omega⟩
    | none =>
      obtain ⟨j, hj, hsome, hnone⟩ := ih
      refine ⟨j, hj.trans (Nat.le_succ k), hsome, fun i hi hk => ?_⟩
      rcases hk.eq_or_lt with rfl | hlt
      · exact hg
      · exact hnone i hi (Nat.le_of_lt_succ hlt)

theorem exists_on_grid {k : Nat} (hu : IsMagnitude u) (hlow : 10 ^ k ≤ expansion u)
    (hhigh : expansion u < 10 ^ (k + 1)) (hd : 0 < d) (hdk : d ≤ k + 1) (hy : readsBack u y)
    (hdy : HasDigits d y) : ∃ z, 10 ^ (k + 1 - d) ∣ z ∧ readsBack u z ∧ Beats u z y := by
  have he := readsBack_expansion hu
  -- with as many digits as the expansion `y` is on the grid, else a power of ten between them is
  rcases Nat.lt_or_ge y (10 ^ k) with hlt | hge
  · refine ⟨10 ^ k, pow_dvd_pow 10 (by omega), readsBack_of_between hy he hlt.le hlow, ?_⟩
    unfold Beats Nat.dist
    omega
  · rcases Nat.lt_or_ge y (10 ^ (k + 1)) with hlt' | hge'
    · obtain ⟨m, j, hm, rfl⟩ := hdy
      have hj : k < d + j := by
        have hpow : 10 ^ k < 10 ^ (d + j) := by
          calc 10 ^ k ≤ m * 10 ^ j := hge
            _ < 10 ^ d * 10 ^ j := by gcongr
            _ = 10 ^ (d + j) := (pow_add 10 d j).symm
        exact (Nat.pow_lt_pow_iff_right (by norm_num)).mp hpow
      refine ⟨m * 10 ^ j, (pow_dvd_pow 10 (by omega)).trans (Nat.dvd_mul_left _ _), hy, ?_⟩
      exact .inr ⟨rfl, le_rfl⟩
    · refine ⟨10 ^ (k + 1), pow_dvd_pow 10 (by omega),
        readsBack_of_between he hy hhigh.le hge', ?_⟩
      unfold Beats Nat.dist
      omega

/-- What a grid offers has no more digits than the grid leaves below the next power of ten, which
is offered itself at most. -/
theorem Offers.hasDigits {j k : Nat} (h : Offers u (10 ^ j) x) (hhigh : expansion u < 10 ^ (k + 1))
    (hj : j ≤ k) : HasDigits (k + 1 - j) x := by
  obtain ⟨t, rfl⟩ := h.dvd
  have habove := h.le
  generalize expansion u = e at habove hhigh
  have hsplit : 10 ^ (k + 1) = 10 ^ (k + 1 - j) * 10 ^ j := by
    rw [← pow_add, Nat.sub_add_cancel (by omega)]
  have hpos : 0 < 10 ^ j := by positivity
  have hdiv : e / 10 ^ j < 10 ^ (k + 1 - j) :=
    (Nat.div_lt_iff_lt_mul hpos).mpr (hsplit ▸ hhigh)
  have hle : t ≤ 10 ^ (k + 1 - j) := by
    refine Nat.le_of_mul_le_mul_left (habove.trans ?_) hpos
    calc e / 10 ^ j * 10 ^ j + 10 ^ j = 10 ^ j * (e / 10 ^ j + 1) := by ring
      _ ≤ 10 ^ j * 10 ^ (k + 1 - j) := Nat.mul_le_mul_left _ hdiv
  rcases hle.lt_or_eq with hlt | rfl
  · exact ⟨t, j, hlt, Nat.mul_comm _ _⟩
  · exact ⟨1, k + 1, Nat.one_lt_pow (by omega) (by norm_num), by rw [hsplit, one_mul, Nat.mul_comm]⟩

theorem isShortest_of_zero {j : Nat} (h : Offers 0 (10 ^ j) x) : IsShortest 0 x := by
  have hz : expansion 0 = 0 := by rw [expansion_eq, Nat.zero_mul]
  have hread := readsBack_expansion (u := 0) (dvd_zero _)
  rw [hz] at hread
  have hx : x = 0 := by
    have hb := h.beats 0 (dvd_zero _) hread
    unfold Beats at hb
    rw [hz, Nat.dist_self] at hb
    exact Nat.eq_of_dist_eq_zero (by omega)
  subst hx
  refine ⟨hread, fun y d hy hd => ⟨0, 0, by positivity, rfl⟩, fun y hy hd => ?_⟩
  rw [Beats, hz, Nat.dist_self, Nat.dist_zero_right]
  exact (Nat.eq_zero_or_pos y).symm.imp_right fun hy0 => ⟨hy0.symm, hy0.le⟩

theorem isShortest_digits (hu : IsMagnitude u) : IsShortest u (digits u) := by
  obtain ⟨j, hj, hsome, hnone⟩ := exists_search hu ((Nat.toDigits 10 (expansion u)).length - 1)
  have hoff := offers_of_onGrid? hu (by positivity) hsome
  rw [digits]
  generalize search u ((Nat.toDigits 10 (expansion u)).length - 1) = x at hoff
  by_cases hu0 : u = 0
  · subst hu0
    exact isShortest_of_zero hoff
  · have he0 : expansion u ≠ 0 := by
      rw [expansion_eq]
      positivity
    have hlow := pow_length_toDigits_le he0
    have hhigh := lt_pow_length_toDigits (expansion u)
    rw [← Nat.sub_add_cancel (Nat.length_toDigits_pos (b := 10) (n := expansion u))] at hhigh
    generalize (Nat.toDigits 10 (expansion u)).length - 1 = k at hj hnone hlow hhigh
    have hdx := hoff.hasDigits hhigh hj
    refine ⟨hoff.readsBack, fun y d hy hd => ?_, fun y hy hd => ?_⟩
    · rcases Nat.lt_or_ge d (k + 1 - j) with hlt | hge
      · -- fewer digits would have been found on a coarser grid
        have hd0 : 0 < d := by
          refine Nat.pos_of_ne_zero fun h0 => ?_
          obtain ⟨m, i, hm, rfl⟩ := hd
          obtain rfl : m = 0 := by simpa [h0] using hm
          exact not_readsBack_zero hu0 (by simpa using hy)
        obtain ⟨z, hz, hrz, -⟩ := exists_on_grid hu hlow hhigh hd0 (by omega) hy hd
        exact absurd hrz
          (not_readsBack_of_onGrid? hu (by positivity) (hnone _ (by omega) (by omega)) hz)
      · exact hdx.mono hge
    · obtain ⟨z, hz, hrz, hbeats⟩ :=
        exists_on_grid hu hlow hhigh (by omega) (by omega) hy (hd _ hdx)
      rw [Nat.sub_sub_self (by omega)] at hz
      exact (hoff.beats z hz hrz).trans hbeats

theorem digits_ne_zero (hu : IsMagnitude u) (h : u ≠ 0) : digits u ≠ 0 := fun hd =>
  not_readsBack_zero h (hd ▸ (isShortest_digits hu).readsBack)

theorem digits_eq_iff (hu : IsMagnitude u) : digits u = x ↔ IsShortest u x :=
  ⟨fun h => h ▸ isShortest_digits hu, fun h => (isShortest_digits hu).unique h⟩

end EnvTemplate.Number.Shortest
