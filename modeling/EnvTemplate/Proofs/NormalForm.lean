import EnvTemplate.Proofs.NumberRange
import EnvTemplate.Proofs.NumberText
import EnvTemplate.Validator.Registry

/-! Which integers the normal form of a number keeps, and which results of a validator it gives
again when it is called on them. -/

namespace EnvTemplate

namespace Number

open Binary64 Shortest

variable {l : Literal} {s t : List Char} {negative : Bool} {num den : Nat} {value result : String}

theorem Literal.normal?_of_not_word (hw : ¬(l.isInteger && fitsWord l.toInt)) (hd : 0 < den)
    (hv : (num / den : ℚ) = |l.toRat|) :
    l.normal? = (finite? (nearest num den)).map fun u => signedText l.negative (text u) := by
  rw [abs_toRat] at hv
  rw [normal?, if_neg hw, ofDecimal?_eq hd hv]
  rfl

theorem signedText_inj : signedText negative s = signedText negative t ↔ s = t := by
  rw [← String.toList_inj, toList_signedText, toList_signedText, List.append_cancel_left_eq]

theorem eq_signedText_of_finite? {u : Nat}
    (h : (finite? u).map (fun u => signedText negative (text u)) = some result) :
    u < bound ∧ result = signedText negative (text u) := by
  unfold finite? at h
  split at h
  · exact ⟨by assumption, (Option.some.inj h).symm⟩
  · cases h

theorem Literal.fitsWord_of_abs_le (hi : l.isInteger) (h : |l.toRat| ≤ 1 / 2 ^ 1075) :
    fitsWord l.toInt := by
  rw [toRat_of_isInteger hi] at h
  have hlt : (|l.toInt| : ℚ) < 1 :=
    h.trans_lt ((div_lt_one (by positivity)).mpr (one_lt_pow₀ (by norm_num) (by norm_num)))
  have hz : l.toInt = 0 := Int.abs_lt_one_iff.mp (by exact_mod_cast hlt)
  rw [hz]
  decide

/-- A normal form is the normal form of itself, but for the zero of a negative literal that is no
integer: it keeps its sign, which an integer does not. -/
theorem normal?_again_iff (h : normal? value = some result) :
    normal? result = some result ↔ ¬∃ l : Literal, l.Written value.toList ∧ l.negative ∧
      ¬l.isInteger ∧ |l.toRat| ≤ 1 / 2 ^ 1075 := by
  obtain ⟨l, hw, h⟩ := normal?_eq_some_iff.mp h
  rw [hw.exists_iff]
  by_cases hi : l.isInteger && fitsWord l.toInt
  · rw [Literal.normal?, if_pos hi] at h
    obtain rfl := Option.some.inj h
    obtain ⟨hi, hf⟩ := Bool.and_eq_true_iff.mp hi
    exact iff_of_true (normal?_toString_signed hf) fun hc => hc.2.1 hi
  · obtain ⟨num, den, hd, hv⟩ := exists_ratio l.coefficient l.scale
    rw [← Literal.abs_toRat] at hv
    have hz : nearest num den = 0 ↔ |l.toRat| ≤ 1 / 2 ^ 1075 := by
      rw [nearest_eq_zero_iff hd, hv]
      rfl
    rw [l.normal?_of_not_word hi hd hv] at h
    obtain ⟨hb, rfl⟩ := eq_signedText_of_finite? h
    rw [normal?_signedText_iff (isMagnitude_nearest num hd) hb, hz]
    -- an integer that is rounded to zero is zero, and so one of a word
    have hint : |l.toRat| ≤ 1 / 2 ^ 1075 → ¬l.isInteger := fun hle h =>
      hi (Bool.and_eq_true_iff.mpr ⟨h, l.fitsWord_of_abs_le h hle⟩)
    exact not_congr (and_congr_right fun _ => (and_iff_right_of_imp hint).symm)

theorem fitsWord_zero (negative : Bool) : fitsWord (signed negative 0) := by
  cases negative <;> decide

theorem Literal.normal?_eq_toString_iff (hi : l.isInteger) (h : l.normal? = some result) :
    result = toString l.toInt ↔ fitsWord l.toInt ∨
      IsShortest (nearest (Nat.ofDigitChars 10 l.whole 0) 1)
        (Nat.ofDigitChars 10 l.whole 0 * 10 ^ places) := by
  by_cases hf : fitsWord l.toInt
  · rw [normal?, hi, hf] at h
    exact iff_of_true (Option.some.inj h).symm (.inl hf)
  · have hw : ¬(l.isInteger && fitsWord l.toInt) := by
      rw [hi]
      exact hf
    have hv := toRat_of_isInteger hi
    rw [or_iff_right hf]
    rw [toInt_eq] at hf hv ⊢
    generalize Nat.ofDigitChars 10 l.whole 0 = m at hf hv ⊢
    have hr : (m / (1 : Nat) : ℚ) = |l.toRat| := by
      rw [hv]
      cases l.negative <;> simp [signed]
    have hm : m ≠ 0 := by
      rintro rfl
      exact hf (fitsWord_zero l.negative)
    have hminus : (l.negative && m ≠ 0) = l.negative := by simp [hm]
    rw [l.normal?_of_not_word hw Nat.one_pos hr] at h
    obtain ⟨-, rfl⟩ := eq_signedText_of_finite? h
    rw [toString_signed, hminus, signedText_inj, text, fixedPoint_eq_toDigits_iff,
      digits_eq_iff (isMagnitude_nearest m Nat.one_pos)]

end Number

open Number Number.Binary64 Number.Shortest

namespace Standard

variable {validator : Standard} {args : List String} {value result : String}
  {sign digits : List Char} {negative : Bool}

/-- An integer keeps its value if it fits in a word of 64 bits. A longer one keeps it if no shorter
decimal, and none as short that is nearer, is rounded to the same binary number. -/
theorem number_keeps_integer_iff (hv : value.toList = sign ++ digits) (hs : IsSign negative sign)
    (hn : digits ≠ []) (hd : AllDigits digits) (h : number.apply args value = .ok result) :
    result = toString (signed negative (Nat.ofDigitChars 10 digits 0)) ↔
      fitsWord (signed negative (Nat.ofDigitChars 10 digits 0)) ∨
        IsShortest (nearest (Nat.ofDigitChars 10 digits 0) 1)
          (Nat.ofDigitChars 10 digits 0 * 10 ^ places) := by
  have hw := written_digits hs hn hd
  rw [← hv] at hw
  rw [number_eq_ok_iff, normal?_of_written hw] at h
  exact Literal.normal?_eq_toString_iff rfl h

theorem number_keeps_integer_of_word :
    "-042".toList = ['-'] ++ ['0', '4', '2'] ∧ IsSign true ['-'] ∧ AllDigits ['0', '4', '2'] ∧
      number.apply [] "-042" = .ok "-42" ∧
      "-42" = toString (signed true (Nat.ofDigitChars 10 ['0', '4', '2'] 0)) := by
  have hv : "-042".toList = ['-'] ++ ['0', '4', '2'] := by decide
  have hd : AllDigits ['0', '4', '2'] := by decide
  have h : number.apply [] "-042" = .ok "-42" := by decide +kernel
  exact ⟨hv, .minus, hd, h,
    (number_keeps_integer_iff hv .minus (List.cons_ne_nil _ _) hd h).mpr (.inl (by decide))⟩

/-- The first integer above a word has more digits than its binary number needs. -/
theorem number_changes_first_integer_above_word :
    AllDigits "9223372036854775808".toList ∧
      number.apply [] "9223372036854775808" = .ok "9223372036854776000" ∧
      toString (signed false (Nat.ofDigitChars 10 "9223372036854775808".toList 0)) =
        "9223372036854775808" := by
  decide +kernel

theorem apply_again (h : validator.apply args value = .ok result) (hn : validator ≠ .number) :
    validator.apply args result = .ok result := by
  rcases apply_ok_cases h with rfl | ⟨rfl, hv, hf⟩ | ⟨rfl, -⟩ | ⟨rfl, rfl | rfl⟩ | ⟨rfl, rfl⟩
  · exact h
  · -- an empty default stands for itself
    obtain ⟨later, rfl⟩ := List.head?_eq_some_iff.mp hf
    exact congrArg Except.ok (ite_self result)
  · exact absurd rfl hn
  · rfl
  · rfl
  · simp only [apply, String.toList_ofList, Text.trim_trim]

end Standard

namespace Validator

variable {name key value result : String} {args : List String} {validator : Standard}

theorem call_standard_eq_ok_iff :
    (standard validator).call name key value args = .ok result ↔
      validator.apply args value = .ok result := by
  refine ⟨apply_of_call_ok, fun h => ?_⟩
  rw [call, h]

/-- Called on its own result, a built-in validator gives it again; all but one always. -/
theorem call_again_iff (h : (standard validator).call name key value args = .ok result) :
    (standard validator).call name key result args = .ok result ↔
      ¬(validator = .number ∧ ∃ l : Literal, l.Written value.toList ∧ l.negative ∧
        ¬l.isInteger ∧ |l.toRat| ≤ 1 / 2 ^ 1075) := by
  rw [call_standard_eq_ok_iff] at h ⊢
  by_cases hn : validator = .number
  · subst hn
    rw [Standard.number_eq_ok_iff] at h ⊢
    rw [normal?_again_iff h, and_iff_right rfl]
  · exact iff_of_true (Standard.apply_again h hn) fun hc => hn hc.1

theorem call_again_of_fraction :
    (standard .number).call "number" "A" "1.50" [] = .ok "1.5" ∧
      (standard .number).call "number" "A" "1.5" [] = .ok "1.5" := by
  have h : (standard .number).call "number" "A" "1.50" [] = .ok "1.5" := by decide +kernel
  refine ⟨h, (call_again_iff h).mpr ?_⟩
  rintro ⟨-, l, hw, hm, -⟩
  have hl : Literal.parse "1.50".toList = some ⟨false, ['1'], some ['5', '0'], none⟩ := by
    decide +kernel
  obtain rfl : l = ⟨false, ['1'], some ['5', '0'], none⟩ :=
    Option.some.inj ((Literal.parse_of_written hw).symm.trans hl)
  cases hm

/-- A negative zero that is written with a point keeps its sign and loses the point, and an integer
zero has no sign. -/
theorem negative_zero_changes_again :
    (standard .number).call "number" "A" "-0.0" [] = .ok "-0" ∧
      (standard .number).call "number" "A" "-0" [] = .ok "0" := by
  decide +kernel

end Validator

end EnvTemplate
