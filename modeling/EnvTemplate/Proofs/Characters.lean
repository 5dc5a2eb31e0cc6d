import EnvTemplate.Proofs.LineFormat
import EnvTemplate.Proofs.NumberText
import EnvTemplate.Rule

/-! Where the characters of a result come from: of the texts that are read, or of the words and
numerals that validators write. -/

namespace EnvTemplate

open Text

variable {c : Char}

namespace EnvFile

theorem mem_of_binding? {line : List Char} {key value : String}
    (h : binding? line = some (key, value)) (hc : c ∈ key.toList ∨ c ∈ value.toList) :
    c ∈ line := by
  unfold binding? at h
  split at h
  · cases h
  · rename_i before after hcut
    obtain ⟨rfl, -⟩ := cut_eq_some_iff.mp hcut
    split at h
    · cases h
    · simp only [Option.some.injEq, Prod.mk.injEq] at h
      obtain ⟨rfl, rfl⟩ := h
      simp only [String.toList_ofList] at hc
      rcases hc with hc | hc
      · exact List.mem_append_left _ (mem_of_mem_trim hc)
      · exact List.mem_append_right _ (List.mem_cons_of_mem _ (mem_of_mem_trim hc))

theorem mem_of_mem_parse {text : String} {p : String × String} (h : p ∈ (parse text).entries)
    (hc : c ∈ p.1.toList ∨ c ∈ p.2.toList) : c ∈ text.toList := by
  obtain ⟨line, hl, hb⟩ := List.mem_filterMap.mp (OrderedMap.mem_of_mem_ofList h)
  exact (of_mem_splitOn hl).2 (mem_of_binding? hb hc)

theorem mem_of_mem_render {entries : List (String × String)} (h : c ∈ (render entries).toList) :
    c = '=' ∨ c = '\n' ∨ ∃ p ∈ entries, c ∈ p.1.toList ∨ c ∈ p.2.toList := by
  induction entries with
  | nil => cases h
  | cons p entries ih =>
    have hr : (render (p :: entries)).toList =
        p.1.toList ++ '=' :: (p.2.toList ++ '\n' :: (render entries).toList) := by
      simp [render, line, String.join_cons]
    simp only [hr, List.mem_append, List.mem_cons] at h
    rcases h with hk | rfl | hv | rfl | hc
    · exact .inr (.inr ⟨p, List.mem_cons_self, .inl hk⟩)
    · exact .inl rfl
    · exact .inr (.inr ⟨p, List.mem_cons_self, .inr hv⟩)
    · exact .inr (.inl rfl)
    · refine (ih hc).imp_right (Or.imp_right ?_)
      rintro ⟨q, hq, hm⟩
      exact ⟨q, List.mem_cons_of_mem _ hq, hm⟩

end EnvFile

theorem Call.mem_of_mem_parseArgs {s : List Char} {arg : String} (h : arg ∈ parseArgs s)
    (hc : c ∈ arg.toList) : c ∈ s := by
  unfold parseArgs at h
  split at h
  · cases h
  · obtain ⟨l, hl, rfl⟩ := List.mem_map.mp h
    exact (of_mem_splitOn hl).2 (by simpa using hc)

theorem Call.mem_of_mem_parse {link : List Char} {arg : String} (h : arg ∈ (parse link).args)
    (hc : c ∈ arg.toList) : c ∈ link := by
  apply mem_of_mem_trim
  unfold parse at h
  split at h
  · cases h
  · rename_i name rest hcut
    rw [(cutLast_eq_some_iff.mp hcut).1]
    split at h
    · cases h
    · rename_i args after hargs
      have ha : c ∈ args := mem_of_mem_parseArgs h hc
      rw [(cutLast_eq_some_iff.mp hargs).1]
      simp [ha]

theorem Chain.mem_of_mem_parse {known : String → Bool} {expression arg : String} {call : Call}
    (h : call ∈ parse known expression) (ha : arg ∈ call.args) (hc : c ∈ arg.toList) :
    c ∈ expression.toList := by
  obtain ⟨link, hl, rfl⟩ := List.mem_map.mp (List.mem_filter.mp h).1
  obtain ⟨part, hp, rfl⟩ := List.mem_map.mp (List.mem_filter.mp hl).1
  exact (of_mem_splitOn hp).2 (mem_of_mem_trim (Call.mem_of_mem_parse ha hc))

namespace Number

def isNumeral (c : Char) : Bool := c.isDigit || c = '-' || c = '.'

theorem isNumeral_of_allDigits {s : List Char} (hs : AllDigits s) (h : c ∈ s) : isNumeral c := by
  simp [isNumeral, hs c h]

theorem isNumeral_of_mem_signedText {negative : Bool} {s : List Char}
    (hs : ∀ c ∈ s, isNumeral c) (h : c ∈ (signedText negative s).toList) : isNumeral c := by
  rw [toList_signedText, List.mem_append] at h
  rcases h with hm | hd
  · cases negative with
    | false => cases hm
    | true =>
      obtain rfl := List.mem_singleton.mp hm
      rfl
  · exact hs c hd

theorem isNumeral_of_mem_fixedPoint {x : Nat} (h : c ∈ Shortest.fixedPoint x) : isNumeral c := by
  rw [fixedPoint_eq] at h
  split at h
  · exact isNumeral_of_allDigits (allDigits_toDigits _) h
  · rcases List.mem_append.mp h with hw | hf
    · exact isNumeral_of_allDigits (allDigits_toDigits _) hw
    · rcases List.mem_cons.mp hf with rfl | hd
      · rfl
      · exact isNumeral_of_allDigits (allDigits_fractionDigits x) hd

theorem isNumeral_of_mem_normal? {value normal : String} (h : normal? value = some normal)
    (hc : c ∈ normal.toList) : isNumeral c := by
  obtain ⟨l, -, hl⟩ := normal?_eq_some_iff.mp h
  unfold Literal.normal? at hl
  split at hl
  · cases hl
    rw [Literal.toInt_eq, toString_signed] at hc
    exact isNumeral_of_mem_signedText (fun _ => isNumeral_of_allDigits (allDigits_toDigits _)) hc
  · obtain ⟨u, -, rfl⟩ := Option.map_eq_some_iff.mp hl
    exact isNumeral_of_mem_signedText (fun _ => isNumeral_of_mem_fixedPoint) hc

end Number

/-- A character that validators write of themselves, in a truth value or in a number. -/
def Standard.writes (c : Char) : Bool := c.isAlpha || Number.isNumeral c

/-- What a validator gives consists of characters of the value, of one of its arguments, or of
those it writes of itself. -/
theorem Standard.mem_of_apply {validator : Standard} {args : List String} {value result : String}
    (h : validator.apply args value = .ok result) (hc : c ∈ result.toList) :
    c ∈ value.toList ∨ (∃ arg ∈ args, c ∈ arg.toList) ∨ writes c := by
  have hword : ∀ word : String, word.toList.all writes → c ∈ word.toList → writes c :=
    fun _ hw hm => List.all_eq_true.mp hw c hm
  rcases apply_ok_cases h with rfl | ⟨-, -, hf⟩ | ⟨-, hn⟩ | ⟨-, rfl | rfl⟩ | ⟨-, rfl⟩
  · exact .inl hc
  · exact .inr (.inl ⟨result, List.mem_of_mem_head? hf, hc⟩)
  · exact .inr (.inr (by simp [writes, Number.isNumeral_of_mem_normal? hn hc]))
  · exact .inr (.inr (hword "true" (by decide) hc))
  · exact .inr (.inr (hword "false" (by decide) hc))
  · exact .inl (mem_of_mem_trim (by simpa using hc))

theorem Chain.mem_of_run {key value result : String} {chain : Chain}
    (h : (Chain.run .standard key chain value).1 = .ok result) (hc : c ∈ result.toList) :
    c ∈ value.toList ∨ (∃ call ∈ chain, ∃ arg ∈ call.args, c ∈ arg.toList) ∨ Standard.writes c := by
  induction chain generalizing value with
  | nil =>
    cases h
    exact .inl hc
  | cons link chain ih =>
    have hrest : ∀ {value : String}, (Chain.run .standard key chain value).1 = .ok result →
        c ∈ value.toList ∨ (∃ call ∈ link :: chain, ∃ arg ∈ call.args, c ∈ arg.toList) ∨
          Standard.writes c := fun hr => by
      refine (ih hr).imp_right (Or.imp_left ?_)
      rintro ⟨call, hm, ha⟩
      exact ⟨call, List.mem_cons_of_mem _ hm, ha⟩
    cases hv : Registry.standard.get? link.name with
    | none =>
      rw [run_cons_of_unknown hv] at h
      exact hrest h
    | some validator =>
      obtain ⟨builtIn, -, rfl⟩ := Registry.get?_standard_eq_some_iff.mp hv
      cases ha : (Validator.standard builtIn).call link.name key value link.args with
      | error rejection =>
        rw [run_cons_of_error hv ha] at h
        cases h
      | ok next =>
        rw [run_cons_of_ok hv ha] at h
        rcases hrest h with hm | hm
        · rcases Standard.mem_of_apply (Validator.apply_of_call_ok ha) hm with
            hm | ⟨arg, harg, hm⟩ | hw
          · exact .inl hm
          · exact .inr (.inl ⟨link, List.mem_cons_self, arg, harg, hm⟩)
          · exact .inr (.inr hw)
        · exact .inr hm

end EnvTemplate
