import SearchIndex.Text.Blank
import SearchIndex.Text.Lowercase

/-!
# Text in lower case

No ASCII capital is left in it, also where a letter beyond ASCII turns into an ASCII one. Blanks have no case.
-/

namespace SearchIndex.Text

variable {c d : Char} {n m : Nat}

/-! ## No capitals are left -/

theorem not_isUpper_of_le (h : 97 ≤ c.toNat) : c.isUpper = false := by
  refine decide_eq_false ?_
  rintro ⟨-, hle⟩
  have hle : c.toNat ≤ 90 := hle
  omega

set_option maxRecDepth 1000 in
/-- Every run of the table is lowered beyond the ASCII capitals. -/
theorem target_of_mem_caseRuns : ∀ r ∈ caseRuns, 97 ≤ r.target := by decide

theorem le_of_lowerByTable (h : lowerByTable n = some m) : 97 ≤ m := by
  obtain ⟨r, hr, rfl⟩ := Option.map_eq_some_iff.1 h
  have := target_of_mem_caseRuns r (List.mem_of_find?_eq_some hr)
  omega

/-- A number that is no code point stands for the first character, which is no capital either. -/
theorem not_isUpper_ofNat (h : 97 ≤ m) : (Char.ofNat m).isUpper = false := by
  rw [Char.ofNat]
  by_cases hm : m.isValidChar
  · rw [dif_pos hm]
    exact not_isUpper_of_le h
  · rw [dif_neg hm]
    decide

theorem not_isUpper_toLower (h : c.toNat < 128) : c.toLower.isUpper = false := by
  have hall : ∀ n < 128, (Char.ofNat n).toLower.isUpper = false := by decide
  rw [← Char.ofNat_toNat c]
  exact hall c.toNat h

theorem not_isUpper_lowerChar (h : d ∈ lowerChar c) : d.isUpper = false := by
  unfold lowerChar at h
  split at h
  · rename_i hc
    obtain rfl := List.mem_singleton.1 h
    exact not_isUpper_toLower hc
  · rename_i hc
    split at h
    · rw [List.mem_cons, List.mem_singleton] at h
      rcases h with rfl | rfl <;> decide
    · obtain rfl := List.mem_singleton.1 h
      cases hm : lowerByTable c.toNat with
      | none => exact not_isUpper_of_le (by simp only [Option.map_none, Option.getD_none]; omega)
      | some m => exact not_isUpper_ofNat (le_of_lowerByTable hm)

theorem not_isUpper_lowerAfter {before cs : List Char} (h : d ∈ lowerAfter before cs) : d.isUpper = false := by
  induction cs generalizing before with
  | nil => cases h
  | cons c cs ih =>
    rw [lowerAfter] at h
    rcases List.mem_append.1 h with h | h
    · split at h
      · -- both forms of a sigma are small letters
        obtain rfl := List.mem_singleton.1 h
        split <;> decide
      · exact not_isUpper_lowerChar h
    · exact ih h

/-! ## Blanks -/

/-- Every blank, by its code point. -/
theorem exists_of_isBlank (h : isBlank c) : ∃ n ∈ [9, 10, 11, 12, 13, 0x20, 0x85, 0xa0, 0x1680, 0x2000, 0x2001, 0x2002,
    0x2003, 0x2004, 0x2005, 0x2006, 0x2007, 0x2008, 0x2009, 0x200a, 0x2028, 0x2029, 0x202f, 0x205f, 0x3000],
    c = Char.ofNat n := by
  refine ⟨c.toNat, ?_, (Char.ofNat_toNat c).symm⟩
  simp only [isBlank, Bool.or_eq_true, Bool.and_eq_true, decide_eq_true_eq] at h
  simp only [List.mem_cons, List.not_mem_nil, or_false]
  omega

theorem lowerChar_of_isBlank (h : isBlank c) : lowerChar c = [c] := by
  obtain ⟨n, hn, rfl⟩ := exists_of_isBlank h
  revert n
  decide +kernel

end SearchIndex.Text
