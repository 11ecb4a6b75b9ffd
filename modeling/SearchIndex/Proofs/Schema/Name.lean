import SearchIndex.Proofs.Text.Blank
import SearchIndex.Proofs.Text.Lowercase
import SearchIndex.Schema.Basic

/-!
# Domain names spell texts character by character

The name that a text stands for spells its characters one after the other, whatever stands around them, once the
blanks at both ends are gone. A name spells itself, so it is accepted as the name of a schema. A text stands for a
name if a letter or digit is left of it in lower case.
-/

namespace SearchIndex

open Text

/-- How a domain name spells a character: in lower case, with hyphens for what a name cannot hold. -/
def nameSpelling (c : Char) : List Char := (lowerChar c).map fun c => if isNameChar c then c else '-'

/-- How a domain name spells a text, blanks and all. -/
def spelled (cs : List Char) : List Char := cs.flatMap nameSpelling

variable {c : Char} {cs : List Char} {s n : String}

@[simp] theorem spelled_append (cs ds : List Char) : spelled (cs ++ ds) = spelled cs ++ spelled ds :=
  List.flatMap_append

/-! ## Spelling a text -/

/-- The form of a sigma hangs on where it stands, but a name holds neither form. -/
theorem map_lowerAfter (before cs : List Char) :
    (lowerAfter before cs).map (fun c => if isNameChar c then c else '-') = spelled cs := by
  induction cs generalizing before with
  | nil => rfl
  | cons c cs ih =>
    rw [lowerAfter, List.map_append, ih, spelled, spelled, List.flatMap_cons]
    congr 1
    split
    · rename_i hc
      subst hc
      split <;> decide
    · rfl

theorem toList_hyphenated (s : String) : (hyphenated s).toList = spelled (trimChars s.toList) := by
  rw [hyphenated, String.toList_ofList, lower, String.toList_ofList, trim, String.toList_ofList, map_lowerAfter]

theorem isNameChar_of_mem_spelled (h : c ∈ spelled cs) : isNameChar c := by
  obtain ⟨d, -, hd⟩ := List.mem_flatMap.1 h
  obtain ⟨e, -, rfl⟩ := List.mem_map.1 hd
  split
  · assumption
  · decide

/-! ## Names spell themselves -/

theorem isNameChar_iff : isNameChar c ↔
    97 ≤ c.toNat ∧ c.toNat ≤ 122 ∨ 48 ≤ c.toNat ∧ c.toNat ≤ 57 ∨ c.toNat = 45 := by
  have lower : c.isLower ↔ 97 ≤ c.toNat ∧ c.toNat ≤ 122 := by
    show (decide ('a'.val ≤ c.val) && decide (c.val ≤ 'z'.val)) = true ↔ _
    rw [Bool.and_eq_true, decide_eq_true_eq, decide_eq_true_eq]
    exact Iff.rfl
  have digit : c.isDigit ↔ 48 ≤ c.toNat ∧ c.toNat ≤ 57 := by
    show (decide ('0'.val ≤ c.val) && decide (c.val ≤ '9'.val)) = true ↔ _
    rw [Bool.and_eq_true, decide_eq_true_eq, decide_eq_true_eq]
    exact Iff.rfl
  have hyphen : c = '-' ↔ c.toNat = 45 := by rw [← Char.toNat_inj]; rfl
  rw [isNameChar, Bool.or_eq_true, Bool.or_eq_true, decide_eq_true_eq, hyphen, lower, digit, or_assoc]

theorem isBlank_of_isNameChar (h : isNameChar c) : isBlank c = false := by
  have := isNameChar_iff.1 h
  simp only [isBlank, Bool.or_eq_false_iff, Bool.and_eq_false_iff, decide_eq_false_iff_not]
  omega

theorem toLower_of_isNameChar (h : isNameChar c) : c.toLower = c := by
  have := isNameChar_iff.1 h
  refine dif_neg ?_
  rintro ⟨hlo, hhi⟩
  have hlo : 65 ≤ c.toNat := hlo
  have hhi : c.toNat ≤ 90 := hhi
  omega

theorem nameSpelling_of_isNameChar (h : isNameChar c) : nameSpelling c = [c] := by
  have hc : c.toNat < 128 := by
    have := isNameChar_iff.1 h
    omega
  rw [nameSpelling, lowerChar, if_pos hc, toLower_of_isNameChar h, List.map_singleton, if_pos h]

theorem spelled_of_isNameChar (h : ∀ c ∈ cs, isNameChar c) : spelled cs = cs := by
  induction cs with
  | nil => rfl
  | cons c cs ih =>
    rw [spelled, List.flatMap_cons, nameSpelling_of_isNameChar (h c List.mem_cons_self)]
    exact congrArg (c :: ·) (ih fun c hc => h c (List.mem_cons_of_mem _ hc))

theorem hyphenated_of_isNameChar (h : ∀ c ∈ s.toList, isNameChar c) : hyphenated s = s := by
  rw [← String.toList_inj, toList_hyphenated, trimChars_of_no_blank fun c hc => isBlank_of_isNameChar (h c hc),
    spelled_of_isNameChar h]

theorem normalizeName_eq_ok_iff : normalizeName s = .ok n ↔ hasAlphanum n ∧ hyphenated s = n := by
  by_cases h : hasAlphanum (hyphenated s)
  · rw [normalizeName, if_pos h, Except.ok.injEq]
    constructor
    · intro hn
      exact ⟨hn ▸ h, hn⟩
    · exact And.right
  · rw [normalizeName, if_neg h]
    refine iff_of_false nofun ?_
    rintro ⟨hn, hs⟩
    exact h (hs ▸ hn)

/-- Normalising a name again leaves it as it is. -/
theorem normalizeName_of_normalized (h : normalizeName s = .ok n) : normalizeName n = .ok n := by
  obtain ⟨hn, rfl⟩ := normalizeName_eq_ok_iff.1 h
  refine normalizeName_eq_ok_iff.2 ⟨hn, hyphenated_of_isNameChar fun c hc => ?_⟩
  rw [toList_hyphenated] at hc
  exact isNameChar_of_mem_spelled hc

theorem Schema.new_of_normalized (h : normalizeName s = .ok n) : Schema.new n = .ok { name := n } := by
  simp [Schema.new, normalizeName_of_normalized h, bind, Except.bind]

/-- Just the names that texts stand for are accepted. -/
theorem Schema.exists_new_iff : (∃ schema, Schema.new n = .ok schema) ↔ ∃ s, normalizeName s = .ok n := by
  constructor
  · rintro ⟨schema, h⟩
    refine ⟨n, ?_⟩
    cases hn : normalizeName n with
    | error e => simp [Schema.new, hn, bind, Except.bind] at h
    | ok m =>
      by_cases hm : m = n
      · rw [hm]
      · simp [Schema.new, hn, hm, bind, Except.bind] at h
  · rintro ⟨s, h⟩
    exact ⟨_, new_of_normalized h⟩

/-! ## Which texts stand for a name -/

/-- Letters and digits in lower case are kept, and a hyphen is neither. -/
theorem isAlphanum_spelling (h : c.isUpper = false) : (if isNameChar c then c else '-').isAlphanum = c.isAlphanum := by
  by_cases hc : isNameChar c
  · rw [if_pos hc]
  · rw [if_neg hc]
    simp only [isNameChar, Bool.or_eq_true, not_or, Bool.not_eq_true] at hc
    show false = ((c.isUpper || c.isLower) || c.isDigit)
    rw [h, hc.1.1, hc.1.2]
    rfl

theorem any_isAlphanum_spelled (before cs : List Char) :
    (spelled cs).any Char.isAlphanum = (lowerAfter before cs).any Char.isAlphanum := by
  rw [← map_lowerAfter before, List.any_map, Bool.eq_iff_iff, List.any_eq_true, List.any_eq_true]
  refine exists_congr fun c => and_congr_right fun hc => ?_
  rw [Function.comp_apply, isAlphanum_spelling (not_isUpper_lowerAfter hc)]

theorem nameSpelling_of_isBlank (h : isBlank c) : nameSpelling c = ['-'] := by
  have hc : ¬ isNameChar c := fun hc => by simp [isBlank_of_isNameChar hc] at h
  rw [nameSpelling, lowerChar_of_isBlank h, List.map_singleton, if_neg hc]

theorem any_isAlphanum_spelled_blanks (h : ∀ c ∈ cs, isBlank c = true) : (spelled cs).any Char.isAlphanum = false := by
  rw [spelled, List.any_flatMap, List.any_eq_false]
  intro c hc
  rw [nameSpelling_of_isBlank (h c hc)]
  decide

/-- Trimming takes no letter and no digit away. -/
theorem any_isAlphanum_spelled_trimChars (cs : List Char) :
    (spelled (trimChars cs)).any Char.isAlphanum = (spelled cs).any Char.isAlphanum := by
  obtain ⟨before, after, hcs, hbefore, hafter⟩ := exists_trimChars cs
  calc (spelled (trimChars cs)).any Char.isAlphanum
      = (spelled (before ++ (trimChars cs ++ after))).any Char.isAlphanum := by
        rw [spelled_append, spelled_append, List.any_append, List.any_append, any_isAlphanum_spelled_blanks hbefore,
          any_isAlphanum_spelled_blanks hafter, Bool.false_or, Bool.or_false]
    _ = (spelled cs).any Char.isAlphanum := by rw [← hcs]

theorem hasAlphanum_hyphenated (s : String) : hasAlphanum (hyphenated s) = hasAlphanum (lower s) := by
  rw [hasAlphanum, toList_hyphenated, any_isAlphanum_spelled_trimChars, any_isAlphanum_spelled [], hasAlphanum, lower,
    String.toList_ofList]

theorem normalizeName_eq (s : String) : normalizeName s =
    if hasAlphanum (lower s) then .ok (hyphenated s) else .error (.invalidDomainName s) := by
  rw [normalizeName, hasAlphanum_hyphenated]

end SearchIndex
