import SearchIndex.Text.Integer

/-!
# Decimal notation reads back

`toString` of a number is a row of digits with a sign at most, and reading it gives the number. What
can be read as a number consists of digits and signs only, so a blank, a dot or a quote ends it.
-/

namespace SearchIndex.Text

theorem digits?_eq_some_iff {cs : List Char} {n : Nat} :
    digits? cs = some n ↔ cs ≠ [] ∧ cs.all Char.isDigit ∧ digitsValue cs = n := by
  unfold digits?
  split
  · rename_i h; simp [h]
  · rename_i h; simp only [reduceCtorEq, false_iff]; rintro ⟨h1, h2, -⟩; exact h ⟨h1, h2⟩

theorem digits?_toDigits (n : Nat) : digits? (Nat.toDigits 10 n) = some n := by
  refine digits?_eq_some_iff.2 ⟨Nat.toDigits_ne_nil, ?_, Nat.ofDigitChars_ten_toDigits⟩
  exact List.all_eq_true.2 fun c hc => Nat.isDigit_of_mem_toDigits (by decide) (by decide) hc

/-- A row of digits has no sign, so it is read as it stands. -/
theorem integer?_of_digits {cs : List Char} (h : cs.all Char.isDigit) :
    integer? cs = (digits? cs).map Int.ofNat := by
  unfold integer?
  split
  · exact absurd (List.all_eq_true.1 h '-' (by simp)) (by decide)
  · exact absurd (List.all_eq_true.1 h '+' (by simp)) (by decide)
  · rfl

theorem integer?_toString (i : Int) : integer? (toString i).toList = some i := by
  rw [Int.toString_eq_repr, Int.repr_eq_if]
  split
  · rename_i h
    have hd := digits?_toDigits i.toNat
    rw [Nat.toList_repr, integer?_of_digits (digits?_eq_some_iff.1 hd).2.1, hd]
    simp [Int.toNat_of_nonneg h]
  · rename_i h
    rw [String.toList_append, Nat.toList_repr]
    simp only [String.reduceToList, List.cons_append, List.nil_append, integer?, digits?_toDigits,
      Option.map_some, Option.some.injEq]
    omega

/-- Digits and signs. -/
def isNumberChar (c : Char) : Bool := c.isDigit || c = '-' || c = '+'

theorem digits?_chars {cs : List Char} {n : Nat} (h : digits? cs = some n) : ∀ c ∈ cs, isNumberChar c := by
  intro c hc
  have := List.all_eq_true.1 (digits?_eq_some_iff.1 h).2.1 c hc
  simp [isNumberChar, this]

theorem integer?_chars {cs : List Char} {i : Int} (h : integer? cs = some i) : ∀ c ∈ cs, isNumberChar c := by
  unfold integer? at h
  split at h
  all_goals
    obtain ⟨n, hn, -⟩ := Option.map_eq_some_iff.1 h
    have := digits?_chars hn
    simp_all [isNumberChar]

theorem integer?_ne_nil {cs : List Char} {i : Int} (h : integer? cs = some i) : cs ≠ [] := by
  rintro rfl
  simp [integer?, digits?] at h

theorem signed64?_eq_some_iff {cs : List Char} {n : Int64} : signed64? cs = some n ↔ integer? cs = some n.toInt := by
  rw [signed64?, Option.bind_eq_some_iff]
  constructor
  · rintro ⟨i, hi, hn⟩
    split at hn
    · rename_i h
      cases hn
      have hhi : i < 2 ^ 63 := by
        rw [Int64.toInt_maxValue] at h
        omega
      rw [Int64.toInt_ofInt_of_le h.1 hhi, hi]
    · cases hn
  · intro h
    have hn : Int64.minValue.toInt ≤ n.toInt ∧ n.toInt ≤ Int64.maxValue.toInt := ⟨n.minValue_le_toInt, n.toInt_le⟩
    exact ⟨n.toInt, h, by rw [if_pos hn, Int64.ofInt_toInt]⟩

/-- A decimal notation of an integer: one or more digits, of which the first may be zeros, with a sign before
them or none. -/
def IsDecimal (cs : List Char) (i : Int) : Prop :=
  ∃ digits, digits ≠ [] ∧ (∀ c ∈ digits, c.isDigit = true) ∧
    ((cs = digits ∨ cs = '+' :: digits) ∧ i = Nat.ofDigitChars 10 digits 0 ∨
      cs = '-' :: digits ∧ i = -Nat.ofDigitChars 10 digits 0)

theorem integer?_eq_some_iff {cs : List Char} {i : Int} : integer? cs = some i ↔ IsDecimal cs i := by
  have digits_iff (ds : List Char) (n : Nat) : digits? ds = some n ↔
      ds ≠ [] ∧ (∀ c ∈ ds, c.isDigit = true) ∧ Nat.ofDigitChars 10 ds 0 = n := by
    rw [digits?_eq_some_iff, List.all_eq_true]
    rfl
  constructor
  · intro h
    unfold integer? at h
    split at h
    all_goals
      obtain ⟨n, hn, rfl⟩ := Option.map_eq_some_iff.1 h
      obtain ⟨hne, hall, rfl⟩ := (digits_iff _ n).1 hn
    · exact ⟨_, hne, hall, .inr ⟨rfl, rfl⟩⟩
    · exact ⟨_, hne, hall, .inl ⟨.inr rfl, rfl⟩⟩
    · exact ⟨_, hne, hall, .inl ⟨.inl rfl, rfl⟩⟩
  · rintro ⟨ds, hne, hall, hsign⟩
    have hn : digits? ds = some (Nat.ofDigitChars 10 ds 0) := (digits_iff ds _).2 ⟨hne, hall, rfl⟩
    rcases hsign with ⟨rfl | rfl, rfl⟩ | ⟨rfl, rfl⟩
    · rw [integer?_of_digits (List.all_eq_true.2 hall), hn]
      rfl
    all_goals
      rw [integer?, hn]
      rfl

theorem signed64?_eq_some_iff_isDecimal {cs : List Char} {n : Int64} : signed64? cs = some n ↔ IsDecimal cs n.toInt :=
  signed64?_eq_some_iff.trans integer?_eq_some_iff

theorem unsigned64?_eq_some_iff {cs : List Char} {n : Nat} : unsigned64? cs = some n ↔
    ∃ digits, (cs = digits ∨ cs = '+' :: digits) ∧ digits ≠ [] ∧ (∀ c ∈ digits, c.isDigit = true) ∧
      Nat.ofDigitChars 10 digits 0 = n ∧ n < UInt64.size := by
  have hfits (ds : List Char) : (digits? ds).filter (· < UInt64.size) = some n ↔
      ds ≠ [] ∧ (∀ c ∈ ds, c.isDigit = true) ∧ Nat.ofDigitChars 10 ds 0 = n ∧ n < UInt64.size := by
    rw [Option.filter_eq_some_iff, digits?_eq_some_iff, List.all_eq_true, decide_eq_true_eq, and_assoc, and_assoc]
    rfl
  unfold unsigned64?
  split
  · rename_i ds
    rw [hfits]
    constructor
    · exact fun h => ⟨ds, .inr rfl, h⟩
    · rintro ⟨digits, rfl | hcs, h⟩
      · exact absurd (h.2.1 '+' List.mem_cons_self) (by decide)
      · cases hcs
        exact h
  · rename_i hplus
    rw [hfits]
    constructor
    · exact fun h => ⟨cs, .inl rfl, h⟩
    · rintro ⟨digits, rfl | hcs, h⟩
      · exact h
      · exact absurd hcs (hplus digits)

end SearchIndex.Text
