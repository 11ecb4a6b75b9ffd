import SearchIndex.Proofs.Text.Decimal

/-!
# The usual notation of an integer

Many texts read as one integer: zeros may stand before its digits, and a plus sign before these. Only one of
them is the usual notation, the one in which the integer is written: `toString_eq_iff`.
-/

namespace SearchIndex.Text

variable {d : Char} {cs ds : List Char} {n : Nat}

/-! ## Digits -/

theorem digitValue_lt (h : d.isDigit = true) : digitValue d < 10 := by
  obtain ⟨-, hhi⟩ := Char.isDigit_iff_toNat.1 h
  have hends : '0'.toNat = 48 ∧ '9'.toNat = 57 := by decide
  unfold digitValue
  omega

theorem toDigits_digitValue (h : d.isDigit = true) : Nat.toDigits 10 (digitValue d) = [d] := by
  have hchar : Nat.digitChar (digitValue d) = d := by
    obtain ⟨hlo, -⟩ := Char.isDigit_iff_toNat.1 h
    have hzero : '0'.toNat = 48 := by decide
    refine Char.toNat_inj.1 ?_
    rw [Nat.toNat_digitChar_of_lt_ten (digitValue_lt h), digitValue]
    omega
  rw [Nat.toDigits_of_lt_base (digitValue_lt h), hchar]

/-- Digits after the notation of a number that is not zero go on with it. -/
theorem toDigits_foldl (hcs : ∀ c ∈ cs, c.isDigit = true) (hn : 0 < n) :
    Nat.toDigits 10 (cs.foldl (fun n c => 10 * n + digitValue c) n) = Nat.toDigits 10 n ++ cs := by
  induction cs generalizing n with
  | nil => simp
  | cons d cs ih =>
    rw [List.forall_mem_cons] at hcs
    have hstep := Nat.toDigits_append_toDigits (b := 10) (by decide) hn (digitValue_lt hcs.1)
    rw [toDigits_digitValue hcs.1] at hstep
    rw [List.foldl_cons, ih hcs.2 (by omega), ← hstep, List.append_assoc, List.singleton_append]

theorem toDigits_digitsValue (h : ∀ c ∈ d :: ds, c.isDigit = true) (hd : d ≠ '0') :
    Nat.toDigits 10 (digitsValue (d :: ds)) = d :: ds := by
  rw [List.forall_mem_cons] at h
  have hpos : 0 < digitValue d := by
    have hne : d.toNat ≠ '0'.toNat := fun e => hd (Char.toNat_inj.1 e)
    have hlo := (Char.isDigit_iff_toNat.1 h.1).1
    unfold digitValue
    omega
  rw [digitsValue, List.foldl_cons, Nat.mul_zero, Nat.zero_add, toDigits_foldl h.2 hpos, toDigits_digitValue h.1,
    List.singleton_append]

theorem digitsValue_zero_cons (ds : List Char) : digitsValue ('0' :: ds) = digitsValue ds := rfl

/-- A number is never written with more digits than it was read from. -/
theorem length_toDigits_le (h : ∀ c ∈ cs, c.isDigit = true) (hne : cs ≠ []) :
    (Nat.toDigits 10 (digitsValue cs)).length ≤ cs.length := by
  induction cs with
  | nil => exact absurd rfl hne
  | cons d cs ih =>
    by_cases hd : d = '0'
    · subst hd
      cases cs with
      | nil => simp [digitsValue, digitValue]
      | cons c cs =>
        have hrest := ih (fun c' hc' => h c' (List.mem_cons_of_mem _ hc')) (by simp)
        rw [digitsValue_zero_cons, List.length_cons]
        omega
    · exact Nat.le_of_eq (congrArg List.length (toDigits_digitsValue h hd))

/-- A row of digits is the notation of its number just if no needless zero stands before it. -/
theorem toDigits_digitsValue_iff (h : ∀ c ∈ d :: ds, c.isDigit = true) :
    Nat.toDigits 10 (digitsValue (d :: ds)) = d :: ds ↔ (d = '0' → ds = []) := by
  constructor
  · rintro he rfl
    refine Decidable.byContradiction fun hne => ?_
    -- without the zero there is a digit less to read the same number from
    have hlen := length_toDigits_le (fun c hc => h c (List.mem_cons_of_mem _ hc)) hne
    rw [← digitsValue_zero_cons, he, List.length_cons] at hlen
    omega
  · intro hd
    by_cases hz : d = '0'
    · rw [hz, hd hz]
      rfl
    · exact toDigits_digitsValue h hz

/-! ## Integers -/

/-- The usual notation of an integer: zero has one digit and no sign, and the others begin with a digit that
is not zero, after a minus sign if they are negative. -/
def IsUsualInteger (cs : List Char) : Prop :=
  cs = ['0'] ∨ ∃ d ds, (cs = d :: ds ∨ cs = '-' :: d :: ds) ∧ d ≠ '0' ∧ ∀ c ∈ d :: ds, c.isDigit = true

theorem isUsualInteger_digits (h : ∀ c ∈ d :: ds, c.isDigit = true) :
    IsUsualInteger (d :: ds) ↔ (d = '0' → ds = []) := by
  constructor
  · rintro (hzero | ⟨d', ds', hcs | hcs, hne, -⟩) hd
    · cases hzero
      rfl
    · cases hcs
      exact absurd hd hne
    · cases hcs
      cases hd
  · intro hd
    by_cases hz : d = '0'
    · exact .inl (by rw [hz, hd hz])
    · exact .inr ⟨d, ds, .inl rfl, hz, h⟩

theorem isUsualInteger_minus (h : ∀ c ∈ d :: ds, c.isDigit = true) : IsUsualInteger ('-' :: d :: ds) ↔ d ≠ '0' := by
  constructor
  · rintro (hzero | ⟨d', ds', hcs | hcs, hne, hall⟩)
    · cases hzero
    · cases hcs
      exact absurd (hall '-' List.mem_cons_self) (by decide)
    · cases hcs
      exact hne
  · exact fun hd => .inr ⟨d, ds, .inr rfl, hd, h⟩

theorem not_isUsualInteger_plus (cs : List Char) : ¬ IsUsualInteger ('+' :: cs) := by
  rintro (hzero | ⟨d, ds, hcs | hcs, -, hall⟩)
  · cases hzero
  · cases hcs
    exact absurd (hall '+' List.mem_cons_self) (by decide)
  · cases hcs

theorem toList_toString_natCast (n : Nat) : (toString (n : Int)).toList = Nat.toDigits 10 n := by
  rw [Int.toString_eq_repr, Int.repr_eq_if, if_pos (Int.natCast_nonneg n), Nat.toList_repr, Int.toNat_natCast]

theorem toList_toString_neg (h : 0 < n) : (toString (-(n : Int))).toList = '-' :: Nat.toDigits 10 n := by
  have hneg : ¬ 0 ≤ -(n : Int) := by omega
  rw [Int.toString_eq_repr, Int.repr_eq_if, if_neg hneg, String.toList_append, Nat.toList_repr]
  simp

theorem toString_neg_eq_iff (h : ∀ c ∈ d :: ds, c.isDigit = true) :
    (toString (-(digitsValue (d :: ds) : Int))).toList = '-' :: d :: ds ↔ d ≠ '0' := by
  rcases Nat.eq_zero_or_pos (digitsValue (d :: ds)) with hzero | hpos
  · rw [hzero]
    refine iff_of_false (fun he => by cases he) fun hd => ?_
    have hdigits := toDigits_digitsValue h hd
    rw [hzero] at hdigits
    cases hdigits
    exact hd rfl
  · rw [toList_toString_neg hpos, List.cons.injEq, toDigits_digitsValue_iff h]
    constructor
    · rintro ⟨-, hds⟩ rfl
      rw [hds rfl] at hpos
      exact absurd hpos (by decide)
    · exact fun hd => ⟨rfl, fun hz => absurd hz hd⟩

theorem digits?_eq_some_cons {cs : List Char} {n : Nat} (h : digits? cs = some n) :
    ∃ d ds, cs = d :: ds ∧ (∀ c ∈ d :: ds, c.isDigit = true) ∧ n = digitsValue (d :: ds) := by
  obtain ⟨hne, hall, rfl⟩ := digits?_eq_some_iff.1 h
  obtain ⟨d, ds, rfl⟩ := List.exists_cons_of_ne_nil hne
  exact ⟨d, ds, rfl, List.all_eq_true.1 hall, rfl⟩

/-- What reads as an integer is what the integer is written as just if it is the usual notation. -/
theorem toString_eq_iff {cs : List Char} {i : Int} (h : integer? cs = some i) :
    (toString i).toList = cs ↔ IsUsualInteger cs := by
  unfold integer? at h
  split at h
  all_goals
    obtain ⟨n, hn, rfl⟩ := Option.map_eq_some_iff.1 h
    obtain ⟨d, ds, rfl, hall, rfl⟩ := digits?_eq_some_cons hn
  · rw [isUsualInteger_minus hall, toString_neg_eq_iff hall]
  · -- no integer is written with a plus sign
    refine iff_of_false (fun he => ?_) (not_isUsualInteger_plus _)
    have hwritten : Nat.toDigits 10 (digitsValue (d :: ds)) = '+' :: d :: ds := (toList_toString_natCast _).symm.trans he
    have hplus : '+' ∈ Nat.toDigits 10 (digitsValue (d :: ds)) := hwritten ▸ List.mem_cons_self
    exact absurd (Nat.isDigit_of_mem_toDigits (by decide) (by decide) hplus) (by decide)
  · rw [isUsualInteger_digits hall, ← toDigits_digitsValue_iff hall, ← toList_toString_natCast]
    rfl

end SearchIndex.Text
