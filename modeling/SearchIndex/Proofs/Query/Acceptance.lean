import SearchIndex.Proofs.Query.Meaning

/-!
# Which conditions are accepted

An operator takes operands of some shapes. Of these an operand is refused if it is no scalar of the field's
type, if a strict bound has no neighbour, or if there is nothing in a list. All others become clauses, and on
unsigned fields the clause of an equality depends on the number alone.
-/

namespace SearchIndex

variable {field : String} {type : FieldType} {op : Operator} {x y : Operand} {fault : OperandFault} {m n : Nat}

/-! ## Operands that fit -/

/-- Orders take integers, `any` takes lists, ranges are texts or bounds, and equality takes all. -/
def Operator.Takes : Operator → Operand → Prop
  | .equals, _ | .notEquals, _ => True
  | .any, .list _ => True
  | .withinRange, .text _ | .withinRange, .range _ _ => True
  | .greater, .int _ | .greaterOrEqual, .int _ | .less, .int _ | .lessOrEqual, .int _ => True
  | _, _ => False

/-- The number that an operand denotes: that of an integer that is not negative, or of the digits of a text,
where blanks may stand around them and a plus sign before, if it fits 64 bits. -/
def Operand.DenotesNumber : Operand → Nat → Prop
  | .int i, n => i.toInt = n
  | .text s, n => ∃ digits, (Text.trimChars s.toList = digits ∨ Text.trimChars s.toList = '+' :: digits) ∧
      digits ≠ [] ∧ (∀ c ∈ digits, c.isDigit = true) ∧ Nat.ofDigitChars 10 digits 0 = n ∧ n < UInt64.size
  | _, _ => False

/-- The single values that a field is compared with: numbers on unsigned fields, texts and integers on the
others. -/
def Operand.IsScalarOf : FieldType → Operand → Prop
  | .uint, x => ∃ n, x.DenotesNumber n
  | _, .text _ | _, .int _ => True
  | _, _ => False

def FieldType.scalarFault : FieldType → OperandFault
  | .uint => .notUnsigned
  | _ => .notSingle

/-- `Unfit type op x y fault`: the operand `x` has a shape that the operator takes, but `y`, which is `x` or the
first of its elements that is no scalar, has a fault. -/
inductive Unfit (type : FieldType) : Operator → Operand → Operand → OperandFault → Prop
  | top : Unfit type .greater (.int Int64.maxValue) (.int Int64.maxValue) .outOfRange
  | bottom : Unfit type .less (.int Int64.minValue) (.int Int64.minValue) .outOfRange
  | empty : Unfit type .any (.list []) (.list []) .emptyList
  | value {op : Operator} {x : Operand} : op = .equals ∨ op = .notEquals → ¬ x.IsScalarOf type → Unfit type op x x type.scalarFault
  | element {x : Operand} {before after : List Operand} : (∀ y ∈ before, y.IsScalarOf type) → ¬ x.IsScalarOf type →
      Unfit type .any (.list (before ++ x :: after)) x type.scalarFault

/-! ## Scalars -/

theorem Scalar.ofOperand_eq_number_iff : ofOperand .uint x = .ok (.number n) ↔ x.DenotesNumber n := by
  cases x with
  | int i =>
    simp only [ofOperand, FieldType.isNumeric, Operand.DenotesNumber]
    split
    · rw [Except.ok.injEq, Scalar.number.injEq]
      omega
    · refine iff_of_false (fun h => by cases h) ?_
      omega
  | text s =>
    simp only [ofOperand, FieldType.isNumeric, Operand.DenotesNumber]
    rw [← Text.unsigned64?_eq_some_iff]
    cases Text.unsigned64? (Text.trimChars s.toList) <;> simp
  | list xs | range lo hi => exact iff_of_false (fun h => by cases h) id

theorem Scalar.ofOperand_uint (x : Operand) :
    (∃ n, ofOperand .uint x = .ok (.number n)) ∨ ofOperand .uint x = .error .notUnsigned := by
  cases x with
  | int i =>
    simp only [ofOperand, FieldType.isNumeric]
    split
    · exact .inl ⟨_, rfl⟩
    · exact .inr rfl
  | text s =>
    simp only [ofOperand, FieldType.isNumeric]
    cases Text.unsigned64? (Text.trimChars s.toList) with
    | some n => exact .inl ⟨n, rfl⟩
    | none => exact .inr rfl
  | list xs | range lo hi => exact .inr rfl

/-- There is a scalar, or else the fault of having none. -/
theorem Scalar.ofOperand_cases (type : FieldType) (x : Operand) :
    x.IsScalarOf type ∧ (∃ v, ofOperand type x = .ok v) ∨
    ¬ x.IsScalarOf type ∧ ofOperand type x = .error type.scalarFault := by
  cases type with
  | uint =>
    rcases ofOperand_uint x with ⟨n, h⟩ | h
    · exact .inl ⟨⟨n, ofOperand_eq_number_iff.1 h⟩, _, h⟩
    · refine .inr ⟨?_, h⟩
      rintro ⟨n, hn⟩
      rw [ofOperand_eq_number_iff.2 hn] at h
      cases h
  | literal | text =>
    cases x with
    | text s | int i => exact .inl ⟨trivial, _, rfl⟩
    | list xs | range lo hi => exact .inr ⟨id, rfl⟩

theorem Clause.exists_scalar_iff : (∃ v, Clause.scalar field type x = .ok v) ↔ x.IsScalarOf type := by
  simp only [scalar_eq_ok]
  rcases Scalar.ofOperand_cases type x with ⟨hx, hv⟩ | ⟨hx, hfault⟩
  · exact iff_of_true hv hx
  · exact iff_of_false (by rw [hfault]; nofun) hx

theorem Clause.scalar_of_not_scalar (h : ¬ x.IsScalarOf type) :
    Clause.scalar field type x = .error (.invalidOperand field x type.scalarFault) := by
  rcases Scalar.ofOperand_cases type x with ⟨hx, -⟩ | ⟨-, hfault⟩
  · exact absurd hx h
  · rw [scalar, hfault]
    rfl

/-! ## Conditions -/

theorem ofCondition_of_not_takes (h : ¬ op.Takes x) :
    Clause.ofCondition field type op x = .error (.unsupportedOperator op x) := by
  cases op <;> cases x <;> first | rfl | exact absurd trivial h

theorem ofCondition_any {xs : List Operand} (hne : xs ≠ []) : Clause.ofCondition field type .any (.list xs) =
    (xs.mapM (Clause.scalar field type)).map (.oneOf field) := by
  cases xs with
  | nil => exact absurd rfl hne
  | cons x xs => rfl

theorem ofCondition_of_unfit (h : Unfit type op x y fault) :
    Clause.ofCondition field type op x = .error (.invalidOperand field y fault) := by
  cases h with
  | top | bottom | empty => rfl
  | value hop hx =>
    rcases hop with rfl | rfl <;> rw [Clause.ofCondition, Clause.scalar_of_not_scalar hx] <;> rfl
  | @element y before after hbefore hy =>
    have hscalars : (before ++ y :: after).mapM (Clause.scalar field type) =
        .error (.invalidOperand field y type.scalarFault) :=
      mapM_eq_error_iff.2 ⟨before, y, after, rfl, fun x hx => Clause.exists_scalar_iff.2 (hbefore x hx),
        Clause.scalar_of_not_scalar hy⟩
    rw [ofCondition_any (by simp), hscalars]
    rfl

theorem exists_scalars_of_fit {xs : List Operand} (h : ∀ y fault, ¬ Unfit type .any (.list xs) y fault) :
    ∃ vs, xs.mapM (Clause.scalar field type) = .ok vs := by
  cases hvs : xs.mapM (Clause.scalar field type) with
  | ok vs => exact ⟨vs, rfl⟩
  | error e =>
    -- the first element that fails would be a fault
    obtain ⟨before, y, after, rfl, hbefore, hy⟩ := mapM_eq_error_iff.1 hvs
    have hscalars : ∀ x ∈ before, x.IsScalarOf type := fun x hx => Clause.exists_scalar_iff.1 (hbefore x hx)
    have hnone : ¬ y.IsScalarOf type := by
      intro hscalar
      obtain ⟨v, hv⟩ : ∃ v, Clause.scalar field type y = .ok v := Clause.exists_scalar_iff.2 hscalar
      rw [hv] at hy
      cases hy
    exact (h y _ (.element hscalars hnone)).elim

theorem ofCondition_of_fit (htakes : op.Takes x) (hfit : ∀ y fault, ¬ Unfit type op x y fault) :
    ∃ c, Clause.ofCondition field type op x = .ok c := by
  have hvalue (hop : op = .equals ∨ op = .notEquals) : ∃ v, Clause.scalar field type x = .ok v :=
    Clause.exists_scalar_iff.2 (Classical.byContradiction fun hx => hfit x _ (.value hop hx))
  cases op with
  | equals =>
    obtain ⟨v, hv⟩ := hvalue (.inl rfl)
    exact ⟨_, by rw [Clause.ofCondition, hv]; rfl⟩
  | notEquals =>
    obtain ⟨v, hv⟩ := hvalue (.inr rfl)
    exact ⟨_, by rw [Clause.ofCondition, hv]; rfl⟩
  | any =>
    cases x with
    | list xs =>
      have hne : xs ≠ [] := by
        rintro rfl
        exact hfit _ _ .empty
      obtain ⟨vs, hvs⟩ : ∃ vs, xs.mapM (Clause.scalar field type) = .ok vs := exists_scalars_of_fit hfit
      exact ⟨.oneOf field vs, by rw [ofCondition_any hne, hvs]; rfl⟩
    | _ => exact htakes.elim
  | withinRange =>
    cases x with
    | text s => exact ⟨_, rfl⟩
    | range lo hi => exact ⟨_, rfl⟩
    | _ => exact htakes.elim
  | greater =>
    cases x with
    | int i =>
      have hi : i ≠ Int64.maxValue := by
        rintro rfl
        exact hfit _ _ .top
      exact ⟨_, by rw [Clause.ofCondition, if_neg hi]⟩
    | _ => exact htakes.elim
  | less =>
    cases x with
    | int i =>
      have hi : i ≠ Int64.minValue := by
        rintro rfl
        exact hfit _ _ .bottom
      exact ⟨_, by rw [Clause.ofCondition, if_neg hi]⟩
    | _ => exact htakes.elim
  | greaterOrEqual | lessOrEqual =>
    cases x with
    | int i => exact ⟨_, rfl⟩
    | _ => exact htakes.elim

/-- A condition is refused just if its operator does not take the operand, or if the operand is not fit. -/
theorem ofCondition_eq_error_iff (e : QueryError) : Clause.ofCondition field type op x = .error e ↔
    e = .unsupportedOperator op x ∧ ¬ op.Takes x ∨ ∃ y fault, e = .invalidOperand field y fault ∧ Unfit type op x y fault := by
  constructor
  · intro h
    by_cases htakes : op.Takes x
    · by_cases hfit : ∃ y fault, Unfit type op x y fault
      · obtain ⟨y, fault, hunfit⟩ := hfit
        rw [ofCondition_of_unfit hunfit] at h
        cases h
        exact .inr ⟨y, fault, rfl, hunfit⟩
      · simp only [not_exists] at hfit
        obtain ⟨c, hc⟩ : ∃ c, Clause.ofCondition field type op x = .ok c := ofCondition_of_fit htakes hfit
        rw [hc] at h
        cases h
    · rw [ofCondition_of_not_takes htakes] at h
      cases h
      exact .inl ⟨rfl, htakes⟩
  · rintro (⟨rfl, htakes⟩ | ⟨y, fault, rfl, hunfit⟩)
    · exact ofCondition_of_not_takes htakes
    · exact ofCondition_of_unfit hunfit

theorem exists_ofCondition_iff : (∃ c, Clause.ofCondition field type op x = .ok c) ↔
    op.Takes x ∧ ∀ y fault, ¬ Unfit type op x y fault := by
  refine ⟨?_, fun h => ofCondition_of_fit h.1 h.2⟩
  rintro ⟨c, hc⟩
  refine ⟨Classical.byContradiction fun h => ?_, fun y fault h => ?_⟩
  · rw [ofCondition_of_not_takes h] at hc
    cases hc
  · rw [ofCondition_of_unfit h] at hc
    cases hc

/-! ## Equality -/

theorem ofCondition_equals_eq_ok_iff {c : Clause} : Clause.ofCondition field type .equals x = .ok c ↔
    ∃ v, Clause.scalar field type x = .ok v ∧ .equals field v = c := by
  rw [Clause.ofCondition, map_eq_ok]

theorem ofCondition_of_number (h : x.DenotesNumber n) :
    Clause.ofCondition field .uint .equals x = .ok (.equals field (.number n)) :=
  ofCondition_equals_eq_ok_iff.2 ⟨_, scalar_eq_ok.2 (Scalar.ofOperand_eq_number_iff.2 h), rfl⟩

theorem render_equals_inj {v w : Scalar} :
    (Clause.equals field v).render = (Clause.equals field w).render ↔ v = w :=
  Clause.term_inj.trans Scalar.render_inj

/-- A list is taken just if it has elements and each is taken for equality, and its clause puts theirs
together. -/
theorem ofCondition_any_eq_ok_iff {xs : List Operand} {c : Clause} :
    Clause.ofCondition field type .any (.list xs) = .ok c ↔ xs ≠ [] ∧
      ∃ vs, List.Forall₂ (fun x v => Clause.ofCondition field type .equals x = .ok (.equals field v)) xs vs ∧
        .oneOf field vs = c := by
  by_cases hne : xs = []
  · subst hne
    exact iff_of_false nofun (fun h => h.1 rfl)
  · have hequals (x : Operand) (v : Scalar) : Clause.scalar field type x = .ok v ↔
        Clause.ofCondition field type .equals x = .ok (.equals field v) := by
      simp [ofCondition_equals_eq_ok_iff]
    rw [ofCondition_any hne, map_eq_ok]
    simp only [← hequals]
    constructor
    · rintro ⟨vs, hvs, hc⟩
      exact ⟨hne, vs, forall₂_of_mapM hvs, hc⟩
    · rintro ⟨-, vs, hvs, hc⟩
      exact ⟨vs, mapM_of_forall₂ hvs, hc⟩

theorem exists_ofCondition_any_iff {xs : List Operand} : (∃ c, Clause.ofCondition field type .any (.list xs) = .ok c) ↔
    xs ≠ [] ∧ ∀ x ∈ xs, ∃ c, Clause.ofCondition field type .equals x = .ok c := by
  have hequals (x : Operand) : (∃ c, Clause.ofCondition field type .equals x = .ok c) ↔
      ∃ v, Clause.ofCondition field type .equals x = .ok (.equals field v) := by
    simp [ofCondition_equals_eq_ok_iff]
  simp only [hequals, ← exists_forall₂_iff, ofCondition_any_eq_ok_iff]
  constructor
  · rintro ⟨c, hne, vs, hvs, -⟩
    exact ⟨hne, vs, hvs⟩
  · rintro ⟨hne, vs, hvs⟩
    exact ⟨_, hne, vs, hvs, rfl⟩

/-- A condition is refused with its operator just if the operator does not take the operand, with an operand
just if that is not fit, and otherwise it becomes a clause. On unsigned fields operands that denote numbers
have the same clause of equality just if they denote the same. A list becomes a clause just if it has elements
and each does for equality, and its clause is the `or` of theirs. -/
theorem conditions_accepted_iff_fit (field : String) (type : FieldType) :
    (∀ op x e, Clause.ofCondition field type op x = .error e ↔
      e = .unsupportedOperator op x ∧ ¬ op.Takes x ∨
      ∃ y fault, e = .invalidOperand field y fault ∧ Unfit type op x y fault) ∧
    (∀ op x, (∃ c, Clause.ofCondition field type op x = .ok c) ↔ op.Takes x ∧ ∀ y fault, ¬ Unfit type op x y fault) ∧
    (∀ x y m n, x.DenotesNumber m → y.DenotesNumber n →
      ∃ c d : Clause, Clause.ofCondition field .uint .equals x = .ok c ∧ Clause.ofCondition field .uint .equals y = .ok d ∧
        c.render = field ++ ":" ++ toString m ∧ (c.render = d.render ↔ m = n)) ∧
    (∀ xs, (∃ c, Clause.ofCondition field type .any (.list xs) = .ok c) ↔
      xs ≠ [] ∧ ∀ x ∈ xs, ∃ c, Clause.ofCondition field type .equals x = .ok c) ∧
    ∀ xs c, Clause.ofCondition field type .any (.list xs) = .ok c →
      ∃ cs, List.Forall₂ (fun x c' => Clause.ofCondition field type .equals x = .ok c') xs cs ∧
        c.render = "(or " ++ " ".intercalate (cs.map Clause.render) ++ ")" := by
  refine ⟨fun op x e => ofCondition_eq_error_iff e, fun op x => exists_ofCondition_iff, ?_,
    fun xs => exists_ofCondition_any_iff, ?_⟩
  · intro x y m n hx hy
    refine ⟨_, _, ofCondition_of_number hx, ofCondition_of_number hy, rfl, ?_⟩
    rw [render_equals_inj, Scalar.number.injEq]
  · intro xs c hc
    obtain ⟨-, vs, hvs, rfl⟩ := ofCondition_any_eq_ok_iff.1 hc
    refine ⟨vs.map (.equals field), List.forall₂_map_right_iff.2 hvs, ?_⟩
    rw [List.map_map]
    rfl

/-- A number has one clause, be it an integer or a text with a sign, zeros and blanks. -/
theorem conditions_accepted_iff_fit_stars :
    let seven : Operand := .int 7
    let written : Operand := .text " +007 "
    seven.DenotesNumber 7 ∧ written.DenotesNumber 7 ∧
    ∃ c d : Clause, Clause.ofCondition "stars" .uint .equals seven = .ok c ∧
      Clause.ofCondition "stars" .uint .equals written = .ok d ∧ c.render = "stars:7" ∧ c.render = d.render := by
  intro seven written
  have hseven : seven.DenotesNumber 7 := by
    change (7 : Int64).toInt = 7
    decide
  have hwritten : written.DenotesNumber 7 := ⟨['0', '0', '7'], .inr rfl, by simp, by simp, rfl, by decide⟩
  obtain ⟨-, -, hsame, -⟩ := conditions_accepted_iff_fit "stars" .uint
  obtain ⟨c, d, hc, hd, hrender, hiff⟩ := hsame seven written 7 7 hseven hwritten
  exact ⟨hseven, hwritten, c, d, hc, hd, hrender, hiff.2 rfl⟩

end SearchIndex
