import SearchIndex.CommandLine.Condition
import SearchIndex.Proofs.Query.Grammar
import SearchIndex.Proofs.Results
import SearchIndex.Query.Request
import SearchIndex.Schema.Basic

/-!
# What boolean queries and conditions mean

A formula is true or false of a document, and so is a condition. A clause is spelled as its formula
says, and the formula is true of the documents that satisfy the condition: `Clause.render_spelled`,
`ClauseOf.holds`.
-/

namespace SearchIndex

/-- The values of a document's fields. -/
abbrev Document := String → Option FieldValue

/-- The documents hold unsigned integers in unsigned fields and texts in the others. -/
def FieldType.Admits : FieldType → FieldValue → Prop
  | .uint, .uint _ => True
  | .literal, .text _ => True
  | .text, .text _ => True
  | _, _ => False

/-! ## Formulas -/

namespace Test

def Holds : Test → FieldValue → Prop
  | equals (.quoted s), .text t => t = s
  | equals (.number n), .uint m => m = n
  | range lo hi, .uint m => (∀ l ∈ lo, l ≤ m) ∧ ∀ h ∈ hi, (m : Int) ≤ h
  | _, _ => False

end Test

namespace Formula

variable (doc : Document)

mutual

def Holds : Formula → Prop
  | test field t => ∃ v ∈ doc field, t.Holds v
  | node .and parts => AllHold parts
  | node .or parts => AnyHolds parts
  | node .not parts => ¬ AnyHolds parts

def AllHold : List Formula → Prop
  | [] => True
  | f :: rest => f.Holds ∧ AllHold rest

def AnyHolds : List Formula → Prop
  | [] => False
  | f :: rest => f.Holds ∨ AnyHolds rest

end

theorem allHold_iff {fs : List Formula} : AllHold doc fs ↔ ∀ f ∈ fs, f.Holds doc := by
  induction fs with
  | nil => simp [AllHold]
  | cons f fs ih => simp [AllHold, ih]

theorem anyHolds_iff {fs : List Formula} : AnyHolds doc fs ↔ ∃ f ∈ fs, f.Holds doc := by
  induction fs with
  | nil => simp [AnyHolds]
  | cons f fs ih => simp [AnyHolds, ih]

end Formula

/-! ## Conditions -/

/-- The value is the one that the operand stands for: a text stands for the number it reads as on
unsigned fields, and an integer for its decimal notation on the others. -/
def Operand.Denotes : Operand → FieldValue → Prop
  | text s, .text t => t = s
  | text s, .uint m => Text.unsigned64? (Text.trimChars s.toList) = some m
  | int n, .text t => t = toString n.toInt
  | int n, .uint m => (m : Int) = n.toInt
  | _, _ => False

namespace Condition

/-- What the operator says of a value. -/
def Accepts : Operator → Operand → FieldValue → Prop
  | .equals, x, v => x.Denotes v
  | .notEquals, x, v => ¬ x.Denotes v
  | .any, .list xs, v => ∃ x ∈ xs, x.Denotes v
  | .withinRange, .range lo hi, .uint m => lo.toInt ≤ m ∧ (m : Int) ≤ hi.toInt
  | .greater, .int n, .uint m => n.toInt < m
  | .greaterOrEqual, .int n, .uint m => n.toInt ≤ m
  | .less, .int n, .uint m => (m : Int) < n.toInt
  | .lessOrEqual, .int n, .uint m => (m : Int) ≤ n.toInt
  | _, _, _ => False

def Holds (doc : Document) (c : Condition) : Prop := ∃ v ∈ doc c.field, Accepts c.op c.operand v

end Condition

/-! ## From clauses to formulas -/

namespace Clause

def field : Clause → String
  | equals f _ | differs f _ | oneOf f _ | atLeast f _ | atMost f _ | between f _ _ | within f _ => f

/-- Whether the clause is made from values: not from a range that the caller wrote out, and not from
no values at all. -/
def IsMade : Clause → Prop
  | within _ _ => False
  | oneOf _ vs => vs ≠ []
  | _ => True

/-- What a clause made from values says. -/
def formula : Clause → Formula
  | equals f v => .test f (.equals v)
  | differs f v => .node .not [.test f (.equals v)]
  | oneOf f vs => .node .or (vs.map fun v => .test f (.equals v))
  | atLeast f n => .test f (.range (some n) none)
  | atMost f n => .test f (.range none (some n))
  | between f lo hi => .test f (.range (some lo) (some hi))
  | within f _ => .test f (.range none none)

end Clause

theorem escaped_quoteChars (s : List Char) : Escaped s (quoteChars s) := by
  induction s with
  | nil => exact .nil
  | cons c s ih =>
    by_cases h : c = '\\' ∨ c = '\''
    · simpa only [quoteChars, if_pos h] using Escaped.escape h ih
    · simp only [quoteChars, if_neg h]
      simp only [not_or] at h
      exact .plain h.1 h.2 ih

theorem Scalar.render_spelled (v : Scalar) : (Test.equals v).Spelled v.render.toList := by
  cases v with
  | quoted s => exact ⟨quoteChars s.toList, escaped_quoteChars _, by simp [render]⟩
  | number n => simpa [Test.Spelled, render] using Text.digits?_toDigits n

/-- Different values are never written alike. -/
theorem Scalar.render_inj {v w : Scalar} : v.render = w.render ↔ v = w := by
  refine ⟨fun h => ?_, congrArg Scalar.render⟩
  have hend : Ends [] := by simp [Ends]
  have htests := (Test.spelled_unique v.render_spelled w.render_spelled hend hend (by rw [h])).1
  cases htests
  rfl

theorem Clause.term_inj {f v w : String} : term f v = term f w ↔ v = w := by
  refine ⟨fun h => ?_, congrArg (term f)⟩
  have hlists := congrArg String.toList h
  simp only [term, String.toList_append] at hlists
  exact String.toList_inj.1 (List.append_cancel_left hlists)

theorem boundSpelled_toString (n : Int) : BoundSpelled (some n) (toString n).toList := Text.integer?_toString n

theorem term_spelled {f : String} {t : Test} {text : String} (hf : IsWord f.toList) (h : t.Spelled text.toList) :
    (Formula.test f t).Spelled (Clause.term f text).toList :=
  ⟨hf, text.toList, h, by simp [Clause.term]⟩

/-- Parts with blanks between them, after a blank. -/
theorem spelledAll_intercalate {α : Type} {f : α → Formula} {text : α → String} {xs : List α}
    (h : ∀ x ∈ xs, (f x).Spelled (text x).toList) (hne : xs ≠ []) :
    Formula.SpelledAll (xs.map f) (' ' :: (" ".intercalate (xs.map text)).toList) := by
  induction xs with
  | nil => exact absurd rfl hne
  | cons x xs ih =>
    cases xs with
    | nil => exact ⟨(text x).toList, [], h x (by simp), rfl, by simp⟩
    | cons y ys => exact ⟨(text x).toList, _, h x (by simp), ih (fun z hz => h z (by simp [hz])) (by simp), by simp⟩

/-- A clause on a field with a plain name is spelled as its formula says. -/
theorem Clause.render_spelled {c : Clause} (hc : c.IsMade) (hf : IsWord c.field.toList) :
    c.formula.Spelled c.render.toList := by
  cases c with
  | equals g v => exact term_spelled hf v.render_spelled
  | differs g v =>
    have hv : Formula.SpelledAll [.test g (.equals v)] (' ' :: (term g v.render).toList) :=
      ⟨_, [], term_spelled hf v.render_spelled, rfl, by simp⟩
    exact ⟨rfl, _, hv, by simp [render, Connective.word]⟩
  | oneOf g vs =>
    refine ⟨?_, _, spelledAll_intercalate (fun v _ => term_spelled hf v.render_spelled) hc, ?_⟩
    · simpa [Connective.Takes] using List.length_pos_iff.2 hc
    · simp [render, Connective.word]
  | atLeast g n => exact term_spelled hf ⟨by simp, _, [], boundSpelled_toString n, rfl, by simp⟩
  | atMost g n => exact term_spelled hf ⟨by simp, [], _, rfl, boundSpelled_toString n, by simp⟩
  | between g lo hi =>
    exact term_spelled hf ⟨by simp, _, _, boundSpelled_toString lo, boundSpelled_toString hi, by simp⟩
  | within g s => exact hc.elim

/-- Several clauses are the parts of an `and`, and a single one is the whole query. -/
def conjunction : List Formula → Formula
  | [f] => f
  | fs => .node .and fs

theorem joinClauses_spelled {cs : List Clause} (hne : cs ≠ []) (hc : ∀ c ∈ cs, c.IsMade)
    (hf : ∀ c ∈ cs, IsWord c.field.toList) :
    ∃ text, joinClauses (cs.map Clause.render) = some text ∧
      (conjunction (cs.map Clause.formula)).Spelled text.toList := by
  have hs : ∀ c ∈ cs, c.formula.Spelled c.render.toList := fun c h => Clause.render_spelled (hc c h) (hf c h)
  match cs, hne with
  | [c], _ => exact ⟨c.render, rfl, hs c (by simp)⟩
  | c :: d :: cs, _ =>
    refine ⟨_, rfl, by simp [Connective.Takes], _, spelledAll_intercalate hs (by simp), ?_⟩
    simp [Connective.word]

theorem conjunction_holds (doc : Document) (fs : List Formula) :
    (conjunction fs).Holds doc ↔ ∀ f ∈ fs, f.Holds doc := by
  unfold conjunction
  split
  · simp
  · exact Formula.allHold_iff doc

/-! ## From conditions to clauses -/

/-- The scalar of an operand is the value that the operand stands for. -/
theorem Scalar.ofOperand_holds {type : FieldType} {x : Operand} {s : Scalar} {v : FieldValue}
    (h : ofOperand type x = .ok s) (hv : type.Admits v) : (Test.equals s).Holds v ↔ x.Denotes v := by
  cases type <;> cases v <;> simp only [FieldType.Admits] at hv <;> cases x <;>
    simp only [ofOperand, FieldType.isNumeric, reduceCtorEq, Except.ok.injEq] at h
  · subst h; rfl
  · subst h; rfl
  · split at h
    · rename_i s m n hn; cases h; simp [Test.Holds, Operand.Denotes, hn, eq_comm]
    · cases h
  · split at h
    · cases h; simp only [Test.Holds, Operand.Denotes]; omega
    · cases h
  · subst h; rfl
  · subst h; rfl

theorem scalar_eq_ok {f : String} {type : FieldType} {x : Operand} {s : Scalar} :
    Clause.scalar f type x = .ok s ↔ Scalar.ofOperand type x = .ok s := mapError_eq_ok

/-- The clause of each accepted condition on a field. -/
inductive ClauseOf (f : String) (type : FieldType) : Operator → Operand → Clause → Prop
  | equals {x s} : Scalar.ofOperand type x = .ok s → ClauseOf f type .equals x (.equals f s)
  | differs {x s} : Scalar.ofOperand type x = .ok s → ClauseOf f type .notEquals x (.differs f s)
  | oneOf {xs ss} : xs ≠ [] → xs.mapM (Clause.scalar f type) = .ok ss → ClauseOf f type .any (.list xs) (.oneOf f ss)
  | within {s} : ClauseOf f type .withinRange (.text s) (.within f s)
  | between {lo hi} : ClauseOf f type .withinRange (.range lo hi) (.between f lo.toInt hi.toInt)
  | above {n} : ClauseOf f type .greater (.int n) (.atLeast f (n.toInt + 1))
  | atLeast {n} : ClauseOf f type .greaterOrEqual (.int n) (.atLeast f n.toInt)
  | below {n} : ClauseOf f type .less (.int n) (.atMost f (n.toInt - 1))
  | atMost {n} : ClauseOf f type .lessOrEqual (.int n) (.atMost f n.toInt)

theorem clauseOf_of_ok {f : String} {type : FieldType} {op : Operator} {x : Operand} {c : Clause}
    (h : Clause.ofCondition f type op x = .ok c) : ClauseOf f type op x c := by
  unfold Clause.ofCondition at h
  split at h
  · obtain ⟨s, hs, rfl⟩ := map_eq_ok.1 h
    exact .equals (scalar_eq_ok.1 hs)
  · obtain ⟨s, hs, rfl⟩ := map_eq_ok.1 h
    exact .differs (scalar_eq_ok.1 hs)
  · cases h
  · rename_i xs hne
    obtain ⟨ss, hs, rfl⟩ := map_eq_ok.1 h
    exact .oneOf (fun e => hne e) hs
  · cases h; exact .within
  · cases h; exact .between
  · split at h <;> cases h; exact .above
  · cases h; exact .atLeast
  · split at h <;> cases h; exact .below
  · cases h; exact .atMost
  · cases h

/-- The operators that only mean something on numbers. -/
def Operator.IsOrder : Operator → Prop
  | .withinRange | .greater | .greaterOrEqual | .less | .lessOrEqual => True
  | _ => False

theorem ClauseOf.field_eq {f : String} {type : FieldType} {op : Operator} {x : Operand} {c : Clause}
    (h : ClauseOf f type op x c) : c.field = f := by
  cases h <;> rfl

/-- Only a range that the caller wrote out stands in a clause as it is. -/
theorem ClauseOf.of_within {f g s : String} {type : FieldType} {op : Operator} {x : Operand}
    (h : ClauseOf f type op x (.within g s)) : op = .withinRange ∧ x = .text s := by
  cases h
  exact ⟨rfl, rfl⟩

theorem ClauseOf.isMade {f : String} {type : FieldType} {op : Operator} {x : Operand} {c : Clause}
    (h : ClauseOf f type op x c) (hr : ∀ s, op = .withinRange → x ≠ .text s) : c.IsMade ∧ c.field = f := by
  cases h with
  | oneOf hne hs =>
    refine ⟨?_, rfl⟩
    rintro rfl
    exact hne (List.forall₂_nil_right_iff.1 (forall₂_of_mapM hs))
  | within => exact absurd rfl (hr _ rfl)
  | _ => exact ⟨trivial, rfl⟩

theorem range_holds {doc : Document} {f : String} {m : Nat} (hdoc : doc f = some (.uint m)) (lo hi : Option Int) :
    (Formula.test f (.range lo hi)).Holds doc ↔ (∀ l ∈ lo, l ≤ m) ∧ ∀ h ∈ hi, (m : Int) ≤ h := by
  simp [Formula.Holds, hdoc, Test.Holds]

theorem atLeast_holds {doc : Document} {f : String} {m : Nat} (hdoc : doc f = some (.uint m)) (n : Int) :
    (Formula.test f (.range (some n) none)).Holds doc ↔ n ≤ m := by
  simp [range_holds hdoc]

theorem atMost_holds {doc : Document} {f : String} {m : Nat} (hdoc : doc f = some (.uint m)) (n : Int) :
    (Formula.test f (.range none (some n))).Holds doc ↔ (m : Int) ≤ n := by
  simp [range_holds hdoc]

/-- A clause is true of the values that its condition accepts. -/
theorem ClauseOf.holds {f : String} {type : FieldType} {op : Operator} {x : Operand} {c : Clause} {doc : Document}
    {v : FieldValue} (h : ClauseOf f type op x c) (hr : ∀ s, op = .withinRange → x ≠ .text s)
    (hn : op.IsOrder → type = .uint) (hdoc : doc f = some v) (hv : type.Admits v) :
    c.formula.Holds doc ↔ Condition.Accepts op x v := by
  have numeric : op.IsOrder → ∃ m, v = .uint m := by
    intro ho
    obtain rfl := hn ho
    cases v <;> simp_all [FieldType.Admits]
  cases h with
  | equals hs => simp [Clause.formula, Formula.Holds, hdoc, Condition.Accepts, Scalar.ofOperand_holds hs hv]
  | differs hs =>
    simp [Clause.formula, Formula.Holds, Formula.AnyHolds, hdoc, Condition.Accepts, Scalar.ofOperand_holds hs hv]
  | oneOf hne hs =>
    rw [Clause.formula, Formula.Holds, Formula.anyHolds_iff]
    rw [Condition.Accepts, forall₂_exists (forall₂_of_mapM hs)
      fun x _ s hxs => (Scalar.ofOperand_holds (scalar_eq_ok.1 hxs) hv).symm]
    constructor
    · rintro ⟨_, hm, hf⟩
      obtain ⟨s, hs, rfl⟩ := List.mem_map.1 hm
      exact ⟨s, hs, by simpa [Formula.Holds, hdoc] using hf⟩
    · rintro ⟨s, hs, hf⟩
      exact ⟨_, List.mem_map_of_mem hs, by simpa [Formula.Holds, hdoc] using hf⟩
  | within => exact absurd rfl (hr _ rfl)
  | between =>
    obtain ⟨m, rfl⟩ := numeric trivial
    simp [Clause.formula, range_holds hdoc, Condition.Accepts]
  | above =>
    obtain ⟨m, rfl⟩ := numeric trivial
    exact (atLeast_holds hdoc _).trans Int.add_one_le_iff
  | atLeast =>
    obtain ⟨m, rfl⟩ := numeric trivial
    exact atLeast_holds hdoc _
  | below =>
    obtain ⟨m, rfl⟩ := numeric trivial
    exact (atMost_holds hdoc _).trans Int.le_sub_one_iff
  | atMost =>
    obtain ⟨m, rfl⟩ := numeric trivial
    exact atMost_holds hdoc _

end SearchIndex
