import SearchIndex.Query.Error
import SearchIndex.Query.FieldType
import SearchIndex.Text.Integer

/-!
Clauses: the terms of the remote boolean query grammar. A condition, that is a field, an operator
and an operand, becomes a clause if the operand fits the operator and the type of the field.

| operator | clause |
|---|---|
| `==` | `f:'s'`, on unsigned fields `f:42` |
| `!=` | `(not f:'s')` |
| `any` | `(or f:'a' f:'b')` |
| `within_range` | `f:lo..hi` |
| `>`, `>=` | `f:n..` |
| `<`, `<=` | `f:..n` |

Bounds are inclusive, so a strict comparison moves its bound by one.
-/

namespace SearchIndex

/-- A value that a field is compared with for equality. -/
inductive Scalar where
  | quoted (s : String)
  | number (n : Nat)
  deriving DecidableEq, Repr, Inhabited

/-- Inside quotes a backslash stands before every backslash and every quote. -/
def quoteChars : List Char → List Char
  | [] => []
  | c :: cs => if c = '\\' ∨ c = '\'' then '\\' :: c :: quoteChars cs else c :: quoteChars cs

namespace Scalar

/-- A number as it is, a text in single quotes. -/
def render : Scalar → String
  | quoted s => .ofList ('\'' :: quoteChars s.toList ++ ['\''])
  | number n => toString n

/-- The value that an operand stands for on a field of the given type. An unsigned field takes
integers that are not negative and texts that read as such; the other types take texts, and
integers by their decimal notation. -/
def ofOperand (type : FieldType) (operand : Operand) : Except OperandFault Scalar :=
  match type.isNumeric, operand with
  | true, .int n => if 0 ≤ n.toInt then .ok (number n.toInt.toNat) else .error .notUnsigned
  | true, .text s =>
    match Text.unsigned64? (Text.trimChars s.toList) with
    | some n => .ok (number n)
    | none => .error .notUnsigned
  | true, _ => .error .notUnsigned
  | false, .text s => .ok (quoted s)
  | false, .int n => .ok (quoted (toString n.toInt))
  | false, _ => .error .notSingle

end Scalar

inductive Clause where
  | equals (field : String) (value : Scalar)
  | differs (field : String) (value : Scalar)
  | oneOf (field : String) (values : List Scalar)
  | atLeast (field : String) (bound : Int)
  | atMost (field : String) (bound : Int)
  | between (field : String) (lo hi : Int)
  /-- A range that was written out by the caller. -/
  | within (field : String) (range : String)
  deriving DecidableEq, Repr, Inhabited

namespace Clause

/-- The term `field:value`. -/
def term (field value : String) : String := field ++ ":" ++ value

/-- The clause in the remote grammar. -/
def render : Clause → String
  | equals f v => term f v.render
  | differs f v => "(not " ++ term f v.render ++ ")"
  | oneOf f vs => "(or " ++ " ".intercalate (vs.map fun v => term f v.render) ++ ")"
  | atLeast f n => term f (toString n ++ "..")
  | atMost f n => term f (".." ++ toString n)
  | between f lo hi => term f (toString lo ++ ".." ++ toString hi)
  | within f range => term f range

/-- A scalar of the field's type, or the operand that is none. -/
def scalar (field : String) (type : FieldType) (operand : Operand) : Except QueryError Scalar :=
  (Scalar.ofOperand type operand).mapError (.invalidOperand field operand)

/-- The clause of a condition on a field. -/
def ofCondition (field : String) (type : FieldType) (op : Operator) (operand : Operand) :
    Except QueryError Clause :=
  match op, operand with
  | .equals, v => (scalar field type v).map (equals field)
  | .notEquals, v => (scalar field type v).map (differs field)
  | .any, .list [] => .error (.invalidOperand field operand .emptyList)
  | .any, .list vs => (vs.mapM (scalar field type)).map (oneOf field)
  | .withinRange, .text s => .ok (within field s)
  | .withinRange, .range lo hi => .ok (between field lo.toInt hi.toInt)
  | .greater, .int n =>
    if n = Int64.maxValue then .error (.invalidOperand field operand .outOfRange)
    else .ok (atLeast field (n.toInt + 1))
  | .greaterOrEqual, .int n => .ok (atLeast field n.toInt)
  | .less, .int n =>
    if n = Int64.minValue then .error (.invalidOperand field operand .outOfRange)
    else .ok (atMost field (n.toInt - 1))
  | .lessOrEqual, .int n => .ok (atMost field n.toInt)
  | op, v => .error (.unsupportedOperator op v)

end Clause

end SearchIndex
