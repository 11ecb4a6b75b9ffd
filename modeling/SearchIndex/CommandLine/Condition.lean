import SearchIndex.Query.Error
import SearchIndex.Text.Integer

/-!
Conditions in words: a field, an operator and an operand, with blanks between them. Operands in
single quotes are texts; others are integers if they read as such. A list has commas between its
elements, and a range is written `lo..hi`, or is passed on as it stands.
-/

namespace SearchIndex

structure Condition where
  field : String
  op : Operator
  operand : Operand
  deriving Repr, Inhabited

/-- Why words are no condition. -/
inductive ConditionError where
  /-- There are not three parts. -/
  | incomplete
  | query (error : QueryError)
  deriving Repr, Inhabited

namespace Condition

/-- The text between single quotes, if both are there. -/
def unquoted? : List Char → Option (List Char)
  | '\'' :: rest => if rest.getLast? = some '\'' then some rest.dropLast else none
  | _ => none

/-- A single operand. -/
def scalar (cs : List Char) : Operand :=
  match unquoted? cs with
  | some inner => .text (.ofList inner)
  | none =>
    match Text.signed64? cs with
    | some n => .int n
    | none => .text (.ofList cs)

/-- The parts before and after the first two points in a row. -/
def splitAtDots : List Char → Option (List Char × List Char)
  | '.' :: '.' :: rest => some ([], rest)
  | c :: rest => (splitAtDots rest).map fun (lo, hi) => (c :: lo, hi)
  | [] => none

/-- A range of two integers, or else the text as it stands. -/
def range (cs : List Char) : Operand :=
  match splitAtDots cs with
  | none => .text (.ofList cs)
  | some (lo, hi) =>
    match Text.signed64? (Text.trimChars lo), Text.signed64? (Text.trimChars hi) with
    | some lo, some hi => .range lo hi
    | _, _ => .text (.ofList cs)

/-- The operand that an operator takes. -/
def operandFor (op : Operator) (cs : List Char) : Operand :=
  match op with
  | .any => .list ((cs.splitOn ',').map fun part => scalar (Text.trimChars part))
  | .withinRange => range cs
  | _ => scalar cs

/-- Reads a condition. -/
def parse (s : String) : Except ConditionError Condition :=
  match Text.splitAtBlank (Text.trimChars s.toList) with
  | none => .error .incomplete
  | some (field, rest) =>
    match Text.splitAtBlank (Text.trimStart rest) with
    | none => .error .incomplete
    | some (word, rest) => do
      let op ← (Operator.parse (.ofList word)).mapError .query
      return { field := .ofList field, op, operand := operandFor op (Text.trimChars rest) }

end Condition

end SearchIndex
