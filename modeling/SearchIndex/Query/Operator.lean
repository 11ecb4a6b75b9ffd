import SearchIndex.Text.Blank

/-!
The operators of conditions and the ways to write them.
-/

namespace SearchIndex

inductive Operator where
  | equals
  | notEquals
  /-- Equal to one of a list. -/
  | any
  | withinRange
  | greater
  | greaterOrEqual
  | less
  | lessOrEqual
  deriving DecidableEq, Repr, Inhabited

namespace Operator

def symbol : Operator → String
  | equals => "=="
  | notEquals => "!="
  | any => "any"
  | withinRange => "within_range"
  | greater => ">"
  | greaterOrEqual => ">="
  | less => "<"
  | lessOrEqual => "<="

/-- The operator with this spelling. -/
def spelled? : String → Option Operator
  | "==" | "=" | "eq" => some equals
  | "!=" | "ne" => some notEquals
  | "any" => some any
  | "within_range" | "range" => some withinRange
  | ">" | "gt" => some greater
  | ">=" | "ge" => some greaterOrEqual
  | "<" | "lt" => some less
  | "<=" | "le" => some lessOrEqual
  | _ => none

/-- Reads an operator with blanks around it. -/
def parse? (s : String) : Option Operator := spelled? (Text.trim s)

end Operator

end SearchIndex
