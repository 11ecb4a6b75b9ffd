import SearchIndex.Query.Operand
import SearchIndex.Query.Operator

/-!
Why a condition or a request is refused.
-/

namespace SearchIndex

/-- What is wrong with an operand. -/
inductive OperandFault where
  /-- A strict bound has no neighbour among the integers of 64 bits. -/
  | outOfRange
  | emptyList
  | notUnsigned
  | notSingle
  deriving DecidableEq, Repr, Inhabited

def OperandFault.reason : OperandFault → String
  | outOfRange => "integer out of range"
  | emptyList => "empty value list"
  | notUnsigned => "expected an unsigned integer"
  | notSingle => "expected a single value"

inductive QueryError where
  /-- No operator is spelled like this. -/
  | unknownOperator (text : String)
  /-- The operator does not take operands of this shape. -/
  | unsupportedOperator (op : Operator) (operand : Operand)
  | invalidOperand (field : String) (operand : Operand) (fault : OperandFault)
  | emptyRank (expression : String)
  | emptyReturnField (name : String)
  /-- Neither free text nor any clause was given. -/
  | noClauses
  deriving Repr, Inhabited

namespace QueryError

def unsupported (op shown : String) : String := s!"unsupported operator '{op}' for value {shown}"

def invalid (shown field reason : String) : String :=
  s!"invalid value {shown} for field '{field}': {reason}"

def message : QueryError → String
  | unknownOperator text => unsupported text ""
  | unsupportedOperator op operand => unsupported op.symbol operand.display
  | invalidOperand field operand fault => invalid operand.display field fault.reason
  | emptyRank expression => invalid expression "rank" "empty rank expression"
  | emptyReturnField name => invalid name "return-fields" "empty field name"
  | noClauses => "no search terms were specified"

end QueryError

/-- Reads an operator; the message names the spelling without the blanks around it. -/
def Operator.parse (s : String) : Except QueryError Operator :=
  match Operator.parse? s with
  | some op => .ok op
  | none => .error (.unknownOperator (Text.trim s))

end SearchIndex
