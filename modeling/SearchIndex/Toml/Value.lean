import SearchIndex.Json.Basic

/-!
TOML values. A number may be too large for every kind of number: it may stand in a document like any
other, and only a reader that looks at it fails.
-/

namespace SearchIndex.Toml

inductive Value where
  | string (s : String)
  | bool (b : Bool)
  | integer (n : Int)
  /-- A float; none if it is beyond the largest double. -/
  | float (x : Option Binary64)
  /-- A date, a time or both, as it is written. -/
  | dateTime (text : String)
  | array (items : List Value)
  | table (members : List (String × Value))
  deriving Repr, Inhabited

namespace Value

/-- An integer has at most 128 bits, with or without a sign. It stays one in 64 bits, else it is the
nearest double. -/
def integerNumber? (n : Int) : Option Json.Number :=
  if Int64.minValue.toInt ≤ n ∧ n < (UInt64.size : Nat) then some (.int n)
  else if -((1 <<< 127 : Nat) : Int) ≤ n ∧ n < ((1 <<< 128 : Nat) : Int) then
    (Binary64.ofNat? n.natAbs).map fun x => .double (if n < 0 then x.neg else x)
  else none

mutual

/-- The value as JSON, where a date is an object of its own; none if a number in it is too large. -/
def toJson? : Value → Option Json
  | .string s => some (.string s)
  | .bool b => some (.bool b)
  | .integer n => (integerNumber? n).map .number
  | .float x => x.map fun x => .number (.double x)
  | .dateTime text => some (.object [("datetime", .string text)])
  | .array items => (itemsToJson? items).map .array
  | .table members => (membersToJson? members).map .object

def itemsToJson? : List Value → Option (List Json)
  | [] => some []
  | v :: rest => do return (← v.toJson?) :: (← itemsToJson? rest)

def membersToJson? : List (String × Value) → Option (List (String × Json))
  | [] => some []
  | (name, v) :: rest => do return (name, ← v.toJson?) :: (← membersToJson? rest)

end

/-! ## Typed records -/

def asString? : Value → Option String
  | .string s => some s
  | _ => none

/-- Every element of an array. -/
def asList? {α : Type} (read : Value → Option α) : Value → Option (List α)
  | .array items => items.mapM read
  | _ => none

/-- The first elements of an array; any other value as it is. -/
def firstItems (count : Nat) : Value → Value
  | .array items => .array (items.take count)
  | v => v

/-- The members of a record by name. It is a table without unknown members, or an array of its
members in their order, whose surplus elements nobody looks at. -/
def record? (names : List String) : Value → Option (String → Option Value)
  | .table members =>
    if members.all fun m => m.1 ∈ names then some fun name => members.lookup name else none
  | .array items => some fun name => (names.zip items).lookup name
  | _ => none

end Value

end SearchIndex.Toml
