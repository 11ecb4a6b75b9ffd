import SearchIndex.Json.Reader

/-!
Reading typed records out of JSON values. A record is an object, whose unknown members are ignored,
or an array of its members in their order.
-/

namespace SearchIndex.Json

def asString? : Json → Option String
  | .string s => some s
  | _ => none

def asBool? : Json → Option Bool
  | .bool b => some b
  | _ => none

/-- A natural number; a double is none, even a whole one. -/
def asNatural? : Json → Option Nat
  | .number (.int (.ofNat n)) => some n
  | _ => none

/-- Every element of an array. -/
def asList? {α : Type} (read : Json → Option α) : Json → Option (List α)
  | .array items => items.mapM read
  | _ => none

/-- The members of a record by name. An array may be shorter than the record, not longer. -/
def record? (names : List String) : Json → Option (String → Option Json)
  | .object members => some fun name => members.lookup name
  | .array items =>
    if items.length ≤ names.length then some fun name => (names.zip items).lookup name else none
  | _ => none

/-- The members of a record that admits no unknown ones. -/
def closedRecord? (names : List String) (j : Json) : Option (String → Option Json) :=
  match j with
  | .object members => if members.all fun m => m.1 ∈ names then j.record? names else none
  | _ => j.record? names

/-- A member that has to be there. -/
def required? {α : Type} (read : Json → Option α) (j : Option Json) : Option α := j.bind read

/-- A member that may be absent, but not null. -/
def withDefault? {α : Type} (default : α) (read : Json → Option α) : Option Json → Option α
  | none => some default
  | some j => read j

/-- A member that may be absent or null. -/
def optional? {α : Type} (read : Json → Option α) : Option Json → Option (Option α)
  | none => some none
  | some .null => some none
  | some j => (read j).map some

end SearchIndex.Json
