import SearchIndex.Json.Basic

/-!
Values of fields in documents. Documents know no null: a value that is missing is left out.
-/

namespace SearchIndex

inductive FieldValue where
  | text (s : String)
  | uint (n : Nat)
  /-- Several values of one field. -/
  | list (items : List FieldValue)
  deriving Repr, Inhabited

namespace FieldValue

/-- An empty list holds nothing that could be written. -/
def isEmpty : FieldValue → Bool
  | list [] => true
  | _ => false

mutual

/-- The field value of a JSON value. Null and objects have none; booleans and all numbers but the
natural ones become text. -/
def ofJson? : Json → Option FieldValue
  | .null => none
  | .bool b => some (text (Json.boolText b))
  | .number (.int (.ofNat n)) => some (uint n)
  | .number n => some (text n.text)
  | .string s => some (text s)
  | .array items => some (list (ofItems items))
  | .object _ => none

/-- The values of the elements that have one. -/
def ofItems : List Json → List FieldValue
  | [] => []
  | j :: rest =>
    match ofJson? j with
    | some v => v :: ofItems rest
    | none => ofItems rest

end

mutual

def toJson : FieldValue → Json
  | text s => .string s
  | uint n => .natural n
  | list items => .array (toItems items)

def toItems : List FieldValue → List Json
  | [] => []
  | v :: rest => toJson v :: toItems rest

end

end FieldValue

end SearchIndex
