import SearchIndex.Number.Shortest

/-!
JSON values. An object is the list of its members; whoever makes one decides on their order.
-/

namespace SearchIndex

namespace Json

/-- A number is an integer of at most 64 bits if it was written as one, else a double. -/
inductive Number where
  | int (n : Int)
  | double (x : Binary64)
  deriving DecidableEq, Repr, Inhabited

/-- Positional up to sixteen digits before the point and four zeros after it, always with a digit
after the point; else scientific, the exponent always with its sign. -/
def doubleText (x : Binary64) : String :=
  let sign := if x.isNegative then "-" else ""
  if x.isZero then sign ++ "0.0" else
    let d := x.shortest
    let digits := Nat.toDigits 10 d.digits
    let lead : Int := d.exponent + digits.length - 1
    let body : List Char :=
      if -5 ≤ lead ∧ lead ≤ 15 then
        if 0 ≤ d.exponent then digits ++ List.replicate d.exponent.toNat '0' ++ ['.', '0']
        else if 0 ≤ lead then digits.take (lead + 1).toNat ++ '.' :: digits.drop (lead + 1).toNat
        else '0' :: '.' :: List.replicate (-lead - 1).toNat '0' ++ digits
      else
        digits.take 1 ++ (if digits.length = 1 then [] else '.' :: digits.drop 1)
          ++ (if lead < 0 then ['e', '-'] else ['e', '+']) ++ Nat.toDigits 10 lead.natAbs
    sign ++ .ofList body

/-- The text of a number. -/
def Number.text : Number → String
  | .int n => toString n
  | .double x => doubleText x

end Json

inductive Json where
  | null
  | bool (b : Bool)
  | number (n : Json.Number)
  | string (s : String)
  | array (items : List Json)
  | object (members : List (String × Json))
  deriving Repr, Inhabited

namespace Json

/-- A natural number as JSON. -/
def natural (n : Nat) : Json := .number (.int n)

/-- The member of an object. -/
def member? (name : String) : Json → Option Json
  | .object members => members.lookup name
  | _ => none

def isNull : Json → Bool
  | .null => true
  | _ => false

/-- The text of a boolean. -/
def boolText (b : Bool) : String := if b then "true" else "false"

end Json

end SearchIndex
