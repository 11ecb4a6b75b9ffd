import SearchIndex.Text.Integer
import SearchIndex.Toml.Value

/-!
The TOML values that are written without quotes or brackets: booleans, integers, floats, dates and
times. Underscores may stand between digits.
-/

namespace SearchIndex.Toml

/-- Digits without the underscores between them. -/
def groups? (isDigit : Char → Bool) (cs : List Char) : Option (List Char) :=
  let parts := cs.splitOn '_'
  if parts.all fun part => ! part.isEmpty && part.all isDigit then some parts.flatten else none

/-- Takes off a sign; true is minus. -/
def sign : List Char → Bool × List Char
  | '-' :: cs => (true, cs)
  | '+' :: cs => (false, cs)
  | cs => (false, cs)

/-- Decimal digits without leading zeros. -/
def decimal? (cs : List Char) : Option (List Char) :=
  (groups? Char.isDigit cs).filter fun ds => ds.head? ≠ some '0' || ds.length = 1

/-- The number that digits stand for in a base. -/
def valueIn (base : Nat) (ds : List Char) : Nat :=
  ds.foldl (fun n c => base * n + (Text.hexValue? c).getD 0) 0

/-- A number without a sign in the base that its first two characters name. -/
def based? : List Char → Option Nat
  | '0' :: 'x' :: cs => (groups? (fun c => (Text.hexValue? c).isSome) cs).map (valueIn 16)
  | '0' :: 'o' :: cs => (groups? (fun c => '0' ≤ c && c ≤ '7') cs).map (valueIn 8)
  | '0' :: 'b' :: cs => (groups? (fun c => c = '0' || c = '1') cs).map (valueIn 2)
  | _ => none

def integer? (cs : List Char) : Option Int :=
  match based? cs with
  | some n => some n
  | none =>
    let (negative, ds) := sign cs
    (decimal? ds).map fun ds => if negative then -(Text.digitsValue ds : Int) else Text.digitsValue ds

/-- The infinite magnitude. -/
def infinity : Binary64 := ⟨0x7ff0000000000000⟩

/-- A float: a point with digits on both sides, an exponent, or both; also `inf` and `nan`. The inner
value is missing if it is beyond the largest double. -/
def float? (cs : List Char) : Option (Option Binary64) :=
  let (negative, cs) := sign cs
  let signed (x : Binary64) := if negative then x.neg else x
  if cs = ['i', 'n', 'f'] then some (some (signed infinity))
  else if cs = ['n', 'a', 'n'] then some (some (signed ⟨0x7ff8000000000000⟩))
  else
    let isMark (c : Char) := c = 'e' || c = 'E'
    let mantissa := cs.takeWhile (! isMark ·)
    let whole := mantissa.takeWhile (· ≠ '.')
    do
      let ds ← decimal? whole
      let places ← match mantissa.dropWhile (· ≠ '.') with
        | [] => some none
        | _ :: rest => (groups? Char.isDigit rest).map some
      let exponent ← match cs.dropWhile (! isMark ·) with
        | [] => some none
        | _ :: rest =>
          let (negative, rest) := sign rest
          (groups? Char.isDigit rest).map fun ds =>
            some (if negative then -(Text.digitsValue ds : Int) else Text.digitsValue ds)
      if places = none ∧ exponent = none then none else
      let places := places.getD []
      return (Binary64.nearest? (Text.digitsValue (ds ++ places))
        (exponent.getD 0 - places.length)).map signed

/-- The number of exactly so many digits. -/
def fixed? (width : Nat) (cs : List Char) : Option Nat :=
  if cs.length = width then Text.digits? cs else none

def daysIn (year month : Nat) : Nat :=
  if month = 2 then if year % 4 = 0 ∧ (year % 100 ≠ 0 ∨ year % 400 = 0) then 29 else 28
  else if month = 4 ∨ month = 6 ∨ month = 9 ∨ month = 11 then 30 else 31

/-- A day of the calendar. -/
def isDate (cs : List Char) : Bool :=
  match cs.splitOn '-' with
  | [y, m, d] =>
    match fixed? 4 y, fixed? 2 m, fixed? 2 d with
    | some y, some m, some d => 1 ≤ m && m ≤ 12 && 1 ≤ d && d ≤ daysIn y m
    | _, _, _ => false
  | _ => false

/-- A time of day; a minute may have a leap second. -/
def isTime (cs : List Char) : Bool :=
  let whole := cs.takeWhile (· ≠ '.')
  (match cs.dropWhile (· ≠ '.') with
    | [] => true
    | _ :: places => (Text.digits? places).isSome) &&
  match whole.splitOn ':' with
  | [h, m, s] =>
    match fixed? 2 h, fixed? 2 m, fixed? 2 s with
    | some h, some m, some s => h ≤ 23 && m ≤ 59 && s ≤ 60
    | _, _, _ => false
  | _ => false

/-- A time of day with or without its offset from universal time. -/
def isZonedTime (cs : List Char) : Bool :=
  let isZone (c : Char) := c = 'Z' || c = 'z' || c = '+' || c = '-'
  isTime (cs.takeWhile (! isZone ·)) &&
  match cs.dropWhile (! isZone ·) with
  | [] => true
  | c :: rest =>
    if c = 'Z' || c = 'z' then rest.isEmpty
    else match rest.splitOn ':' with
      | [h, m] =>
        match fixed? 2 h, fixed? 2 m with
        | some h, some m => h ≤ 23 && m ≤ 59
        | _, _ => false
      | _ => false

/-- A date, a time, or both with a T between them. -/
def isDateTime (cs : List Char) : Bool :=
  isDate cs || isTime cs ||
  (isDate (cs.take 10) && match cs.drop 10 with
    | c :: rest => (c = 'T' || c = 't') && isZonedTime rest
    | [] => false)

/-- The value of a word. -/
def word? (cs : List Char) : Option Value :=
  if cs = ['t', 'r', 'u', 'e'] then some (.bool true)
  else if cs = ['f', 'a', 'l', 's', 'e'] then some (.bool false)
  else if isDateTime cs then some (.dateTime (.ofList cs))
  else match integer? cs with
    | some n => some (.integer n)
    | none => (float? cs).map .float

/-- The characters of words. -/
def isWordChar (c : Char) : Bool := c.isAlphanum || c = '+' || c = '-' || c = '_' || c = '.' || c = ':'

/-- A word and its value; a date may be followed by a blank and a time. -/
def scalar? (cs : List Char) : Option (Value × List Char) :=
  let word := cs.takeWhile isWordChar
  let rest := cs.dropWhile isWordChar
  match rest with
  | ' ' :: more =>
    let time := more.takeWhile isWordChar
    if isDate word && isZonedTime time then
      some (.dateTime (.ofList (word ++ ' ' :: time)), more.dropWhile isWordChar)
    else (word? word).map (·, rest)
  | _ => (word? word).map (·, rest)

end SearchIndex.Toml
