import SearchIndex.Json.Basic
import SearchIndex.Sorted
import SearchIndex.Text.Integer

/-!
Reading JSON text. Of two members with one name the later counts, and the members come out in the
order of their names. Nesting is limited to 127 levels.
-/

namespace SearchIndex.Json

/-- How deep arrays and objects may nest. -/
def depthLimit : Nat := 127

/-- Takes digits into `n` as long as it stays below 2⁶⁴; the rest is left over. -/
def takeDigits (n : Nat) : List Char → Nat × List Char
  | [] => (n, [])
  | c :: cs =>
    let next := 10 * n + Text.digitValue c
    if next < UInt64.size then takeDigits next cs else (n, c :: cs)

/-- The number with the given digits before the point, after it, and exponent. Digits of the whole
part that do not fit 64 bits count as zeros, those of the fraction not at all. A whole number that
fits is an integer, but minus zero is a double. -/
def numberOf (negative : Bool) (whole : List Char) (fraction : Option (List Char))
    (exponent : Option Int) : Option Number :=
  let (n, extra) := takeDigits 0 whole
  if extra.isEmpty ∧ fraction.isNone ∧ exponent.isNone ∧ ! negative then some (.int n)
  else if extra.isEmpty ∧ fraction.isNone ∧ exponent.isNone ∧ n ≠ 0 ∧
      Int64.minValue.toInt ≤ -n then
    some (.int (-n))
  else
    let places := fraction.getD []
    let (m, unused) := takeDigits n places
    let scale := extra.length - ((places.length - unused.length : Nat) : Int) + exponent.getD 0
    (Binary64.ofDecimal? m scale).map fun x => .double (if negative then x.neg else x)

/-- An exponent after its `e`: an optional sign and digits. -/
def exponent? (cs : List Char) : Option (Int × List Char) :=
  let (negative, rest) : Bool × List Char := match cs with
    | '-' :: rest => (true, rest)
    | '+' :: rest => (false, rest)
    | _ => (false, cs)
  (Text.digits? (rest.takeWhile Char.isDigit)).map fun n =>
    (if negative then -(n : Int) else n, rest.dropWhile Char.isDigit)

/-- A number: no leading zeros, and digits on both sides of a point. -/
def number? (cs : List Char) : Option (Number × List Char) := do
  let (negative, cs) : Bool × List Char := match cs with
    | '-' :: rest => (true, rest)
    | _ => (false, cs)
  let whole := cs.takeWhile Char.isDigit
  if whole.isEmpty ∨ (whole.head? = some '0' ∧ 1 < whole.length) then none else
  let (fraction, cs) ← match cs.dropWhile Char.isDigit with
    | '.' :: rest =>
      let places := rest.takeWhile Char.isDigit
      if places.isEmpty then none else some (some places, rest.dropWhile Char.isDigit)
    | rest => some (none, rest)
  let (exponent, cs) ← match cs with
    | 'e' :: rest | 'E' :: rest => (exponent? rest).map fun (e, rest) => (some e, rest)
    | _ => some (none, cs)
  (numberOf negative whole fraction exponent).map (·, cs)

/-- Four hexadecimal digits. -/
def hex4? : List Char → Option (Nat × List Char)
  | a :: b :: c :: d :: rest => do
    let ds ← [a, b, c, d].mapM Text.hexValue?
    return (ds.foldl (fun n d => 16 * n + d) 0, rest)
  | _ => none

/-- A code point after `\u`; above the basic plane it is a pair of escapes. -/
def unicodeEscape? (cs : List Char) : Option (Char × List Char) := do
  let (high, rest) ← hex4? cs
  if high < 0xd800 ∨ 0xe000 ≤ high then some (Char.ofNat high, rest)
  else if 0xdc00 ≤ high then none
  else match rest with
    | '\\' :: 'u' :: rest =>
      let (low, rest) ← hex4? rest
      if 0xdc00 ≤ low ∧ low < 0xe000 then
        some (Char.ofNat (0x10000 + (high - 0xd800) * 0x400 + (low - 0xdc00)), rest)
      else none
    | _ => none

/-- What an escape stands for, after its backslash. -/
def escape? : List Char → Option (Char × List Char)
  | '"' :: rest => some ('"', rest)
  | '\\' :: rest => some ('\\', rest)
  | '/' :: rest => some ('/', rest)
  | 'b' :: rest => some ('\x08', rest)
  | 'f' :: rest => some ('\x0c', rest)
  | 'n' :: rest => some ('\n', rest)
  | 'r' :: rest => some ('\r', rest)
  | 't' :: rest => some ('\t', rest)
  | 'u' :: rest => unicodeEscape? rest
  | _ => none

/-- The rest of a string after its opening quote; `done` holds what was read, the last first. -/
def stringRest? : Nat → List Char → List Char → Option (String × List Char)
  | 0, _, _ => none
  | _ + 1, _, [] => none
  | _ + 1, done, '"' :: rest => some (.ofList done.reverse, rest)
  | fuel + 1, done, '\\' :: rest => do
    let (c, rest) ← escape? rest
    stringRest? fuel (c :: done) rest
  | fuel + 1, done, c :: rest => if c.toNat < 0x20 then none else stringRest? fuel (c :: done) rest

/-- Blank, tab, line feed and carriage return. -/
def skipSpace (cs : List Char) : List Char :=
  cs.dropWhile fun c => c = ' ' ∨ c = '\t' ∨ c = '\n' ∨ c = '\r'

/-- What is left after a word. -/
def dropWord? (word cs : List Char) : Option (List Char) :=
  if word.isPrefixOf cs then some (cs.drop word.length) else none

mutual

/-- A value, at most `depth` levels deep. -/
def value? : Nat → Nat → List Char → Option (Json × List Char)
  | 0, _, _ => none
  | fuel + 1, depth, cs =>
    match skipSpace cs with
    | '"' :: rest => (stringRest? (rest.length + 1) [] rest).map fun (s, rest) => (.string s, rest)
    | '[' :: rest =>
      match depth with
      | 0 => none
      | depth + 1 =>
        match skipSpace rest with
        | ']' :: rest => some (.array [], rest)
        | rest => (items? fuel depth rest).map fun (items, rest) => (.array items, rest)
    | '\x7b' :: rest =>
      match depth with
      | 0 => none
      | depth + 1 =>
        match skipSpace rest with
        | '\x7d' :: rest => some (.object [], rest)
        | rest => (members? fuel depth rest).map fun (ms, rest) => (.object (Sorted.ofEntries ms), rest)
    | 'n' :: rest => (dropWord? ['u', 'l', 'l'] rest).map (.null, ·)
    | 't' :: rest => (dropWord? ['r', 'u', 'e'] rest).map (.bool true, ·)
    | 'f' :: rest => (dropWord? ['a', 'l', 's', 'e'] rest).map (.bool false, ·)
    | rest => (number? rest).map fun (n, rest) => (.number n, rest)

/-- The elements of an array up to its closing bracket. -/
def items? : Nat → Nat → List Char → Option (List Json × List Char)
  | 0, _, _ => none
  | fuel + 1, depth, cs =>
    match value? fuel depth cs with
    | none => none
    | some (j, rest) =>
      match skipSpace rest with
      | ',' :: rest => (items? fuel depth rest).map fun (items, rest) => (j :: items, rest)
      | ']' :: rest => some ([j], rest)
      | _ => none

/-- The members of an object up to its closing brace. -/
def members? : Nat → Nat → List Char → Option (List (String × Json) × List Char)
  | 0, _, _ => none
  | fuel + 1, depth, cs =>
    match skipSpace cs with
    | '"' :: rest =>
      match stringRest? (rest.length + 1) [] rest with
      | none => none
      | some (name, rest) =>
        match skipSpace rest with
        | ':' :: rest =>
          match value? fuel depth rest with
          | none => none
          | some (j, rest) =>
            match skipSpace rest with
            | ',' :: rest => (members? fuel depth rest).map fun (ms, rest) => ((name, j) :: ms, rest)
            | '\x7d' :: rest => some ([(name, j)], rest)
            | _ => none
        | _ => none
    | _ => none

end

/-- The one value that a text holds. Every step of the reader takes a character or ends a level, so
the fuel is enough. -/
def parse? (text : String) : Option Json :=
  match value? (2 * text.length + 2) depthLimit text.toList with
  | some (j, rest) => if (skipSpace rest).isEmpty then some j else none
  | none => none

end SearchIndex.Json
