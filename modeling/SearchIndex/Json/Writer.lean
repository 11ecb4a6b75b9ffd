import SearchIndex.Json.Basic

/-!
JSON text. The compact form has no blanks; the pretty form puts every element and member on a line
of its own, two blanks deeper than what holds it.
-/

namespace SearchIndex.Json

/-- Only the double quote, the backslash and the controls below the blank are escaped. -/
def stringChar (c : Char) : String :=
  if c = '"' then "\\\"" else if c = '\\' then "\\\\"
  else if c = '\x08' then "\\b" else if c = '\t' then "\\t" else if c = '\n' then "\\n"
  else if c = '\x0c' then "\\f" else if c = '\r' then "\\r"
  else if c.toNat < 0x20 then
    "\\u00" ++ .ofList [Nat.digitChar (c.toNat / 16), Nat.digitChar (c.toNat % 16)]
  else c.toString

/-- A string with its quotes. -/
def stringText (s : String) : String := "\"" ++ String.join (s.toList.map stringChar) ++ "\""

mutual

/-- Text without blanks. -/
def compact : Json → String
  | .null => "null"
  | .bool b => boolText b
  | .number n => n.text
  | .string s => stringText s
  | .array items => "[" ++ ",".intercalate (compactItems items) ++ "]"
  | .object members => "\x7b" ++ ",".intercalate (compactMembers members) ++ "\x7d"

def compactItems : List Json → List String
  | [] => []
  | j :: rest => compact j :: compactItems rest

def compactMembers : List (String × Json) → List String
  | [] => []
  | (k, j) :: rest => (stringText k ++ ":" ++ compact j) :: compactMembers rest

end

/-- Lines between brackets, the brackets at the given depth. -/
def block (depth : Nat) (opening closing : String) (lines : List String) : String :=
  let margin (d : Nat) := "\n" ++ "".pushn ' ' (2 * d)
  if lines.isEmpty then opening ++ closing
  else opening ++ margin (depth + 1) ++ ("," ++ margin (depth + 1)).intercalate lines ++ margin depth ++ closing

mutual

/-- Text over several lines, at the given depth. -/
def prettyAt (depth : Nat) : Json → String
  | .null => "null"
  | .bool b => boolText b
  | .number n => n.text
  | .string s => stringText s
  | .array items => block depth "[" "]" (prettyItems (depth + 1) items)
  | .object members => block depth "\x7b" "\x7d" (prettyMembers (depth + 1) members)

def prettyItems (depth : Nat) : List Json → List String
  | [] => []
  | j :: rest => prettyAt depth j :: prettyItems depth rest

def prettyMembers (depth : Nat) : List (String × Json) → List String
  | [] => []
  | (k, j) :: rest => (stringText k ++ ": " ++ prettyAt depth j) :: prettyMembers depth rest

end

/-- Text over several lines. -/
def pretty (j : Json) : String := prettyAt 0 j

end SearchIndex.Json
