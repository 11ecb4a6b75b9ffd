import SearchIndex.Text.HiddenRanges
import SearchIndex.Text.Lowercase

/-!
The escaped form of a text, as messages show it: double quotes around, a backslash before a double
quote or a backslash, short forms for the common controls, and `\u{hex}` for every other character
that does not show by itself.
-/

namespace SearchIndex.Text

/-- Hexadecimal digits in lower case, without leading zeros. -/
def hex (n : Nat) : String := .ofList (Nat.toDigits 16 n)

/-- One character of an escaped text. -/
def escapedChar (c : Char) : String :=
  if c = '"' then "\\\"" else if c = '\\' then "\\\\" else if c = '\n' then "\\n"
  else if c = '\r' then "\\r" else if c = '\t' then "\\t" else if c = '\x00' then "\\0"
  else if inRanges hiddenRanges c.toNat then "\\u\x7b" ++ hex c.toNat ++ "\x7d"
  else c.toString

/-- The escaped form of a text. -/
def escaped (s : String) : String := "\"" ++ String.join (s.toList.map escapedChar) ++ "\""

end SearchIndex.Text
