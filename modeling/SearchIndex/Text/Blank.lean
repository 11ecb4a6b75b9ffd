/-!
Blanks: the characters of the Unicode property `White_Space`, and trimming and splitting by them.
The zero-width characters and the byte-order mark are not blanks.
-/

namespace SearchIndex.Text

/-- The Unicode property `White_Space`. -/
def isBlank (c : Char) : Bool :=
  let n := c.toNat
  (9 ≤ n && n ≤ 13) || n = 0x20 || n = 0x85 || n = 0xa0 || n = 0x1680 || (0x2000 ≤ n && n ≤ 0x200a)
    || n = 0x2028 || n = 0x2029 || n = 0x202f || n = 0x205f || n = 0x3000

/-- Without the blanks at the start. -/
def trimStart (cs : List Char) : List Char := cs.dropWhile isBlank

/-- Without the blanks at the end. -/
def trimEnd (cs : List Char) : List Char := (cs.reverse.dropWhile isBlank).reverse

/-- Without the blanks at either end. -/
def trimChars (cs : List Char) : List Char := trimEnd (trimStart cs)

/-- Without the blanks at either end. -/
def trim (s : String) : String := .ofList (trimChars s.toList)

/-- The part before the first blank and the part after it. -/
def splitAtBlank (cs : List Char) : Option (List Char × List Char) :=
  match cs.dropWhile (! isBlank ·) with
  | [] => none
  | _ :: rest => some (cs.takeWhile (! isBlank ·), rest)

/-- Whether nothing but blanks is there. -/
def isAllBlank (s : String) : Bool := s.toList.all isBlank

end SearchIndex.Text
