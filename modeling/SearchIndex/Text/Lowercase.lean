import SearchIndex.Text.CaseRuns

/-!
Full lower-casing: every capital is replaced by its lower-case form, which may be longer (the
dotted capital I becomes an i and a combining dot) and may be ASCII (the Kelvin sign becomes k).
A capital sigma becomes ς at the end of a word and σ elsewhere.
-/

namespace SearchIndex.Text

/-- Whether a code point lies in one of the runs. -/
def inRanges (ranges : List (Nat × Nat)) (n : Nat) : Bool :=
  ranges.any fun r => r.1 ≤ n && n ≤ r.2

/-- The lower-case form of a capital above ASCII that has one of one character. -/
def lowerByTable (n : Nat) : Option Nat :=
  (caseRuns.find? fun r => r.first ≤ n && n ≤ r.last && (n - r.first) % r.step = 0).map
    fun r => r.target + (n - r.first)

/-- The lower-case form of one character, out of context. -/
def lowerChar (c : Char) : List Char :=
  if c.toNat < 128 then [c.toLower]
  else if c = 'İ' then ['i', '\u0307']
  else [((lowerByTable c.toNat).map Char.ofNat).getD c]

/-- Whether the nearest character that is not case-ignorable has case. -/
def nextHasCase (cs : List Char) : Bool :=
  match cs.dropWhile (inRanges caseIgnorableRanges ·.toNat) with
  | [] => false
  | c :: _ => inRanges casedRanges c.toNat

/-- Lower-cases what follows `before`, the characters already passed, the last one first. -/
def lowerAfter (before : List Char) : List Char → List Char
  | [] => []
  | c :: rest =>
    (if c = 'Σ' then [if nextHasCase before && ! nextHasCase rest then 'ς' else 'σ'] else lowerChar c)
      ++ lowerAfter (c :: before) rest

/-- The text in lower case. -/
def lower (s : String) : String := .ofList (lowerAfter [] s.toList)

end SearchIndex.Text
