import SearchIndex.Text.Integer

/-!
TOML texts: in double quotes with escapes or in single quotes without, on one line or, with three
quotes, on several.
-/

namespace SearchIndex.Toml

/-- Characters that may stand in texts and comments: the tab and everything but controls. -/
def isPlain (c : Char) : Bool := c = '\t' || (0x20 ≤ c.toNat && c.toNat ≠ 0x7f)

/-- Blank and tab. -/
def skipBlank (cs : List Char) : List Char := cs.dropWhile fun c => c = ' ' || c = '\t'

/-- The end of a line. -/
def newline? : List Char → Option (List Char)
  | '\n' :: rest => some rest
  | '\r' :: '\n' :: rest => some rest
  | _ => none

/-- The code point of a given number of hexadecimal digits. -/
def codePoint? (width : Nat) (cs : List Char) : Option (Char × List Char) :=
  let ds := cs.take width
  if ds.length = width ∧ ds.all fun c => (Text.hexValue? c).isSome then
    let n := ds.foldl (fun n c => 16 * n + (Text.hexValue? c).getD 0) 0
    if n < 0xd800 ∨ (0xe000 ≤ n ∧ n < 0x110000) then some (Char.ofNat n, cs.drop width) else none
  else none

/-- What an escape stands for, after its backslash. -/
def escape? : List Char → Option (Char × List Char)
  | 'b' :: rest => some ('\x08', rest)
  | 't' :: rest => some ('\t', rest)
  | 'n' :: rest => some ('\n', rest)
  | 'f' :: rest => some ('\x0c', rest)
  | 'r' :: rest => some ('\r', rest)
  | '"' :: rest => some ('"', rest)
  | '\\' :: rest => some ('\\', rest)
  | 'u' :: rest => codePoint? 4 rest
  | 'U' :: rest => codePoint? 8 rest
  | _ => none

/-- A text on one line after its opening quote; `done` holds what was read, the last first. -/
def lineText? (quote : Char) : Nat → List Char → List Char → Option (String × List Char)
  | 0, _, _ => none
  | _ + 1, _, [] => none
  | fuel + 1, done, c :: rest =>
    if c = quote then some (.ofList done.reverse, rest)
    else if c = '\\' ∧ quote = '"' then do
      let (e, rest) ← escape? rest
      lineText? quote fuel (e :: done) rest
    else if isPlain c then lineText? quote fuel (c :: done) rest
    else none

/-- What follows blanks and line ends. -/
def skipSpace : List Char → List Char
  | ' ' :: rest | '\t' :: rest | '\n' :: rest | '\r' :: '\n' :: rest => skipSpace rest
  | cs => cs

/-- After a backslash at the end of a line: what follows the blanks and line ends. -/
def continued? (cs : List Char) : Option (List Char) :=
  (newline? (skipBlank cs)).map skipSpace

/-- A text on several lines after its opening quotes. Up to two quotes may stand before the closing
ones. -/
def blockText? (quote : Char) : Nat → List Char → List Char → Option (String × List Char)
  | 0, _, _ => none
  | _ + 1, _, [] => none
  | fuel + 1, done, c :: rest =>
    if c = quote then
      match (c :: rest).takeWhile (· = quote) with
      | [_] | [_, _] => blockText? quote fuel (c :: done) rest
      | quotes =>
        let inside := min 2 (quotes.length - 3)
        some (.ofList (List.replicate inside quote ++ done).reverse, (c :: rest).drop (inside + 3))
    else if c = '\\' ∧ quote = '"' then
      match continued? rest with
      | some rest => blockText? quote fuel done rest
      | none => do
        let (e, rest) ← escape? rest
        blockText? quote fuel (e :: done) rest
    else if c = '\n' then blockText? quote fuel (c :: done) rest
    else if c = '\r' then
      match rest with
      | '\n' :: rest => blockText? quote fuel ('\n' :: '\r' :: done) rest
      | _ => none
    else if isPlain c then blockText? quote fuel (c :: done) rest
    else none

/-- A text of either kind, from its opening quote on. A line end right after three quotes is not
part of the text. -/
def text? (quote : Char) (cs : List Char) : Option (String × List Char) :=
  match cs with
  | a :: b :: c :: rest =>
    if a = quote ∧ b = quote ∧ c = quote then
      blockText? quote (rest.length + 1) [] ((newline? rest).getD rest)
    else if a = quote then lineText? quote cs.length [] (b :: c :: rest)
    else none
  | a :: rest => if a = quote then lineText? quote cs.length [] rest else none
  | [] => none

/-- A key: a bare word or a text on one line. -/
def key? (cs : List Char) : Option (String × List Char) :=
  match cs with
  | '"' :: rest => lineText? '"' cs.length [] rest
  | '\'' :: rest => lineText? '\'' cs.length [] rest
  | _ =>
    let isBare (c : Char) := c.isAlphanum || c = '_' || c = '-'
    let word := cs.takeWhile isBare
    if word.isEmpty then none else some (.ofList word, cs.dropWhile isBare)

/-- Keys with points between them. -/
def path? : Nat → List Char → Option (List String × List Char)
  | 0, _ => none
  | fuel + 1, cs => do
    let (key, rest) ← key? (skipBlank cs)
    match skipBlank rest with
    | '.' :: rest => (path? fuel rest).map fun (keys, rest) => (key :: keys, rest)
    | rest => some ([key], rest)

/-- What is left after a comment, if there is one; it ends before the end of its line. -/
def comment? (cs : List Char) : Option (List Char) :=
  match cs with
  | '#' :: rest =>
    match rest.dropWhile isPlain with
    | [] => some []
    | rest => if (newline? rest).isSome then some rest else none
  | _ => some cs

/-- Nothing but blanks and a comment may stand before the end of the line. -/
def endLine? (cs : List Char) : Option (List Char) := do
  match ← comment? (skipBlank cs) with
  | [] => some []
  | rest => newline? rest

end SearchIndex.Toml
