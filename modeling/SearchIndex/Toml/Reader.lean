import SearchIndex.Toml.Scalar
import SearchIndex.Toml.Text
import SearchIndex.Toml.Tree

/-!
Reading TOML documents. A document is the table of its entries.
-/

namespace SearchIndex.Toml

/-- Inside an array: blanks, line ends and comments. -/
def skipLines? : Nat → List Char → Option (List Char)
  | 0, _ => none
  | fuel + 1, cs => do
    let rest ← comment? (skipBlank cs)
    match newline? rest with
    | some rest => skipLines? fuel rest
    | none => some rest

/-- How deep values may be nested. -/
def depthLimit : Nat := 80

mutual

/-- A value. The second number is how many levels may still be opened. -/
def value? : Nat → Nat → List Char → Option (Value × List Char)
  | 0, _, _ => none
  | fuel + 1, depth, cs =>
    match cs with
    | '"' :: _ => (text? '"' cs).map fun (s, rest) => (.string s, rest)
    | '\'' :: _ => (text? '\'' cs).map fun (s, rest) => (.string s, rest)
    | '[' :: rest =>
      match depth with
      | 0 => none
      | depth + 1 => (items? fuel depth rest).map fun (items, rest) => (.array items, rest)
    | '\x7b' :: rest =>
      match depth with
      | 0 => none
      | depth + 1 =>
        match skipBlank rest with
        | '\x7d' :: rest => some (.table [], rest)
        | rest => (pairs? fuel depth [] rest).map fun (entries, rest) =>
            (.table (entriesToMembers entries), rest)
    | _ => scalar? cs

/-- The elements of an array up to its closing bracket; the last may be followed by a comma. -/
def items? : Nat → Nat → List Char → Option (List Value × List Char)
  | 0, _, _ => none
  | fuel + 1, depth, cs =>
    match skipLines? (cs.length + 1) cs with
    | none => none
    | some (']' :: rest) => some ([], rest)
    | some cs =>
      match value? fuel depth cs with
      | none => none
      | some (v, rest) =>
        match skipLines? (rest.length + 1) rest with
        | some (',' :: rest) => (items? fuel depth rest).map fun (items, rest) => (v :: items, rest)
        | some (']' :: rest) => some ([v], rest)
        | _ => none

/-- The entries of a table in braces up to its closing brace, added to `entries`. -/
def pairs? : Nat → Nat → Entries → List Char → Option (Entries × List Char)
  | 0, _, _, _ => none
  | fuel + 1, depth, entries, cs =>
    match path? (cs.length + 1) cs with
    | some (path, '=' :: rest) =>
      match value? fuel depth (skipBlank rest) with
      | none => none
      | some (v, rest) =>
        match assign v path entries with
        | none => none
        | some entries =>
          match skipBlank rest with
          | ',' :: rest => pairs? fuel depth entries rest
          | '\x7d' :: rest => some (entries, rest)
          | _ => none
    | _ => none

end

/-- The lines of a document; `table` is the header that they stand under. -/
def lines? : Nat → List String → Entries → List Char → Option Entries
  | 0, _, _, _ => none
  | fuel + 1, table, entries, cs =>
    match skipBlank cs with
    | [] => some entries
    | '[' :: '[' :: rest => do
      let (path, rest) ← path? (rest.length + 1) rest
      match rest with
      | ']' :: ']' :: rest => lines? fuel path (← openElement path entries) (← endLine? rest)
      | _ => none
    | '[' :: rest => do
      let (path, rest) ← path? (rest.length + 1) rest
      match rest with
      | ']' :: rest => lines? fuel path (← openTable path entries) (← endLine? rest)
      | _ => none
    | c :: rest =>
      if c = '#' ∨ c = '\n' ∨ c = '\r' then do lines? fuel table entries (← endLine? (c :: rest))
      else do
        let (path, rest) ← path? (rest.length + 2) (c :: rest)
        match rest with
        | '=' :: rest =>
          let (v, rest) ← value? (2 * rest.length + 2) depthLimit (skipBlank rest)
          lines? fuel table (← within (assign v path) table entries) (← endLine? rest)
        | _ => none

/-- Reads a document; a byte-order mark at its start is passed over. -/
def parse? (s : String) : Option Value :=
  let cs := match s.toList with
    | '\ufeff' :: rest => rest
    | cs => cs
  (lines? (cs.length + 2) [] [] cs).map fun entries => .table (entriesToMembers entries)

end SearchIndex.Toml
