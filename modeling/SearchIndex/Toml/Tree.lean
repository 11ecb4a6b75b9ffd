import SearchIndex.Toml.Value

/-!
The tables of a TOML document while it is read. A table is defined once: by its header, or by the
dotted keys of one table; a table that only stands on the way to another may still get its header.
-/

namespace SearchIndex.Toml

/-- How a table came to be. -/
inductive Origin where
  /-- By its own header. -/
  | header
  /-- On the way to a table with a header. -/
  | passage
  /-- By dotted keys. -/
  | dotted
  deriving DecidableEq, Repr

inductive Node where
  | value (v : Value)
  | table (origin : Origin) (entries : List (String × Node))
  /-- An array of tables, the last one first. -/
  | tables (elements : List (List (String × Node)))
  deriving Inhabited

abbrev Entries := List (String × Node)

mutual

def Node.toValue : Node → Value
  | .value v => v
  | .table _ entries => .table (entriesToMembers entries)
  | .tables elements => .array (elementsToItems elements [])

def entriesToMembers : List (String × Node) → List (String × Value)
  | [] => []
  | (k, n) :: rest => (k, n.toValue) :: entriesToMembers rest

/-- The elements in their order, before `done`. -/
def elementsToItems : List (List (String × Node)) → List Value → List Value
  | [], done => done
  | e :: rest, done => elementsToItems rest (.table (entriesToMembers e) :: done)

end

/-- Changes the entry of a key, which is added at the end if it is not there. -/
def change (key : String) (f : Option Node → Option Node) : Entries → Option Entries
  | [] => (f none).map fun n => [(key, n)]
  | (k, n) :: rest =>
    if k = key then (f (some n)).map fun n => (k, n) :: rest
    else (change key f rest).map ((k, n) :: ·)

/-- Changes the table that a header leads to; of an array of tables that is the last one. -/
def within (f : Entries → Option Entries) : List String → Entries → Option Entries
  | [], entries => f entries
  | key :: path, entries => change key (fun
      | none => (within f path []).map (.table .passage)
      | some (.table origin inner) => (within f path inner).map (.table origin)
      | some (.tables (last :: earlier)) => (within f path last).map fun t => .tables (t :: earlier)
      | some _ => none) entries

/-- Opens the table of a header. -/
def openTable (path : List String) (entries : Entries) : Option Entries :=
  match path.getLast? with
  | none => none
  | some key => within (change key fun
      | none => some (.table .header [])
      | some (.table .passage inner) => some (.table .header inner)
      | some _ => none) path.dropLast entries

/-- Opens one more table of an array of tables. -/
def openElement (path : List String) (entries : Entries) : Option Entries :=
  match path.getLast? with
  | none => none
  | some key => within (change key fun
      | none => some (.tables [[]])
      | some (.tables elements) => some (.tables ([] :: elements))
      | some _ => none) path.dropLast entries

/-- Gives a value to a key, through the tables that its dots name. The innermost of these may only
have been made by dots. -/
def assign (v : Value) : List String → Entries → Option Entries
  | [], _ => none
  | [key], entries => change key (fun
      | none => some (.value v)
      | some _ => none) entries
  | key :: path, entries => change key (fun
      | none => (assign v path []).map (.table .dotted)
      | some (.table .dotted inner) => (assign v path inner).map (.table .dotted)
      | some (.table .passage inner) =>
        if path.length = 1 then none else (assign v path inner).map (.table .passage)
      | some (.tables (last :: earlier)) =>
        if path.length = 1 then none else (assign v path last).map fun t => .tables (t :: earlier)
      | some _ => none) entries

end SearchIndex.Toml
