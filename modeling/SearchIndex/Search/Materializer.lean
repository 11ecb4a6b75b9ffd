import SearchIndex.Search.Query

/-!
From hits back to the records: the identity field of each hit gives an id, and a loader loads the
records of all these ids at once. It is asked at most once with success; what it gave is kept.
-/

namespace SearchIndex

/-- What a loader gives: a collection, or one thing by itself. -/
inductive Loaded (α : Type) where
  | many (items : List α)
  | single (item : α)
  deriving Repr, Inhabited

namespace Loaded

variable {α : Type}

def items : Loaded α → List α
  | many items => items
  | single item => [item]

def size (l : Loaded α) : Nat := l.items.length

def isEmpty (l : Loaded α) : Bool := l.size = 0

def isSingle : Loaded α → Bool
  | many _ => false
  | single _ => true

end Loaded

/-- A way of loading records by their ids. Both parts may depend on all calls before. -/
structure Loader (α : Type) where
  /-- The ids that are looked up one by one on the way. -/
  lookups : List Call → List String → List String := fun _ _ => []
  /-- What is loaded, or why nothing is. -/
  load : List Call → List String → Except String (Loaded α)

instance {α : Type} : Inhabited (Loader α) := ⟨{ load := fun _ _ => .error "" }⟩

namespace Loader

variable {α : Type}

/-- Looks up ids until one fails. -/
def lookedUp (find : String → Except String (Option α)) : List String → List String
  | [] => []
  | id :: rest =>
    match find id with
    | .ok _ => id :: lookedUp find rest
    | .error _ => [id]

/-- Looks up every id; those that are not found are left out. -/
def byId (find : String → Except String (Option α)) : Loader α where
  lookups _ ids := lookedUp find ids
  load _ ids := (ids.mapM find).map fun found => .many (found.filterMap (·))

end Loader

/-- The id that a hit gives: a text, number or boolean in its identity field. -/
def Hit.identity? (h : Hit) (field : String) : Option String :=
  match h.first? field with
  | some (.string s) => some s
  | some (.number n) => some n.text
  | some (.bool b) => some (Json.boolText b)
  | _ => none

/-- A query whose hits are loaded as records. -/
structure Materializer (α : Type) where
  query : Query
  identityField : String
  loader : Loader α
  /-- What was loaded. -/
  loaded : Option (Loaded α) := none
  deriving Inhabited

namespace Materializer

variable {α : Type}

/-- The identity field becomes one of the return fields, which an answered query refuses. -/
def new (query : Query) (identityField : String) (loader : Loader α) :
    Except SearchError (Materializer α) :=
  match query.addReturnFields [identityField] with
  | (.ok _, query) => .ok { query, identityField, loader }
  | (.error e, _) => .error e

/-- A materializer and the index that its query asks. -/
structure Session (α : Type) where
  index : Index
  materializer : Materializer α
  deriving Inhabited

namespace Session

open Command

def onSearch {β : Type} (c : Command Search β) : Command (Session α) β :=
  focus (fun s => ⟨s.index, s.materializer.query⟩)
    (fun t s => { s with index := t.index, materializer := { s.materializer with query := t.query } }) c

/-- How many documents match; nothing is loaded. -/
def foundCount : Command (Session α) Nat := onSearch Search.foundCount

/-- Asks the loader. -/
def load (ids : List String) : Command (Session α) (Loaded α) := do
  let loader := (← state).materializer.loader
  let past ← calls
  record (.load ids)
  forEach (fun id => record (.find id)) (loader.lookups past ids)
  ofResult ((loader.load past ids).mapError .loader)

/-- The loaded records; the first success is kept. -/
def materialize : Command (Session α) (Loaded α) := do
  let m := (← state).materializer
  match m.loaded with
  | some loaded => return loaded
  | none =>
    let hits ← onSearch Search.hits
    let loaded ← load (hits.filterMap (·.identity? m.identityField))
    let s ← state
    put { s with materializer := { s.materializer with loaded := some loaded } }
    return loaded

/-- The loaded records one by one. -/
def iterate : Command (Session α) (List α) := do return (← materialize).items

end Session

end Materializer

end SearchIndex
