import SearchIndex.Index.Basic
import SearchIndex.Search.Materializer
import SearchIndex.Settings.Basic

/-!
The registry of indexes. An owner may have one index without a qualifier and any number with one
each. An index is made when it is first asked for, with the identity field of its owner, and stays.
-/

namespace SearchIndex

/-- An owner and, if it has several indexes, which one. -/
structure IndexKey where
  owner : String
  qualifier : Option String := none
  deriving DecidableEq, Repr, Inhabited

/-- Qualifiers are ordered as texts are, and no qualifier comes before every qualifier. -/
instance qualifierDecidableLT : DecidableLT (Option String)
  | none, some _ => isTrue trivial
  | some a, some b => inferInstanceAs (Decidable (a < b))
  | _, none => isFalse Option.not_lt_none

structure Registry where
  settings : Settings := {}
  /-- The indexes of each owner in the order of their qualifiers, the owners in their order. An owner that
  was asked for an index may have none. -/
  owners : List (String × List (Option String × Index)) := []
  deriving Inhabited

namespace Registry

/-- The indexes of an owner by their qualifiers. -/
def ofOwner (r : Registry) (owner : String) : List (Option String × Index) := (r.owners.lookup owner).getD []

/-- The index of a key. -/
def get? (r : Registry) (key : IndexKey) : Option Index := (r.ofOwner key.owner).lookup key.qualifier

/-- Makes a place for the indexes of an owner, unless there is one. -/
def enter (r : Registry) (owner : String) : Registry :=
  { r with owners := Sorted.put owner (r.ofOwner owner) r.owners }

/-- Puts an index in the place of a key. -/
def put (r : Registry) (key : IndexKey) (ix : Index) : Registry :=
  { r with owners := Sorted.put key.owner (Sorted.put key.qualifier ix (r.ofOwner key.owner)) r.owners }

/-- The domain of a key. -/
def domain (r : Registry) (key : IndexKey) : Except SearchError String :=
  domainName r.settings.domainPrefix key.owner key.qualifier

/-- The field that holds the records' own ids, read from their member `id`. -/
def identity (owner : String) : Field :=
  { Field.new (identityField owner) .literal { searchEnabled := some true, resultEnabled := some true } with
    source := .accessor "id" }

/-- A new index for a key. -/
def make (r : Registry) (key : IndexKey) : Except SearchError Index := do
  let schema ← Schema.new (← r.domain key)
  let schema ← Schema.addField
    { schema with initialBackoff := r.settings.initialBackoff, lang := r.settings.lang } (identity key.owner)
  return { schema }

/-- The index of a key, which is made if there is none. Its owner is entered first, and stays so if the index
cannot be made. -/
def openIndex (r : Registry) (key : IndexKey) : Except SearchError Index × Registry :=
  let r := r.enter key.owner
  match r.get? key with
  | some ix => (.ok ix, r)
  | none =>
    match r.make key with
    | .ok ix => (.ok ix, r.put key ix)
    | .error e => (.error e, r)

/-- The index of a key, which is made if there is none, and the registry with it. -/
def index (r : Registry) (key : IndexKey) : Except SearchError (Index × Registry) :=
  match r.openIndex key with
  | (.ok ix, r) => .ok (ix, r)
  | (.error e, _) => .error e

/-- Adds a field to the index of a key, which is made if there is none. The index stays also if the
field is refused. -/
def addField (r : Registry) (key : IndexKey) (f : Field) : Except SearchError Unit × Registry :=
  match r.openIndex key with
  | (.error e, r) => (.error e, r)
  | (.ok ix, r) =>
    match ix.schema.addField f with
    | .error e => (.error e, r)
    | .ok schema => (.ok (), r.put key { ix with schema })

/-- The keys of an owner's indexes, the one without a qualifier first. -/
def keysOf (r : Registry) (owner : String) : List IndexKey :=
  (r.ofOwner owner).map fun e => { owner, qualifier := e.1 }

/-- An owner's indexes, the one without a qualifier first. -/
def indexesOf (r : Registry) (owner : String) : List Index := (r.ofOwner owner).map (·.2)

/-- The index of a key, which has to be there. -/
def require (r : Registry) (key : IndexKey) : Except SearchError Index := do
  match r.get? key with
  | some ix => return ix
  | none => throw (.domainNotFound (← r.domain key))

/-- A query on the index of a key; the settings say whether warnings are errors. -/
def search (r : Registry) (key : IndexKey) : Except SearchError Query := do
  let _ ← r.require key
  return { fatalWarnings := r.settings.fatalWarnings }

/-- A query on the index of a key whose hits are loaded by the owner's identity field. -/
def materializer {α : Type} (r : Registry) (key : IndexKey) (loader : Loader α) :
    Except SearchError (Materializer α) := do
  Materializer.new (← r.search key) (identityField key.owner) loader

open Command in
/-- A command on the index of a key. -/
def onIndex {α : Type} (key : IndexKey) (c : Command Index α) : Command Registry α := do
  match (← state).get? key with
  | none => fail (.domainNotFound (← ofResult ((← state).domain key)))
  | some ix => focus (fun _ => ix) (fun ix r => r.put key ix) c

open Command in
/-- Brings a record to all indexes of an owner, one by one: deletes its document if the record was
destroyed, else adds it. The first failure ends it. -/
def update (owner : String) (record : Json) (recordId : String) (version : Nat) (destroyed : Bool) :
    Command Registry Unit := do
  forEach (fun key => onIndex key do
      let _ ← if destroyed then Index.delete recordId version else Index.post record recordId version
      return ())
    ((← state).keysOf owner)

end Registry

end SearchIndex
