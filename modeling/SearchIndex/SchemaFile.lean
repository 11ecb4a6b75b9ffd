import SearchIndex.Registry

/-!
Schema files: the owner and qualifier of an index and the fields to add to it.

```
owner = "customer_review"
qualifier = "recent"

[[field]]
name = "author"
type = "literal"
source = "author_login"
options = { facet_enabled = true }
```
-/

namespace SearchIndex

/-- One field of a schema file. -/
structure FieldEntry where
  name : String
  /-- The name of the type, not yet read. -/
  type : String
  /-- The member of the records that the field reads, if that is not the one of its name. -/
  source : Option String := none
  options : FieldOptions := {}
  deriving DecidableEq, Repr, Inhabited

structure SchemaFile where
  owner : String
  qualifier : Option String := none
  fields : List FieldEntry := []
  deriving DecidableEq, Repr, Inhabited

namespace FieldEntry

def members : List String := ["name", "type", "source", "options"]

/-- Reads options. Of an array only the elements that stand for options are looked at; of a table
everything, also the members that are no options. -/
def optionsOfValue? (v : Toml.Value) : Option FieldOptions :=
  (v.firstItems FieldOptions.members.length).toJson?.bind FieldOptions.ofJson?

/-- Reads an entry. -/
def ofValue? (v : Toml.Value) : Option FieldEntry := do
  let get ← v.record? members
  return {
    name := ← (← get "name").asString?
    type := ← (← get "type").asString?
    source := ← (get "source").mapM Toml.Value.asString?
    options := (← (get "options").mapM optionsOfValue?).getD {} }

/-- The field of an entry, if its type is one. -/
def toField (e : FieldEntry) : Except SearchError Field := do
  let f ← Field.ofTypeName e.name e.type e.options
  return { f with source := (e.source.map Source.accessor).getD f.source }

end FieldEntry

namespace SchemaFile

def ofValue? (v : Toml.Value) : Option SchemaFile := do
  let get ← v.record? ["owner", "qualifier", "field"]
  return {
    owner := ← (← get "owner").asString?
    qualifier := ← (get "qualifier").mapM Toml.Value.asString?
    fields := (← (get "field").mapM (Toml.Value.asList? FieldEntry.ofValue?)).getD [] }

/-- Reads the text of a schema file. -/
def parse? (text : String) : Option SchemaFile := (Toml.parse? text).bind ofValue?

/-- The index that the file is about. -/
def key (f : SchemaFile) : IndexKey := { owner := f.owner, qualifier := f.qualifier }

/-- Adds entries to a schema one by one; the first that is refused ends it. -/
def addEntries : List FieldEntry → Schema → Except SearchError Unit × Schema
  | [], s => (.ok (), s)
  | e :: rest, s =>
    match e.toField.bind s.addField with
    | .ok s => addEntries rest s
    | .error err => (.error err, s)

/-- Adds the fields of the file to its index in a registry. -/
def register (f : SchemaFile) (r : Registry) : Except SearchError Unit × Registry :=
  match r.openIndex f.key with
  | (.error e, r) => (.error e, r)
  | (.ok ix, r) =>
    let (result, schema) := addEntries f.fields ix.schema
    (result, r.put f.key { ix with schema })

end SchemaFile

end SearchIndex
