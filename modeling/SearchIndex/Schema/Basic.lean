import SearchIndex.Schema.Document
import SearchIndex.Schema.Field
import SearchIndex.Schema.Name
import SearchIndex.Sorted
import SearchIndex.Time

/-!
A schema: the name of a remote domain and the table of its fields, in the order in which they were
added. No two fields have one name.
-/

namespace SearchIndex

structure Schema where
  name : String
  fields : List Field := []
  /-- The first pause between two looks at a domain that is being rebuilt. -/
  initialBackoff : Nat := Time.second
  /-- The language mark of added documents. -/
  lang : String := "en"
  deriving Inhabited

namespace Schema

/-- A schema without fields. Its name has to be one that normalising leaves as it is. -/
def new (name : String) : Except SearchError Schema := do
  if (← normalizeName name) = name then .ok { name } else .error (.invalidDomainName name)

/-- The field of a name. -/
def field? (s : Schema) (name : String) : Option Field := s.fields.find? (·.name = name)

def hasField (s : Schema) (name : String) : Bool := (s.field? name).isSome

/-- Adds a field at the end. -/
def addField (s : Schema) (f : Field) : Except SearchError Schema :=
  if s.hasField f.name then .error (.duplicateField s.name f.name)
  else .ok { s with fields := s.fields ++ [f] }

def definitions (s : Schema) : List FieldDefinition := s.fields.map Field.definition

/-- The operation that adds or replaces the document of a record. Fields without a value and empty
lists are left out; empty texts and zeros are not. -/
def addition (s : Schema) (record : Json) (recordId : String) (version : Nat) : DocumentOperation :=
  .add (documentId recordId) version s.lang <| Sorted.ofEntries <| s.fields.filterMap fun f =>
    ((f.valueFor record).filter (! ·.isEmpty)).map (f.name, ·)

/-- The operation that deletes the document of a record. -/
def deletion (recordId : String) (version : Nat) : DocumentOperation :=
  .delete (documentId recordId) version

end Schema

end SearchIndex
