import SearchIndex.Error
import SearchIndex.Json.Record
import SearchIndex.Schema.FieldValue
import SearchIndex.Text.Escaped

/-!
Fields of an index: a name, a type, where the value of a record comes from, and those options that
the type allows. A field's definition is what the remote service is told about it.
-/

namespace SearchIndex

structure FieldOptions where
  defaultValue : Option String := none
  facetEnabled : Option Bool := none
  searchEnabled : Option Bool := none
  resultEnabled : Option Bool := none
  deriving DecidableEq, Repr, Inhabited

namespace FieldOptions

/-- Without the options that the type does not allow. -/
def restrictedTo (o : FieldOptions) : FieldType → FieldOptions
  | .literal => o
  | .uint => { defaultValue := o.defaultValue }
  | .text => { o with searchEnabled := none }

/-- The members of the options, in their order. -/
def members : List String := ["default_value", "facet_enabled", "search_enabled", "result_enabled"]

/-- Options that are not set are left out. -/
def toJson (o : FieldOptions) : Json :=
  .object <|
    (o.defaultValue.map fun v => ("default_value", .string v)).toList
      ++ (o.facetEnabled.map fun b => ("facet_enabled", .bool b)).toList
      ++ (o.searchEnabled.map fun b => ("search_enabled", .bool b)).toList
      ++ (o.resultEnabled.map fun b => ("result_enabled", .bool b)).toList

def ofJson? (j : Json) : Option FieldOptions := do
  let get ← j.record? members
  return {
    defaultValue := ← Json.optional? Json.asString? (get "default_value")
    facetEnabled := ← Json.optional? Json.asBool? (get "facet_enabled")
    searchEnabled := ← Json.optional? Json.asBool? (get "search_enabled")
    resultEnabled := ← Json.optional? Json.asBool? (get "result_enabled") }

end FieldOptions

/-- What the service is told about a field. The options stand under the key of a type of their
own, which in the definition of a field is the field's type. -/
structure FieldDefinition where
  name : String
  type : FieldType
  optionsType : FieldType
  options : FieldOptions
  deriving DecidableEq, Repr, Inhabited

namespace FieldDefinition

def toJson (d : FieldDefinition) : Json :=
  .object [("index_field_name", .string d.name), ("index_field_type", .string d.type.name),
    (d.optionsType.optionsKey, d.options.toJson)]

/-- A type is given by its name, or as an object whose only member has that name and is null. -/
def typeOfJson? : Json → Option FieldType
  | .string s => FieldType.named? s
  | .object [(s, .null)] => FieldType.named? s
  | _ => none

/-- Reads a definition; of several options objects the first by name counts. -/
def ofJson? : Json → Option FieldDefinition
  | .object members => do
    let name ← Json.required? Json.asString? (members.lookup "index_field_name")
    let type ← Json.required? typeOfJson? (members.lookup "index_field_type")
    let (optionsType, j) ← [FieldType.literal, .text, .uint].findSome? fun t =>
      (members.lookup t.optionsKey).map (t, ·)
    return { name, type, optionsType, options := ← FieldOptions.ofJson? j }
  | _ => none

end FieldDefinition

/-- Where the value of a field comes from: the record's member of a given name, or a computation
on the whole record. -/
inductive Source where
  | accessor (name : String)
  | computed (value : Json → Option FieldValue)

instance : Inhabited Source := ⟨.accessor ""⟩

/-- The value for a record. -/
def Source.value : Source → Json → Option FieldValue
  | accessor name, record => (record.member? name).bind FieldValue.ofJson?
  | computed value, record => value record

structure Field where
  name : String
  type : FieldType
  source : Source
  options : FieldOptions
  deriving Inhabited

namespace Field

/-- A field that reads the member of its own name. -/
def new (name : String) (type : FieldType) (options : FieldOptions) : Field :=
  { name, type, source := .accessor name, options := options.restrictedTo type }

/-- A field whose type is given by its name. -/
def ofTypeName (name type : String) (options : FieldOptions) : Except SearchError Field := do
  return new name (← (FieldType.parse type).mapError .ofUnknownFieldType) options

/-- The value of the field for a record. -/
def valueFor (f : Field) (record : Json) : Option FieldValue := f.source.value record

def definition (f : Field) : FieldDefinition :=
  { name := f.name, type := f.type, optionsType := f.type, options := f.options }

end Field

end SearchIndex
