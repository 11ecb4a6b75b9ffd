import SearchIndex.Schema.Basic

/-!
The form in which schemas and fields are inspected: every part with its name, texts escaped.
-/

namespace SearchIndex

/-- The parts of a record between braces. -/
def inspectRecord (name : String) (parts : List (String × String)) (rest : List String) : String :=
  name ++ " \x7b " ++ ", ".intercalate (parts.map (fun p => p.1 ++ ": " ++ p.2) ++ rest) ++ " \x7d"

def inspectOption (shown : Option String) : String :=
  match shown with
  | some s => "Some(" ++ s ++ ")"
  | none => "None"

def FieldType.inspect : FieldType → String
  | literal => "Literal"
  | uint => "UInt"
  | text => "Text"

def Source.inspect : Source → String
  | accessor name => "Accessor(" ++ Text.escaped name ++ ")"
  | computed _ => "Computed(..)"

def FieldOptions.inspect (o : FieldOptions) : String :=
  inspectRecord "FieldOptions" [
    ("default_value", inspectOption (o.defaultValue.map Text.escaped)),
    ("facet_enabled", inspectOption (o.facetEnabled.map Json.boolText)),
    ("search_enabled", inspectOption (o.searchEnabled.map Json.boolText)),
    ("result_enabled", inspectOption (o.resultEnabled.map Json.boolText))] []

def Field.inspect (f : Field) : String :=
  inspectRecord "FieldSpec" [("name", Text.escaped f.name), ("field_type", f.type.inspect),
    ("source", f.source.inspect), ("options", f.options.inspect)] []

def Schema.inspect (s : Schema) : String :=
  inspectRecord "IndexSchema" [("name", Text.escaped s.name),
    ("fields", "[" ++ ", ".intercalate (s.fields.map Field.inspect) ++ "]"),
    ("lang", Text.escaped s.lang)] [".."]

end SearchIndex
