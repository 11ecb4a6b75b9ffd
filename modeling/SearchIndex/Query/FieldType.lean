import SearchIndex.Text.Blank
import SearchIndex.Text.Lowercase

/-!
The kinds of fields that the remote index knows.
-/

namespace SearchIndex

/-- A literal is matched as a whole, an unsigned integer also by range, a text by its words. -/
inductive FieldType where
  | literal
  | uint
  | text
  deriving DecidableEq, Repr, Inhabited

namespace FieldType

def name : FieldType → String
  | literal => "literal"
  | uint => "uint"
  | text => "text"

/-- The member of a field definition that holds the options of this type. -/
def optionsKey : FieldType → String
  | literal => "literal_options"
  | uint => "u_int_options"
  | text => "text_options"

/-- Whether values of this type stand in clauses without quotes. -/
def isNumeric : FieldType → Bool
  | uint => true
  | _ => false

/-- The type with exactly this name. -/
def named? : String → Option FieldType
  | "literal" => some literal
  | "uint" => some uint
  | "text" => some text
  | _ => none

/-- Reads the name of a type, in any case and with blanks around it. -/
def parse? (s : String) : Option FieldType := named? (Text.lower (Text.trim s))

end FieldType

/-- A text that names no field type. -/
structure UnknownFieldType where
  text : String
  deriving DecidableEq, Repr, Inhabited

def UnknownFieldType.message (e : UnknownFieldType) : String := s!"invalid field type '{e.text}'"

/-- Reads the name of a type, or says which text is none. -/
def FieldType.parse (s : String) : Except UnknownFieldType FieldType :=
  match parse? s with
  | some type => .ok type
  | none => .error { text := s }

end SearchIndex
