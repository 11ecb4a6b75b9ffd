import SearchIndex.Json.Record
import SearchIndex.Time
import SearchIndex.Toml.Reader

/-!
The settings of a registry of indexes. Every one has a default, and one that is not known is an
error.
-/

namespace SearchIndex

structure Settings where
  /-- Stands before every domain name, for instance the name of an environment. -/
  domainPrefix : String := ""
  /-- Whether warnings in responses are errors. -/
  fatalWarnings : Bool := true
  /-- The first pause while a domain is being rebuilt, in milliseconds. -/
  initialBackoffMs : Nat := 1000
  /-- The language mark of added documents. -/
  lang : String := "en"
  deriving DecidableEq, Repr, Inhabited

/-- Why settings cannot be loaded. -/
inductive SettingsError where
  /-- The file is not there or is no text. -/
  | unreadable
  /-- The text is no settings file. -/
  | malformed
  deriving DecidableEq, Repr, Inhabited

namespace Settings

/-- The members of the settings, in their order. -/
def members : List String := ["domain-prefix", "fatal-warnings", "initial-backoff-ms", "lang"]

def initialBackoff (s : Settings) : Nat := s.initialBackoffMs * Time.millisecond

def toJson (s : Settings) : Json :=
  .object [("domain-prefix", .string s.domainPrefix), ("fatal-warnings", .bool s.fatalWarnings),
    ("initial-backoff-ms", .natural s.initialBackoffMs), ("lang", .string s.lang)]

def ofJson? (j : Json) : Option Settings := do
  let get ← j.closedRecord? members
  return {
    domainPrefix := ← Json.withDefault? "" Json.asString? (get "domain-prefix")
    fatalWarnings := ← Json.withDefault? true Json.asBool? (get "fatal-warnings")
    initialBackoffMs := ← Json.withDefault? 1000 Json.asNatural? (get "initial-backoff-ms")
    lang := ← Json.withDefault? "en" Json.asString? (get "lang") }

/-- Reads the text of a settings file. -/
def ofText (text : String) : Except SettingsError Settings :=
  match ((Toml.parse? text).bind Toml.Value.toJson?).bind ofJson? with
  | some s => .ok s
  | none => .error .malformed

/-- The settings in a file, given by its bytes if it is there. -/
def ofFile (bytes : Option ByteArray) : Except SettingsError Settings :=
  match bytes.bind String.fromUTF8? with
  | some text => ofText text
  | none => .error .unreadable

/-- The settings in a file, or the defaults if they cannot be loaded. -/
def ofFileOrDefault (bytes : Option ByteArray) : Settings :=
  match ofFile bytes with
  | .ok s => s
  | .error _ => {}

end Settings

end SearchIndex
