import SearchIndex.CommandLine.Help
import SearchIndex.Settings.Location
import SearchIndex.Text.Integer

/-!
The command line of the inspection tool: its commands and options, and what they ask for.
-/

namespace SearchIndex.CommandLine

inductive Verb where
  | define
  | document
  | compile
  deriving DecidableEq, Repr, Inhabited

namespace Switch

def config : Switch where
  long := "config"
  short := some 'c'
  arity := .value
  valueName := "CONFIG"
  about := "Configuration file (defaults to the platform config directory)"
  accepts path := path ≠ ""

def verbose : Switch where
  long := "verbose"
  short := some 'v'
  arity := .count
  about := "Increase verbosity. Can be used multiple times (e.g., -v, -vv, -vvv)"

def help : Switch where
  long := "help"
  short := some 'h'
  arity := .help
  about := "Print help"

def programVersion : Switch where
  long := "version"
  short := some 'V'
  arity := .version
  about := "Print version"

/-- Whether a value is a number of 64 bits. -/
def isNumber (value : String) : Bool := (Text.unsigned64? value.toList).isSome

def recordId : Switch where
  long := "id"
  arity := .value
  valueName := "ID"
  about := "Record id (defaults to the record's `id` property)"

def documentVersion : Switch where
  long := "version"
  arity := .value
  valueName := "VERSION"
  about := "Document version, must grow with every change"
  required := true
  accepts := isNumber

def delete : Switch where
  long := "delete"
  arity := .flag
  about := "Emit a delete operation instead of an add"

def condition : Switch where
  long := "where"
  short := some 'w'
  arity := .values
  valueName := "CLAUSES"
  about := "Clause as \"field operator value\", e.g. \"helpfulness > 10\""

def text : Switch where
  long := "text"
  short := some 't'
  arity := .value
  valueName := "TEXT"
  about := "Free-text search"

def order : Switch where
  long := "order"
  arity := .value
  valueName := "ORDER"
  about := "Rank expression, e.g. \"-helpfulness\""

def limit : Switch where
  long := "limit"
  arity := .value
  valueName := "LIMIT"
  accepts := isNumber

def offset : Switch where
  long := "offset"
  arity := .value
  valueName := "OFFSET"
  accepts := isNumber

def returning : Switch where
  long := "return"
  short := some 'r'
  arity := .values
  valueName := "RETURNING"
  about := "Field to return with each hit"

end Switch

namespace Place

def schema : Place := { name := "SCHEMA", about := "Schema file (TOML)" }

def record : Place := { name := "RECORD", about := "Record as a JSON object" }

end Place

/-- The grammar of the tool. -/
def grammar : Grammar Verb where
  program := Location.programName
  version := "0.1.0"
  about := "Offline inspection tool for remote search index schemas"
  switches := [.config, .verbose, .help, .programVersion]
  commands := [
    { verb := .define
      name := "define"
      about := "Print the domain name and field definitions of a schema file"
      places := [.schema]
      switches := [.config, .verbose, .help] },
    { verb := .document
      name := "document"
      about := "Print the document operation for a record"
      places := [.schema, .record]
      switches := [.recordId, .documentVersion, .delete, .config, .verbose, .help] },
    { verb := .compile
      name := "compile"
      about := "Compile a query into search endpoint parameters"
      places := [.schema]
      switches := [.condition, .text, .order, .config, .limit, .offset, .verbose, .returning, .help] }]

/-- The options of a query. -/
structure QueryOptions where
  conditions : List String := []
  text : Option String := none
  order : Option String := none
  limit : Option Nat := none
  offset : Option Nat := none
  returning : List String := []
  deriving DecidableEq, Repr, Inhabited

inductive Task where
  | define (schema : String)
  | document (schema record : String) (id : Option String) (version : Nat) (delete : Bool)
  | compile (schema : String) (options : QueryOptions)
  deriving DecidableEq, Repr, Inhabited

/-- What a command line asks for. -/
structure Invocation where
  /-- The settings file, if it is not the usual one. -/
  config : Option String := none
  task : Option Task := none
  deriving DecidableEq, Repr, Inhabited

namespace Invocation

/-- The number in an option. -/
def number? (g : Given) (s : Switch) : Option Nat :=
  (g.value? s.long).bind fun value => Text.unsigned64? value.toList

/-- The task of a command, if all is there that it needs. -/
def task? (verb : Verb) (g : Given) : Option Task :=
  match verb, g.places with
  | .define, [schema] => some (.define schema)
  | .document, [schema, record] => (number? g .documentVersion).map fun version =>
      .document schema record (g.value? Switch.recordId.long) version (g.has Switch.delete.long)
  | .compile, [schema] => some (.compile schema {
      conditions := g.values Switch.condition.long
      text := g.value? Switch.text.long
      order := g.value? Switch.order.long
      limit := number? g .limit
      offset := number? g .offset
      returning := g.values Switch.returning.long })
  | _, _ => none

/-- The settings file that is named last: after the command, else before it. -/
def configOf (r : Reading Verb) : Option String :=
  (r.given.value? Switch.config.long).or (r.outer.value? Switch.config.long)

/-- Reads the words of a command line. -/
def ofWords (words : List String) : Except (Stop Verb) Invocation := do
  let r ← Reading.ofWords grammar words
  match r.form with
  | none => return { config := configOf r }
  | some form =>
    match task? form.verb r.given with
    | some task => return { config := configOf r, task := some task }
    | none => throw .misuse

end Invocation

end SearchIndex.CommandLine
