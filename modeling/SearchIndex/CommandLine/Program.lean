import SearchIndex.CommandLine.Condition
import SearchIndex.CommandLine.Files
import SearchIndex.CommandLine.Invocation
import SearchIndex.Json.Writer
import SearchIndex.SchemaFile
import SearchIndex.Text.Escaped

/-!
The inspection tool: it loads its settings, opens a schema file and prints what an index would send
to its remote service. It sends nothing.
-/

namespace SearchIndex.CommandLine

/-- One link in the account of a failure. -/
inductive Cause where
  /-- What was being done, or what is wrong, in words. -/
  | note (text : String)
  | search (error : SearchError)
  | settingsText
  | tomlText
  | jsonText
  | system
  deriving Repr, Inhabited

def Cause.message : Cause → String
  | note text => text
  | search error => error.message
  | settingsText => "the text is no configuration"
  | tomlText => "the text is no TOML of the expected form"
  | jsonText => "the text is no JSON"
  | system => "the file cannot be read or written"

/-- What the tool does: it ends with a result or with the causes of a failure, the outermost first. -/
abbrev Step (α : Type) : Type := ExceptT (List Cause) FileTask α

namespace Step

variable {α : Type}

/-- Goes on with a result, or fails with its error. -/
def ofResult (r : Except SearchError α) : Step α :=
  match r with
  | .ok a => pure a
  | .error e => throw [.search e]

/-- Goes on with a value, or fails with a note. -/
def ofOption (note : String) (o : Option α) : Step α :=
  match o with
  | some a => pure a
  | none => throw [.note note]

/-- What is said about a file: the words and its path. -/
def aboutFile (words path : String) : Cause := .note (words ++ " " ++ Text.escaped path)

/-- Reads a file of some kind. -/
def readFile (kind path : String) : Step String := do
  match ← (FileTask.readFile path : FileTask _) with
  | .ok text => pure text
  | .error _ => throw [aboutFile ("Read " ++ kind ++ " file") path, .system]

end Step

open Step

/-- The text that is written where the settings file is missing: every setting with its default,
commented out. -/
def exampleSettings : String := "\n".intercalate [
  "# cloudindex 配置文件",
  "#",
  "# 此文件在首次运行时自动创建，所有项都可省略",
  "",
  "# 所有域名的前缀，如 \"prod-\"",
  "# domain-prefix = \"\"",
  "",
  "# 查询结果中的警告是否视为错误",
  "# fatal-warnings = true",
  "",
  "# 重建索引后轮询状态的首次等待时长（毫秒），之后每次翻倍",
  "# initial-backoff-ms = 1000",
  "",
  "# 写入文档的语言标记",
  "# lang = \"en\"",
  ""]

/-- What every failure to load the settings begins with. -/
def loadingSettings : Cause := .note "Load configuration error"

/-- The settings in a file. If the usual file is missing it is created, and all settings are the
defaults. -/
def loadSettings (env : Location.Environment) (config : Option String) : Step Settings := do
  let path := config.getD (Location.settingsPath env)
  match ← (FileTask.readFile path : FileTask _), config with
  | .ok text, _ =>
    match Settings.ofText text with
    | .ok settings => pure settings
    | .error _ => throw [loadingSettings, aboutFile "Invalid configuration file" path, .settingsText, .tomlText]
  | .error .missing, none =>
    if ← (FileTask.createFile path exampleSettings : FileTask _) then pure {}
    else throw [loadingSettings, .system]
  | .error _, _ => throw [loadingSettings, aboutFile "Read configuration file" path, .system]

/-- Opens a schema file: its key, and a registry with its index. -/
def openSchema (settings : Settings) (path : String) : Step (IndexKey × Registry) := do
  let text ← readFile "schema" path
  match SchemaFile.parse? text with
  | none => throw [aboutFile "Invalid schema file" path, .tomlText]
  | some file =>
    let (result, registry) := file.register { settings }
    ofResult result
    pure (file.key, registry)

/-- The schema in a schema file. -/
def schemaIn (settings : Settings) (path : String) : Step Schema := do
  let (key, registry) ← openSchema settings path
  return (← ofOption "schema was not registered" (registry.get? key)).schema

/-- The domain name and the definitions of the fields. -/
def define (settings : Settings) (path : String) : Step String := do
  let schema ← schemaIn settings path
  let definitions := Json.array (schema.definitions.map FieldDefinition.toJson)
  return "domain: " ++ schema.name ++ "\n" ++ definitions.pretty ++ "\n"

/-- The id in a record: its member `id`, if that is a text or a number. -/
def recordId? (record : Json) : Option String :=
  match record.member? "id" with
  | some (.string s) => some s
  | some (.number n) => some n.text
  | _ => none

/-- The operation that adds or deletes the document of a record. -/
def document (settings : Settings) (path recordPath : String) (id : Option String) (version : Nat)
    (delete : Bool) : Step String := do
  let schema ← schemaIn settings path
  let text ← readFile "record" recordPath
  match Json.parse? text with
  | none => throw [aboutFile "Invalid record file" recordPath, .jsonText]
  | some (.object members) =>
    let record := Json.object members
    let id ← ofOption "record has no `id` property, pass --id" (id.or (recordId? record))
    let operation := if delete then Schema.deletion id version else schema.addition record id version
    return (Json.array [operation.toJson]).pretty ++ "\n"
  | some _ => throw [.note "record must be a JSON object"]

/-- What is said about words that are no condition. -/
def Cause.ofConditionError : ConditionError → Cause
  | .incomplete => .note "expected \"field operator value\""
  | .query error => .search (.query error)

/-- Makes a change to a query. -/
def apply (change : Query.Change) (query : Query) : Step Query := do
  let (result, query) := change query
  ofResult result
  return query

/-- Adds conditions to a query one by one. -/
def addConditions (schema : Schema) : List String → Query → Step Query
  | [], query => pure query
  | words :: rest, query => do
    match Condition.parse words with
    | .error e => throw [.ofConditionError e]
    | .ok c => addConditions schema rest (← apply (Query.addCondition schema c.field c.op c.operand) query)

/-- Makes a change with a value, if there is one. -/
def applyWith {α : Type} (make : α → Query.Change) (value : Option α) (query : Query) : Step Query :=
  match value with
  | some value => apply (make value) query
  | none => pure query

/-- The parameters of a query, a line each. -/
def compile (settings : Settings) (path : String) (options : QueryOptions) : Step String := do
  let (key, registry) ← openSchema settings path
  let schema := (← ofOption "schema was not registered" (registry.get? key)).schema
  let query ← ofResult (registry.search key)
  let query ← addConditions schema options.conditions query
  let query ← applyWith Query.setText options.text query
  let query ← applyWith Query.setRank options.order query
  let query ← applyWith Query.setLimit options.limit query
  let query ← applyWith Query.setOffset options.offset query
  let query ← if options.returning.isEmpty then pure query
    else apply (Query.addReturnFields options.returning) query
  let request ← ofResult query.compile
  return String.join (request.params.map fun (key, value) => key ++ "=" ++ value ++ "\n")

/-- Does what a command line asks for; without a task it tells how the tool is used. -/
def perform (env : Location.Environment) (invocation : Invocation) : Step String := do
  let settings ← loadSettings env invocation.config
  match invocation.task with
  | none => return grammar.help .program
  | some (.define schema) => define settings schema
  | some (.document schema record id version delete) => document settings schema record id version delete
  | some (.compile schema options) => compile settings schema options

/-- How a run of the tool ends. -/
inductive Ending where
  | success (output : String)
  | failure (causes : List Cause)
  | misuse
  deriving Repr, Inhabited

def Ending.exitCode : Ending → Nat
  | success _ => 0
  | failure _ => 1
  | misuse => 2

/-- What is printed. -/
def Ending.output : Ending → String
  | success output => output
  | _ => ""

/-- Runs the tool. Nothing is read before the command line has been understood. -/
def run (env : Location.Environment) (words : List String) : FileTask Ending :=
  match Invocation.ofWords words with
  | .error (.help topic) => .done (.success (grammar.help topic))
  | .error .version => .done (.success (grammar.program ++ " " ++ grammar.version ++ "\n"))
  | .error .misuse => .done .misuse
  | .ok invocation => do
    match ← (perform env invocation).run with
    | .ok output => return .success output
    | .error causes => return .failure causes

end SearchIndex.CommandLine
