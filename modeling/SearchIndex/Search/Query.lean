import SearchIndex.Index.Basic
import SearchIndex.Query.Clause
import SearchIndex.Query.Request
import SearchIndex.Search.Response

/-!
Queries. A query is built up by changes, sent once, and keeps its answer: from then on every change
is refused and the same hits are handed out without another call. Only a failure before the answer
(nothing to search for, no endpoint, no transport) leaves it open.
-/

namespace SearchIndex

structure Query where
  clauses : List Clause := []
  freeText : Option String := none
  rank : Option String := none
  limit : Nat := defaultLimit
  offset : Option Nat := none
  /-- A set of names, in increasing order. -/
  returnFields : List String := []
  fatalWarnings : Bool := false
  /-- The answer, once there is one. -/
  response : Option SearchResponse := none
  deriving Inhabited

namespace Query

/-- A change of a query: how it ends and the query after it. -/
abbrev Change := Query → Except SearchError Unit × Query

def isExecuted (q : Query) : Bool := q.response.isSome

/-- A query that has been answered refuses every change. -/
def ifOpen (change : Change) : Change := fun q =>
  if q.isExecuted then (.error .alreadyMaterialized, q) else change q

/-- The clause of a condition; the field has to be in the schema. -/
def clause (schema : Schema) (field : String) (op : Operator) (operand : Operand) :
    Except SearchError Clause :=
  match schema.field? field with
  | none => .error (.unknownField schema.name field)
  | some f => (Clause.ofCondition field f.type op operand).mapError .query

/-- Whether warnings in the response are errors. -/
def setFatalWarnings (fatal : Bool) : Change := ifOpen fun q =>
  (.ok (), { q with fatalWarnings := fatal })

/-- Adds a condition. -/
def addCondition (schema : Schema) (field : String) (op : Operator) (operand : Operand) : Change :=
  ifOpen fun q =>
    match clause schema field op operand with
    | .ok c => (.ok (), { q with clauses := q.clauses ++ [c] })
    | .error e => (.error e, q)

/-- Adds the condition that a field equals a value. -/
def addEquality (schema : Schema) (field : String) (operand : Operand) : Change :=
  addCondition schema field .equals operand

/-- Adds several such conditions, or none of them if one is refused. -/
def addEqualities (schema : Schema) (pairs : List (String × Operand)) : Change := ifOpen fun q =>
  match pairs.mapM fun p => clause schema p.1 .equals p.2 with
  | .ok cs => (.ok (), { q with clauses := q.clauses ++ cs })
  | .error e => (.error e, q)

/-- Sets the free text. -/
def setText (text : String) : Change := ifOpen fun q => (.ok (), { q with freeText := some text })

/-- Sets the rank expression, which may not be blank. -/
def setRank (expression : String) : Change := ifOpen fun q =>
  if Text.isAllBlank expression then (.error (.query (.emptyRank expression)), q)
  else (.ok (), { q with rank := some expression })

def setLimit (count : Nat) : Change := ifOpen fun q => (.ok (), { q with limit := count })

def setOffset (count : Nat) : Change := ifOpen fun q => (.ok (), { q with offset := some count })

/-- Adds names to the return fields one by one; the first blank one ends it. -/
def addNames : List String → Change
  | [], q => (.ok (), q)
  | name :: rest, q =>
    if Text.isAllBlank name then (.error (.query (.emptyReturnField name)), q)
    else addNames rest { q with returnFields := Sorted.add name q.returnFields }

/-- Adds to the fields that are returned with each hit. -/
def addReturnFields (names : List String) : Change := ifOpen (addNames names)

/-- The request that the query stands for. -/
def compile (q : Query) : Except SearchError SearchRequest :=
  ((SearchRequest.ofParts q.freeText (q.clauses.map Clause.render)).mapError .query).map fun r =>
    { r with rank := q.rank, limit := q.limit, offset := q.offset, returnFields := q.returnFields }

/-- The hits of the answer. -/
def answer (q : Query) : Except SearchError Hits :=
  match q.response with
  | some r => r.hitsSection
  | none => .error .unreadableResponse

end Query

/-- A query and the index that it asks. -/
structure Search where
  index : Index
  query : Query
  deriving Inhabited

namespace Search

open Command

def onIndex {α : Type} (c : Command Index α) : Command Search α :=
  focus Search.index (fun index s => { s with index }) c

def setQuery (q : Query) : Command Search Unit := do put { ← state with query := q }

/-- Sends the query, unless it has been answered already; tells whether it did. The answer is kept
before its warnings are looked at, and a body that is no response counts as an empty one. -/
def execute : Command Search Bool := do
  let q := (← state).query
  if q.isExecuted then return false
  let request ← ofResult q.compile
  let endpoint ← onIndex (Index.endpoint .search)
  let body ← ask (.search endpoint request.params) (·.search · endpoint request.params)
  match SearchResponse.ofJson body with
  | .error e =>
    setQuery { q with response := some {} }
    fail e
  | .ok response =>
    setQuery { q with response := some response }
    match response.warnings, q.fatalWarnings with
    | w :: _, true => fail (.warning w.code w.message)
    | _, _ => return true

/-- How many documents match. -/
def foundCount : Command Search Nat := do
  let _ ← execute
  return (← ofResult (← state).query.answer).found

/-- The hits, the same ones each time. -/
def hits : Command Search (List Hit) := do
  let _ ← execute
  return (← ofResult (← state).query.answer).hit

end Search

end SearchIndex
