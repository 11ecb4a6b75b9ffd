import SearchIndex.Error
import SearchIndex.Json.Record

/-!
Search responses. A response has hits, or else messages that say what went wrong; remarks on a
search that succeeded stand in its information part.
-/

namespace SearchIndex

namespace ServiceMessage

def members : List String := ["severity", "code", "message"]

def ofJson? (j : Json) : Option ServiceMessage := do
  let get ← j.record? members
  return {
    severity := ← Json.withDefault? "" Json.asString? (get "severity")
    code := ← Json.withDefault? "" Json.asString? (get "code")
    message := ← Json.withDefault? "" Json.asString? (get "message") }

def isWarning (m : ServiceMessage) : Bool := m.severity = "warning"

end ServiceMessage

/-- A found document: its id and the values of the fields that were asked for. -/
structure Hit where
  id : String := ""
  data : List (String × Json) := []
  deriving Inhabited

namespace Hit

def asObject? : Json → Option (List (String × Json))
  | .object members => some members
  | _ => none

def ofJson? (j : Json) : Option Hit := do
  let get ← j.record? ["id", "data"]
  return {
    id := ← Json.withDefault? "" Json.asString? (get "id")
    data := ← Json.withDefault? [] asObject? (get "data") }

/-- The first value of a field, unless it is null. A value that is no array counts as one. -/
def first? (h : Hit) (field : String) : Option Json :=
  (match h.data.lookup field with
    | some (.array items) => items.head?
    | value => value).filter (! ·.isNull)

end Hit

structure Hits where
  /-- How many documents match; not all of them need to be listed. -/
  found : Nat := 0
  start : Nat := 0
  hit : List Hit := []
  deriving Inhabited

def Hits.ofJson? (j : Json) : Option Hits := do
  let get ← j.record? ["found", "start", "hit"]
  return {
    found := ← Json.withDefault? 0 Json.asNatural? (get "found")
    start := ← Json.withDefault? 0 Json.asNatural? (get "start")
    hit := ← Json.withDefault? [] (Json.asList? Hit.ofJson?) (get "hit") }

structure SearchResponse where
  hits : Option Hits := none
  /-- The remarks of the information part, if there is one. -/
  info : Option (List ServiceMessage) := none
  messages : List ServiceMessage := []
  deriving Inhabited

namespace SearchResponse

def infoOfJson? (j : Json) : Option (List ServiceMessage) := do
  Json.withDefault? [] (Json.asList? ServiceMessage.ofJson?) ((← j.record? ["messages"]) "messages")

def ofJson? (j : Json) : Option SearchResponse := do
  let get ← j.record? ["hits", "info", "messages"]
  return {
    hits := ← Json.optional? Hits.ofJson? (get "hits")
    info := ← Json.optional? infoOfJson? (get "info")
    messages := ← Json.withDefault? [] (Json.asList? ServiceMessage.ofJson?) (get "messages") }

/-- Reads a response, or says that the body is none. -/
def ofJson (j : Json) : Except SearchError SearchResponse :=
  match ofJson? j with
  | some r => .ok r
  | none => .error .unreadableResponse

/-- The warnings among the remarks, in their order. -/
def warnings (r : SearchResponse) : List ServiceMessage :=
  (r.info.getD []).filter ServiceMessage.isWarning

/-- The hits section, or the messages that stand in its place. -/
def hitsSection (r : SearchResponse) : Except SearchError Hits :=
  match r.hits with
  | some hits => .ok hits
  | none => .error (.missingHits r.messages)

end SearchResponse

end SearchIndex
