import SearchIndex.Error
import SearchIndex.Json.Record

/-!
The status of a remote domain.
-/

namespace SearchIndex

structure DomainStatus where
  domainName : String
  /-- Field definitions have changed since the documents were last indexed. -/
  requiresIndexing : Bool := false
  /-- Documents are being indexed. -/
  processing : Bool := false
  /-- A new domain may not have its endpoints yet. -/
  searchEndpoint : Option String := none
  documentEndpoint : Option String := none
  deriving DecidableEq, Repr, Inhabited

namespace DomainStatus

/-- The endpoint of one of the services. -/
def endpoint? (s : DomainStatus) : Channel → Option String
  | .search => s.searchEndpoint
  | .document => s.documentEndpoint

/-- The members of a status, in their order. -/
def members : List String :=
  ["domain_name", "requires_index_documents", "processing", "search_service", "doc_service"]

def endpointToJson (endpoint : Option String) : Json :=
  .object [("endpoint", (endpoint.map Json.string).getD .null)]

def toJson (s : DomainStatus) : Json :=
  .object [("domain_name", .string s.domainName), ("requires_index_documents", .bool s.requiresIndexing),
    ("processing", .bool s.processing), ("search_service", endpointToJson s.searchEndpoint),
    ("doc_service", endpointToJson s.documentEndpoint)]

def endpointOfJson? (j : Json) : Option (Option String) := do
  Json.optional? Json.asString? ((← j.record? ["endpoint"]) "endpoint")

def ofJson? (j : Json) : Option DomainStatus := do
  let get ← j.record? members
  return {
    domainName := ← Json.required? Json.asString? (get "domain_name")
    requiresIndexing := ← Json.withDefault? false Json.asBool? (get "requires_index_documents")
    processing := ← Json.withDefault? false Json.asBool? (get "processing")
    searchEndpoint := ← Json.withDefault? none endpointOfJson? (get "search_service")
    documentEndpoint := ← Json.withDefault? none endpointOfJson? (get "doc_service") }

end DomainStatus

/-- What a status says about the domain's documents. -/
inductive Outlook where
  | needsReindex
  | processing
  | upToDate
  deriving DecidableEq, Repr, Inhabited

namespace Outlook

/-- A domain that is being indexed is processing, also if it will have to be indexed again. -/
def observe (s : DomainStatus) : Outlook :=
  if s.processing then processing else if s.requiresIndexing then needsReindex else upToDate

def name : Outlook → String
  | needsReindex => "NeedsReindex"
  | processing => "Processing"
  | upToDate => "UpToDate"

end Outlook

end SearchIndex
