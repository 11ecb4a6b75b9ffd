import SearchIndex.Service.Command

/-!
An index at work: a schema together with what is known of its remote domain. The status of the
domain is asked for once and kept, and so is each endpoint once it has been told; a new status,
which has to be asked for by force, drops both endpoints.
-/

namespace SearchIndex

structure Cache where
  status : Option DomainStatus := none
  searchEndpoint : Option String := none
  documentEndpoint : Option String := none
  deriving DecidableEq, Repr, Inhabited

namespace Cache

def endpoint? (c : Cache) : Channel → Option String
  | .search => c.searchEndpoint
  | .document => c.documentEndpoint

def withEndpoint (c : Cache) (endpoint : String) : Channel → Cache
  | .search => { c with searchEndpoint := some endpoint }
  | .document => { c with documentEndpoint := some endpoint }

end Cache

structure Index where
  schema : Schema
  cache : Cache := {}
  deriving Inhabited

namespace Index

open Command

/-- Asks for the status of the domain and keeps it. A domain without any status does not exist. -/
def describe : Command Index DomainStatus := do
  let name := (← state).schema.name
  match ← ask (.describe name) (·.describe · name) with
  | [] => fail (.domainNotFound name)
  | status :: _ =>
    put { ← state with cache := { status := some status } }
    return status

/-- The status of the domain: the one that is kept, unless there is none or a new one is forced. -/
def status (force : Bool) : Command Index DomainStatus := do
  match (← state).cache.status, force with
  | some status, false => return status
  | _, _ => describe

/-- The endpoint of a service. -/
def endpoint (channel : Channel) : Command Index String := do
  match (← state).cache.endpoint? channel with
  | some endpoint => return endpoint
  | none =>
    match (← status false).endpoint? channel with
    | none => fail (.endpointUnavailable (← state).schema.name channel)
    | some endpoint =>
      let ix ← state
      put { ix with cache := ix.cache.withEndpoint endpoint channel }
      return endpoint

/-- Posts one operation. -/
def submit (operation : DocumentOperation) : Command Index Json := do
  let endpoint ← endpoint .document
  ask (.post endpoint [operation]) (·.post · endpoint [operation])

/-- Adds or replaces the document of a record. -/
def post (record : Json) (recordId : String) (version : Nat) : Command Index Json := do
  submit ((← state).schema.addition record recordId version)

/-- Deletes the document of a record. -/
def delete (recordId : String) (version : Nat) : Command Index Json :=
  submit (Schema.deletion recordId version)

/-- Creates the domain, which does nothing if it is there, and defines its fields one by one. -/
def create : Command Index Unit := do
  let schema := (← state).schema
  ask (.create schema.name) (·.create · schema.name)
  forEach (fun d => ask (.define schema.name d) (·.define · schema.name d)) schema.definitions

/-- Has the documents indexed again, without waiting for it. -/
def reindex : Command Index Unit := do
  let name := (← state).schema.name
  ask (.index name) (·.index · name)

end Index

end SearchIndex
