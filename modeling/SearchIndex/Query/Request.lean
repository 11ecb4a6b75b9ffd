import SearchIndex.Json.Record
import SearchIndex.Query.Error

/-!
A search request and the parameters that carry it to a search endpoint.
-/

namespace SearchIndex

/-- How many hits are asked for unless the caller says otherwise: more than the service returns. -/
def defaultLimit : Nat := 100000

/-- Several clauses hold together under one `and`; a single one stands by itself. -/
def joinClauses : List String → Option String
  | [] => none
  | [only] => some only
  | many => some ("(and " ++ " ".intercalate many ++ ")")

structure SearchRequest where
  freeText : Option String := none
  booleanQuery : Option String := none
  rank : Option String := none
  limit : Nat := defaultLimit
  offset : Option Nat := none
  /-- A set of names, in increasing order. -/
  returnFields : List String := []
  deriving DecidableEq, Repr, Inhabited

namespace SearchRequest

/-- A request from free text and clauses. Empty text counts as none, and one of the two has to be
there. -/
def ofParts (freeText : Option String) (clauses : List String) : Except QueryError SearchRequest :=
  let freeText := freeText.filter (· ≠ "")
  if freeText = none ∧ clauses = [] then .error .noClauses
  else .ok { freeText, booleanQuery := joinClauses clauses }

/-- The query parameters in their order; what is not set is left out. -/
def params (r : SearchRequest) : List (String × String) :=
  (r.freeText.map fun q => ("q", q)).toList
    ++ (r.booleanQuery.map fun bq => ("bq", bq)).toList
    ++ (r.rank.map fun rank => ("rank", rank)).toList
    ++ [("size", toString r.limit)]
    ++ (r.offset.map fun offset => ("start", toString offset)).toList
    ++ if r.returnFields = [] then [] else [("return-fields", ",".intercalate r.returnFields)]

/-- The members of a request, in the order in which an array lists them. -/
def members : List String := ["free_text", "boolean_query", "rank", "limit", "offset", "return_fields"]

/-- Reads a request; one given as an array has to be complete. -/
def ofJson? (j : Json) : Option SearchRequest := do
  if let .array items := j then if items.length ≠ members.length then none
  let get ← j.record? members
  return {
    freeText := ← Json.optional? Json.asString? (get "free_text")
    booleanQuery := ← Json.optional? Json.asString? (get "boolean_query")
    rank := ← Json.optional? Json.asString? (get "rank")
    limit := ← Json.required? Json.asNatural? (get "limit")
    offset := ← Json.optional? Json.asNatural? (get "offset")
    returnFields := Sorted.ofElements (← Json.required? (Json.asList? Json.asString?) (get "return_fields")) }

end SearchRequest

end SearchIndex
