import SearchIndex.Schema.Basic
import SearchIndex.Service.Status

/-!
The remote service, and what was asked of it. A service is any way of answering: each answer may
depend on all that was called before. The exchange records every call, also pauses and the loading
of found records, in order.
-/

namespace SearchIndex

inductive Call where
  | create (domain : String)
  | define (domain : String) (definition : FieldDefinition)
  | describe (domain : String)
  | index (domain : String)
  | post (endpoint : String) (operations : List DocumentOperation)
  | search (endpoint : String) (params : List (String × String))
  | sleep (pause : Nat)
  | load (ids : List String)
  | find (id : String)
  deriving Repr, Inhabited

/-- The first argument of each answer is the list of the calls before it, the oldest first. -/
structure Service where
  create : List Call → String → Except TransportError Unit
  define : List Call → String → FieldDefinition → Except TransportError Unit
  /-- The statuses of the domain; none if there is no such domain. -/
  describe : List Call → String → Except TransportError (List DomainStatus)
  index : List Call → String → Except TransportError Unit
  post : List Call → String → List DocumentOperation → Except TransportError Json
  search : List Call → String → List (String × String) → Except TransportError Json

/-- The calls so far, the oldest first, and the time. -/
structure Exchange where
  calls : List Call := []
  now : Nat := 0
  deriving Inhabited

/-- What a clock shows after an exchange. `Exchange.now` is the clock that only pauses move. -/
abbrev Clock := Exchange → Nat

end SearchIndex
