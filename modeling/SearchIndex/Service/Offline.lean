import SearchIndex.Service.Basic

/-!
The service of a program that has no transport: it refuses every call and says which it was.
-/

namespace SearchIndex.Service

def refusal {α : Type} (action : String) : Except TransportError α :=
  .error { message := s!"cloudindex runs offline, no transport is configured ({action})" }

def offline : Service where
  create _ domain := refusal s!"create domain {domain}"
  define _ domain definition := refusal s!"define {domain}.{definition.name}"
  describe _ domain := refusal s!"describe {domain}"
  index _ domain := refusal s!"reindex {domain}"
  post _ endpoint _ := refusal s!"post documents to {endpoint}"
  search _ endpoint _ := refusal s!"search {endpoint}"

end SearchIndex.Service
