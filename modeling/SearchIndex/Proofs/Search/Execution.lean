import SearchIndex.Proofs.Index.Describe
import SearchIndex.Proofs.Results
import SearchIndex.Search.Query

/-!
# Sending a query

A query that is open is sent at most once, and there are four ways for that to end.
-/

namespace SearchIndex

variable {service : Service}

namespace Search

/-- What is kept of a body: a body that is no response counts as an empty one. -/
def kept : Except SearchError SearchResponse → SearchResponse
  | .ok response => response
  | .error _ => {}

/-- What is told of a body: an error if it is no response or has a warning and warnings are fatal. -/
def verdict (fatal : Bool) : Except SearchError SearchResponse → Except SearchError Bool
  | .error e => .error e
  | .ok response =>
    match response.warnings, fatal with
    | w :: _, true => .error (.warning w.code w.message)
    | _, _ => .ok true

/-- How sending an open query ends: it does not compile, its index has no endpoint, the service gives no
answer, or the body is kept as the answer. -/
inductive Execution (service : Service) (s : Search) (x : Exchange) : Outcome Search Bool → Prop
  | uncompiled {e} : s.query.compile = .error e → Execution service s x ⟨.error e, s, x⟩
  | unreached {request e ix' x'} : s.query.compile = .ok request →
      Index.endpoint .search service s.index x = ⟨.error e, ix', x'⟩ →
      Execution service s x ⟨.error e, { s with index := ix' }, x'⟩
  | unanswered {request endpoint e ix' x'} : s.query.compile = .ok request →
      Index.endpoint .search service s.index x = ⟨.ok endpoint, ix', x'⟩ →
      service.search x'.calls endpoint request.params = .error e →
      Execution service s x ⟨.error (.transport e), { s with index := ix' },
        { x' with calls := x'.calls ++ [.search endpoint request.params] }⟩
  | answered {request endpoint body ix' x'} : s.query.compile = .ok request →
      Index.endpoint .search service s.index x = ⟨.ok endpoint, ix', x'⟩ →
      service.search x'.calls endpoint request.params = .ok body →
      Execution service s x ⟨verdict s.query.fatalWarnings (SearchResponse.ofJson body),
        { index := ix', query := { s.query with response := some (kept (SearchResponse.ofJson body)) } },
        { x' with calls := x'.calls ++ [.search endpoint request.params] }⟩

theorem execute_of_executed (service : Service) {s : Search} (h : s.query.isExecuted) (x : Exchange) :
    execute service s x = ⟨.ok false, s, x⟩ := by
  simp [execute, Command.bind_apply, h]

theorem execution_of_open (service : Service) {s : Search} (h : s.query.isExecuted = false) (x : Exchange) :
    Execution service s x (execute service s x) := by
  simp only [execute]
  rw [Command.bind_of_ok (Command.state_apply _ _ _)]
  simp only [h, Bool.false_eq_true, if_false]
  rcases hc : s.query.compile with e | request
  · exact .uncompiled hc
  rw [Command.bind_of_ok (Command.ofResult_apply _ _ _ _)]
  rcases he : Index.endpoint .search service s.index x with ⟨e | endpoint, ix', x'⟩
  · have hi : onIndex (Index.endpoint .search) service s x = ⟨.error e, { s with index := ix' }, x'⟩ := by
      simp [onIndex, he]
    rw [Command.bind_of_error hi]
    exact .unreached hc he
  have hi : onIndex (Index.endpoint .search) service s x = ⟨.ok endpoint, { s with index := ix' }, x'⟩ := by
    simp [onIndex, he]
  rw [Command.bind_of_ok hi, Command.bind_apply, Command.ask_apply]
  rcases hs : service.search x'.calls endpoint request.params with e | body
  · exact .unanswered hc he hs
  have answered : ∀ o, o = _ → Execution service s x o := fun _ ho => ho ▸ .answered hc he hs
  refine answered _ ?_
  simp only [mapError_ok]
  rcases SearchResponse.ofJson body with e | response
  · rfl
  · rcases hw : response.warnings with _ | ⟨w, rest⟩ <;> cases s.query.fatalWarnings <;>
      simp [verdict, kept, setQuery, Command.bind_apply, hw]

end Search

end SearchIndex
