import SearchIndex.Proofs.Search.Answer
import SearchIndex.Proofs.Search.Response

/-!
# What is told of the answer

The operation that gets the body fails if the body is no response, or for its first warning where warnings are
fatal. Neither is told again: from then on the count and the hits are those of the body, or both fail with the
messages that the body has in place of hits.
-/

namespace SearchIndex

variable {service : Service} {body : Json} {q : Query}

/-- The first warning among some remarks. -/
def ServiceMessage.IsFirstWarning (w : ServiceMessage) (remarks : List ServiceMessage) : Prop :=
  ∃ before after, remarks = before ++ w :: after ∧ w.severity = "warning" ∧ ∀ m ∈ before, m.severity ≠ "warning"

namespace SearchResponse

/-- The remarks of the information part. -/
def remarks (r : SearchResponse) : List ServiceMessage := r.info.getD []

theorem warnings_of_first {r : SearchResponse} {w : ServiceMessage} (h : w.IsFirstWarning r.remarks) :
    ∃ rest, r.warnings = w :: rest := by
  obtain ⟨before, after, hr, hw, hbefore⟩ := h
  have hnone : before.filter ServiceMessage.isWarning = [] :=
    List.filter_eq_nil_iff.2 fun m hm => by simpa [ServiceMessage.isWarning] using hbefore m hm
  refine ⟨after.filter ServiceMessage.isWarning, ?_⟩
  rw [warnings, ← remarks, hr, List.filter_append, hnone, List.nil_append,
    List.filter_cons_of_pos (by simpa [ServiceMessage.isWarning] using hw)]

theorem warnings_eq_nil {r : SearchResponse} (h : ∀ m ∈ r.remarks, m.severity ≠ "warning") : r.warnings = [] :=
  List.filter_eq_nil_iff.2 fun m hm => by simpa [ServiceMessage.isWarning] using h m hm

theorem hitsSection_eq_ok_iff {r : SearchResponse} {hits : Hits} : r.hitsSection = .ok hits ↔ r.hits = some hits := by
  unfold hitsSection
  cases r.hits <;> simp

theorem hitsSection_eq_error_iff {r : SearchResponse} {e : SearchError} :
    r.hitsSection = .error e ↔ r.hits = none ∧ e = .missingHits r.messages := by
  unfold hitsSection
  cases r.hits <;> simp [eq_comm]

end SearchResponse

namespace Query

/-- The body has hits. -/
def HasHits (body : Json) (hits : Hits) : Prop := ∃ r : SearchResponse, r.Written body ∧ r.hits = some hits

/-- The body has messages in place of hits; a body that is no response has none. -/
inductive LacksHits (body : Json) : List ServiceMessage → Prop
  | unreadable : (¬ ∃ r : SearchResponse, r.Written body) → LacksHits body []
  | messages {r : SearchResponse} : r.Written body → r.hits = none → LacksHits body r.messages

namespace Event

/-- The count and the hits are those of the body, and both fail with its messages just if it has no hits. -/
structure Retells (body : Json) (e : Event) : Prop where
  count : e.operation = .foundCount → ∀ found,
    e.outcome.result = .ok (.count found) ↔ ∃ hits, HasHits body hits ∧ hits.found = found
  hits : e.operation = .hits → ∀ found,
    e.outcome.result = .ok (.hits found) ↔ ∃ hits, HasHits body hits ∧ hits.hit = found
  malformed : e.operation = .foundCount ∨ e.operation = .hits → ∀ error, e.outcome.result = .error error ↔
    ∃ messages, LacksHits body messages ∧ error = .missingHits messages ∧
      error.message = SearchError.malformed
        ("messages: [" ++ ", ".intercalate (messages.map fun m => m.code ++ ": " ++ m.message) ++ "]")

/-- What the operation that gets the body gives. -/
structure Tells (body : Json) (e : Event) : Prop where
  unreadable : (¬ ∃ r : SearchResponse, r.Written body) → e.outcome.result = .error .unreadableResponse
  warned : ∀ (r : SearchResponse) (w : ServiceMessage), r.Written body → e.before.fatalWarnings = true →
    w.IsFirstWarning r.remarks → e.outcome.result = .error (.warning w.code w.message)
  goesOn : ∀ r : SearchResponse, r.Written body →
    (e.before.fatalWarnings = false ∨ ∀ m ∈ r.remarks, m.severity ≠ "warning") →
    (e.operation = .execute → e.outcome.result = .ok (.executed true)) ∧ e.Retells body

end Event

/-! ## Reading the answer -/

section

variable (h : q.response = some (Search.kept (SearchResponse.ofJson body)))

include h

theorem answer_of_written {r : SearchResponse} (hr : r.Written body) : q.answer = r.hitsSection := by
  rw [answer, h, SearchResponse.ofJson_of_written hr]
  rfl

theorem answer_of_not_written (hr : ¬ ∃ r : SearchResponse, r.Written body) : q.answer = .error (.missingHits []) := by
  rw [answer, h, SearchResponse.ofJson_of_not_written hr]
  rfl

/-- The answer that is kept of a body has the hits of the body. -/
theorem answer_eq_ok_iff {hits : Hits} : q.answer = .ok hits ↔ HasHits body hits := by
  constructor
  · intro hok
    by_cases hw : ∃ r : SearchResponse, r.Written body
    · obtain ⟨r, hr⟩ := hw
      rw [answer_of_written h hr, SearchResponse.hitsSection_eq_ok_iff] at hok
      exact ⟨r, hr, hok⟩
    · rw [answer_of_not_written h hw] at hok
      cases hok
  · rintro ⟨r, hr, hh⟩
    rw [answer_of_written h hr, SearchResponse.hitsSection_eq_ok_iff, hh]

/-- Where the body has no hits the answer has its messages. -/
theorem answer_eq_error_iff {e : SearchError} :
    q.answer = .error e ↔ ∃ messages, LacksHits body messages ∧ e = .missingHits messages := by
  constructor
  · intro he
    by_cases hw : ∃ r : SearchResponse, r.Written body
    · obtain ⟨r, hr⟩ := hw
      rw [answer_of_written h hr, SearchResponse.hitsSection_eq_error_iff] at he
      exact ⟨r.messages, .messages hr he.1, he.2⟩
    · rw [answer_of_not_written h hw] at he
      cases he
      exact ⟨[], .unreadable hw, rfl⟩
  · rintro ⟨messages, hr | ⟨hr, hh⟩, rfl⟩
    · exact answer_of_not_written h hr
    · rw [answer_of_written h hr, SearchResponse.hitsSection_eq_error_iff]
      exact ⟨hh, rfl⟩

end

namespace Operation

variable {s t : Search} {x x' : Exchange} {sent : Bool}

/-- What the operations give once the query has been sent. -/
theorem command_of_sent (h : Search.execute service s x = ⟨.ok sent, t, x'⟩) :
    execute.command service s x = ⟨.ok (.executed sent), t, x'⟩ ∧
    foundCount.command service s x = ⟨t.query.answer.map fun hits => .count hits.found, t, x'⟩ ∧
    hits.command service s x = ⟨t.query.answer.map fun hits => .hits hits.hit, t, x'⟩ := by
  simp only [command, Search.foundCount, Search.hits, Command.bind_apply, h, Command.state_apply,
    Command.ofResult_apply]
  cases t.query.answer <;> exact ⟨rfl, rfl, rfl⟩

end Operation

namespace Event

variable {op : Operation} {s t : Search} {x x' : Exchange} {sent : Bool}

/-- An operation on a query that has been sent tells the answer that is kept. -/
theorem retells_of_sent (h : Search.execute service s x = ⟨.ok sent, t, x'⟩)
    (hkept : t.query.response = some (Search.kept (SearchResponse.ofJson body))) :
    (op.event service s x).Retells body := by
  obtain ⟨-, hcount, hhits⟩ := Operation.command_of_sent h
  refine ⟨?_, ?_, ?_⟩
  · rintro rfl found
    simp [Operation.event, hcount, map_eq_ok, answer_eq_ok_iff hkept]
  · rintro rfl found
    simp [Operation.event, hhits, map_eq_ok, answer_eq_ok_iff hkept]
  · rintro (rfl | rfl) error
    all_goals
      simp only [Operation.event, hcount, hhits, map_eq_error, answer_eq_error_iff hkept]
      constructor
      · rintro ⟨messages, hm, rfl⟩
        exact ⟨messages, hm, rfl, rfl⟩
      · rintro ⟨messages, hm, he, -⟩
        exact ⟨messages, hm, he⟩

/-- An operation that gets a body finds the query open and sends it. -/
theorem sends_of_body (hbody : body ∈ (op.event service s x).bodies service) :
    s.query.response = none ∧ op.Sends := by
  -- without a call there is no body
  have noCalls (h : (op.event service s x).calls = []) : False := by simp [bodies, h, Query.bodies] at hbody
  constructor
  · by_contra hq
    obtain ⟨_, ho, -⟩ := op.frozen_apply service (s := s) x (by simpa [isExecuted, Option.isSome_iff_ne_none] using hq)
    exact noCalls (calls_eq (by simp [Operation.event, ho]))
  · by_contra hop
    exact noCalls (calls_eq (by simp [Operation.event, (op.silent_apply service s x hop).1]))

/-- The body that an operation gets is kept, and decides how sending the query ends. -/
theorem execute_of_body (hbody : body ∈ (op.event service s x).bodies service) :
    (Search.execute service s x).result = Search.verdict s.query.fatalWarnings (SearchResponse.ofJson body) ∧
    (Search.execute service s x).state.query.response = some (Search.kept (SearchResponse.ofJson body)) := by
  obtain ⟨hopen, hop⟩ := sends_of_body hbody
  obtain ⟨new, hlog, -, -, hverdict, -⟩ := Search.execute_spec service hopen x
  have hbodies : (op.event service s x).bodies service = Query.bodies service x.calls new := by
    rw [bodies, calls_eq ((congrArg Exchange.calls (op.sends_apply service s x hop).2.1).trans hlog)]
    rfl
  exact hverdict body (hbodies ▸ hbody)

/-- The operation that gets the body tells its verdict. -/
theorem tells_of_body (hbody : body ∈ (op.event service s x).bodies service) : (op.event service s x).Tells body := by
  obtain ⟨hresult, hkept⟩ := execute_of_body hbody
  obtain ⟨hopen, hop⟩ := sends_of_body hbody
  have hfails := (op.sends_apply service s x hop).2.2
  refine ⟨fun hr => hfails _ ?_, fun r w hr hfatal hw => hfails _ ?_, fun r hr hnone => ?_⟩
  · rw [hresult, SearchResponse.ofJson_of_not_written hr]
    rfl
  · obtain ⟨rest, hwarnings⟩ := SearchResponse.warnings_of_first hw
    have hfatal' : s.query.fatalWarnings = true := hfatal
    rw [hresult, SearchResponse.ofJson_of_written hr, hfatal']
    simp only [Search.verdict, hwarnings]
  · have hok : (Search.execute service s x).result = .ok true := by
      rw [hresult, SearchResponse.ofJson_of_written hr]
      rcases hnone with hfatal | hnone
      · have hfatal' : s.query.fatalWarnings = false := hfatal
        simp [Search.verdict, hfatal']
      · simp [Search.verdict, SearchResponse.warnings_eq_nil hnone]
    rcases hx : Search.execute service s x with ⟨result, t, x'⟩
    rw [hx] at hok hkept
    cases hok
    refine ⟨?_, retells_of_sent hx hkept⟩
    rintro rfl
    simp [Operation.event, (Operation.command_of_sent hx).1]

end Event

/-! ## Operations after the answer -/

/-- The events of an answered query are operations on this very query. -/
theorem mem_events_of_executed (h : q.isExecuted) {steps : List (Operation × Index × Exchange)} {e : Event}
    (he : e ∈ events service q steps) :
    ∃ (op : Operation) (ix : Index) (x : Exchange), e = op.event service ⟨ix, q⟩ x := by
  induction steps with
  | nil => cases he
  | cons step steps ih =>
    obtain ⟨op, ix, x⟩ := step
    obtain ⟨result, ho, -⟩ := op.frozen_apply service (s := ⟨ix, q⟩) x h
    have hafter : (op.event service ⟨ix, q⟩ x).after = q := by simp [Event.after, Operation.event, ho]
    rcases List.mem_cons.1 he with rfl | he
    · exact ⟨op, ix, x, rfl⟩
    · exact ih (hafter ▸ he)

/-- Whichever operation gets the body of a search, it tells that the body is no response, or its first warning
if warnings are fatal, or goes on. Whatever is done with the query afterwards, the count and the hits are those
of the body each time, or both fail with its messages just if it has no hits, and no warning is told again. -/
theorem warning_told_at_most_once (service : Service) (op : Operation) (s : Search) (x : Exchange) (body : Json)
    (hbody : body ∈ (op.event service s x).bodies service) (steps : List (Operation × Index × Exchange)) :
    (op.event service s x).Tells body ∧
    ∀ e ∈ events service (op.event service s x).after steps,
      e.Retells body ∧ ∀ code message, e.outcome.result ≠ .error (.warning code message) := by
  refine ⟨Event.tells_of_body hbody, fun e he => ?_⟩
  have hkept : (op.event service s x).after.response = some (Search.kept (SearchResponse.ofJson body)) := by
    rw [Event.after, Operation.event, (op.sends_apply service s x (Event.sends_of_body hbody).2).1]
    exact (Event.execute_of_body hbody).2
  have hexecuted : (op.event service s x).after.isExecuted := by rw [isExecuted, hkept]; rfl
  obtain ⟨op', ix, x', rfl⟩ := mem_events_of_executed hexecuted he
  have hsent := Search.execute_of_executed service (s := ⟨ix, (op.event service s x).after⟩) hexecuted x'
  refine ⟨Event.retells_of_sent hsent hkept, fun code message hw => ?_⟩
  rw [(Event.of_warning hw trivial).1] at hexecuted
  cases hexecuted

/-- A remark, then two warnings that are fatal: the first is told by the count, and then the hit is there. -/
theorem warning_told_at_most_once_reviews :
    let remark (severity code message : String) : Json := .object
      [("severity", .string severity), ("code", .string code), ("message", .string message)]
    let body : Json := .object
      [("hits", .object [("found", .natural 7), ("hit", .array [.object [("id", .string "x")]])]),
        ("info", .object [("messages", .array [remark "Warning" "W0" "no warning", remark "warning" "W1" "rank ignored",
          remark "warning" "W2" "second"])])]
    let service : Service := {
      create := fun _ _ => .ok ()
      define := fun _ _ _ => .ok ()
      describe := fun _ name => .ok [{ domainName := name, searchEndpoint := some "search" }]
      index := fun _ _ => .ok ()
      post := fun _ _ _ => .ok .null
      search := fun _ _ _ => .ok body }
    let index : Index := { schema := { name := "reviews" } }
    let query : Query := { freeText := some "great", fatalWarnings := true }
    let first : Event := Operation.foundCount.event service ⟨index, query⟩ {}
    let steps : List (Operation × Index × Exchange) := [(.hits, index, {}), (.execute, index, {}), (.foundCount, index, {})]
    body ∈ first.bodies service ∧ first.Tells body ∧
    first.outcome.result = .error (.warning "W1" "rank ignored") ∧
    (∀ e ∈ events service first.after steps,
      e.Retells body ∧ ∀ code message, e.outcome.result ≠ .error (.warning code message)) ∧
    (events service first.after steps).map (fun e => e.outcome.result.toOption) =
      [some (.hits [{ id := "x" }]), some (.executed false), some (.count 7)] := by
  intro remark body service index query first steps
  have hbody : body ∈ first.bodies service := List.mem_singleton.2 rfl
  obtain ⟨htells, hrest⟩ := warning_told_at_most_once service .foundCount ⟨index, query⟩ {} body hbody steps
  exact ⟨hbody, htells, rfl, hrest, rfl⟩

end Query

end SearchIndex
