import SearchIndex.Proofs.History
import SearchIndex.Proofs.Search.Execution

/-!
# A query is answered at most once

Any operations are done on a new query, in any order. The first body that comes back for a search is the
answer: until then a failure leaves the query as it is, and from then on nothing is called and nothing
changes. The index and the service may be used by others in between, so every operation finds them in
whatever state.
-/

namespace SearchIndex.Query

/-! ## Operations -/

/-- A change that the builder of a query offers. -/
inductive Amendment where
  | fatalWarnings (fatal : Bool)
  | condition (field : String) (op : Operator) (operand : Operand)
  | equality (field : String) (operand : Operand)
  | equalities (pairs : List (String × Operand))
  | text (phrase : String)
  | rank (expression : String)
  | limit (count : Nat)
  | offset (count : Nat)
  | returnFields (names : List String)

def Amendment.change (schema : Schema) : Amendment → Change
  | .fatalWarnings fatal => setFatalWarnings fatal
  | .condition field op operand => addCondition schema field op operand
  | .equality field operand => addEquality schema field operand
  | .equalities pairs => addEqualities schema pairs
  | .text phrase => setText phrase
  | .rank expression => setRank expression
  | .limit count => setLimit count
  | .offset count => setOffset count
  | .returnFields names => addReturnFields names

/-- All that can be done with a query. -/
inductive Operation where
  | amend (amendment : Amendment)
  | compile
  | execute
  | foundCount
  | hits

/-- What an operation gives. -/
inductive Reply where
  | amended
  | compiled (request : SearchRequest)
  | executed (sent : Bool)
  | count (found : Nat)
  | hits (hits : List Hit)

namespace Operation

/-- The operations that send the query if it is open. -/
def Sends : Operation → Prop
  | execute | foundCount | hits => True
  | _ => False

def command : Operation → Command Search Reply
  | amend amendment => do
    let s ← Command.state
    let (result, query) := amendment.change s.index.schema s.query
    Search.setQuery query
    Command.ofResult (result.map fun _ => .amended)
  | compile => do return .compiled (← Command.ofResult (← Command.state).query.compile)
  | execute => do return .executed (← Search.execute)
  | foundCount => do return .count (← Search.foundCount)
  | hits => do return .hits (← Search.hits)

end Operation

/-- The bodies that came back for the searches among the calls `new`, which were made after `past`. -/
def bodies (service : Service) : List Call → List Call → List Json
  | _, [] => []
  | past, .search endpoint params :: new =>
    (service.search past endpoint params).toOption.toList ++ bodies service (past ++ [.search endpoint params]) new
  | past, call :: new => bodies service (past ++ [call]) new

/-- An operation that was done: what it found and how it ended. -/
structure Event where
  operation : Operation
  search : Search
  exchange : Exchange
  outcome : Outcome Search Reply

namespace Event

def before (e : Event) : Query := e.search.query

def after (e : Event) : Query := e.outcome.state.query

/-- The calls of the operation. -/
def calls (e : Event) : List Call := e.outcome.exchange.calls.drop e.exchange.calls.length

/-- The bodies that the operation got. -/
def bodies (service : Service) (e : Event) : List Json := Query.bodies service e.exchange.calls e.calls

/-- What an operation does when the operations before it got the bodies `past`. -/
structure Keeps (service : Service) (past : List Json) (e : Event) : Prop where
  /-- The operation only adds to the log. -/
  logged : e.outcome.exchange.calls = e.exchange.calls ++ e.calls
  executed_before : e.before.isExecuted ↔ past ≠ []
  executed_after : e.after.isExecuted ↔ past ++ e.bodies service ≠ []
  once : (past ++ e.bodies service).length ≤ 1
  frozen : past ≠ [] → e.calls = [] ∧ e.after = e.before ∧
    (∀ amendment, e.operation = .amend amendment → e.outcome.result = .error .alreadyMaterialized) ∧
    (e.operation = .execute → e.outcome.result = .ok (.executed false))
  failed : past = [] → e.operation.Sends → e.bodies service = [] →
    e.after = e.before ∧ ∃ error, e.outcome.result = .error error
  silent : ¬ e.operation.Sends → e.calls = []
  uncompiled : past = [] → e.operation.Sends → ∀ error, e.before.compile = .error error →
    e.calls = [] ∧ e.outcome.result = .error error
  params : ∀ endpoint params, .search endpoint params ∈ e.calls →
    ∃ request, e.before.compile = .ok request ∧ params = request.params

end Event

/-- An operation is done. -/
def Operation.event (service : Service) (operation : Operation) (search : Search) (exchange : Exchange) : Event :=
  { operation, search, exchange, outcome := operation.command service search exchange }

/-- What happens when operations are done on a query one after the other, each with the index and the
exchange that it finds. -/
def events (service : Service) : Query → List (Operation × Index × Exchange) → List Event
  | _, [] => []
  | query, (operation, index, exchange) :: rest =>
    let e := operation.event service { index, query } exchange
    e :: events service e.after rest

variable {service : Service}

/-! ## One operation -/

theorem change_of_executed {q : Query} (h : q.isExecuted) (schema : Schema) (a : Amendment) :
    a.change schema q = (.error .alreadyMaterialized, q) := by
  cases a <;> exact if_pos h

/-- What is true of the refusal and of the change is true of a change that may be refused. -/
theorem ifOpen_cases {P : Except SearchError Unit × Query → Prop} {change : Change} {q : Query}
    (hrefused : P (.error .alreadyMaterialized, q)) (hdone : P (change q)) : P (ifOpen change q) := by
  unfold ifOpen
  split
  · exact hrefused
  · exact hdone

theorem ifOpen_response {change : Change} {q : Query} (h : (change q).2.response = q.response) :
    (ifOpen change q).2.response = q.response :=
  ifOpen_cases (P := fun o => o.2.response = q.response) rfl h

theorem addNames_response (names : List String) (q : Query) : (addNames names q).2.response = q.response := by
  induction names generalizing q with
  | nil => rfl
  | cons name names ih =>
    rw [addNames]
    split
    · rfl
    · exact ih _

/-- No change answers a query. -/
theorem change_response (schema : Schema) (a : Amendment) (q : Query) :
    (a.change schema q).2.response = q.response := by
  cases a with
  | condition | equality | equalities | rank =>
    refine ifOpen_response ?_
    split <;> rfl
  | returnFields names => exact ifOpen_response (addNames_response names q)
  | fatalWarnings | text | limit | offset => exact ifOpen_response rfl

theorem isExecuted_eq {q q' : Query} (h : q'.response = q.response) : q'.isExecuted = q.isExecuted := by
  rw [isExecuted, isExecuted, h]

namespace Operation

variable {s : Search} {x : Exchange}

theorem amend_apply (a : Amendment) : (amend a).command service s x =
    ⟨(a.change s.index.schema s.query).1.map fun _ => .amended,
      { s with query := (a.change s.index.schema s.query).2 }, x⟩ := rfl

theorem compile_apply : compile.command service s x = ⟨s.query.compile.map .compiled, s, x⟩ := by
  simp only [command, Command.bind_apply, Command.state_apply, Command.ofResult_apply]
  cases s.query.compile <;> rfl

/-- An operation that sends the query does what sending it does, and fails if that fails. -/
theorem sends_apply (service : Service) (op : Operation) (s : Search) (x : Exchange) (h : op.Sends) :
    (op.command service s x).state = (Search.execute service s x).state ∧
    (op.command service s x).exchange = (Search.execute service s x).exchange ∧
    ∀ e, (Search.execute service s x).result = .error e → (op.command service s x).result = .error e := by
  rcases he : Search.execute service s x with ⟨e | sent, s', x'⟩
  · cases op with
    | amend | compile => cases h
    | execute | foundCount | hits => simp [command, Search.foundCount, Search.hits, Command.bind_apply, he]
  · cases op with
    | amend | compile => cases h
    | execute => simp [command, Command.bind_apply, he]
    | foundCount | hits =>
      simp only [command, Search.foundCount, Search.hits, Command.bind_apply, he, Command.state_apply,
        Command.ofResult_apply]
      cases s'.query.answer <;> simp

/-- An operation on an answered query calls nothing and changes nothing. -/
theorem frozen_apply (service : Service) (op : Operation) (x : Exchange) (h : s.query.isExecuted) :
    ∃ result, op.command service s x = ⟨result, s, x⟩ ∧
    (∀ a, op = .amend a → result = .error .alreadyMaterialized) ∧ (op = .execute → result = .ok (.executed false)) := by
  have he := Search.execute_of_executed service h x
  cases op with
  | amend a => exact ⟨_, by rw [amend_apply, change_of_executed h], by simp [Except.map], by simp⟩
  | compile => exact ⟨_, compile_apply, by simp, by simp⟩
  | execute => exact ⟨.ok (.executed false), by simp [command, Command.bind_apply, he], by simp, by simp⟩
  | foundCount | hits =>
    simp only [command, Search.foundCount, Search.hits, Command.bind_apply, he, Command.state_apply,
      Command.ofResult_apply]
    cases s.query.answer <;> simp

/-- An operation that does not send the query calls nothing and does not answer it. -/
theorem silent_apply (service : Service) (op : Operation) (s : Search) (x : Exchange) (h : ¬ op.Sends) :
    (op.command service s x).exchange = x ∧
    (op.command service s x).state.query.isExecuted = s.query.isExecuted := by
  cases op with
  | amend a => exact ⟨rfl, isExecuted_eq (change_response s.index.schema a s.query)⟩
  | compile => rw [compile_apply]; exact ⟨rfl, rfl⟩
  | execute | foundCount | hits => exact (h trivial).elim

end Operation

theorem bodies_append (service : Service) {new : List Call} (h : AreDescribes new) (past rest : List Call) :
    bodies service past (new ++ rest) = bodies service (past ++ new) rest := by
  induction new generalizing past with
  | nil => simp
  | cons call new ih =>
    obtain ⟨name, rfl⟩ := h call (by simp)
    rw [List.cons_append, bodies, ih (fun c hc => h c (by simp [hc])), List.append_assoc]
    · rfl
    · simp

theorem bodies_of_describes {new : List Call} (h : AreDescribes new) (past : List Call) :
    bodies service past new = [] := by
  simpa [bodies] using bodies_append service h past []

theorem not_search_mem {new : List Call} (h : AreDescribes new) (endpoint : String) (params : List (String × String)) :
    .search endpoint params ∉ new := by
  intro hm
  obtain ⟨name, hn⟩ := h _ hm
  cases hn

theorem params_of_search_mem {new : List Call} (h : AreDescribes new) {endpoint endpoint' : String}
    {params params' : List (String × String)}
    (hm : .search endpoint' params' ∈ new ++ [.search endpoint params]) : params' = params := by
  rcases List.mem_append.1 hm with hm | hm
  · exact (not_search_mem h _ _ hm).elim
  · simp only [List.mem_singleton, Call.search.injEq] at hm
    exact hm.2

namespace Event

theorem calls_eq {e : Event} {new : List Call} (h : e.outcome.exchange.calls = e.exchange.calls ++ new) :
    e.calls = new := by rw [calls, h, List.drop_left]

variable {op : Operation} {s : Search} {x : Exchange} {past : List Json}

theorem keeps_of_executed (h : s.query.isExecuted) (hp : past ≠ []) (hlen : past.length ≤ 1) :
    (op.event service s x).Keeps service past := by
  obtain ⟨result, ho, hamend, hexecute⟩ := op.frozen_apply service x h
  have hlog : (op.event service s x).outcome.exchange.calls = x.calls ++ [] := by simp [Operation.event, ho]
  have hcalls : (op.event service s x).calls = [] := calls_eq hlog
  have hafter : (op.event service s x).after = s.query := by simp [after, Operation.event, ho]
  have hbodies : (op.event service s x).bodies service = [] := by rw [bodies, hcalls]; rfl
  exact {
    logged := by rw [hcalls]; exact hlog
    executed_before := iff_of_true h hp
    executed_after := by rw [hafter, hbodies, List.append_nil]; exact iff_of_true h hp
    once := by rw [hbodies, List.append_nil]; exact hlen
    frozen := fun _ => by
      refine ⟨hcalls, hafter, fun a ha => ?_, fun he => ?_⟩ <;> simp only [Operation.event, ho]
      · exact hamend a ha
      · exact hexecute he
    failed := fun h' => (hp h').elim
    silent := fun _ => hcalls
    uncompiled := fun h' => (hp h').elim
    params := by simp [hcalls] }

/-- What is to be shown of an operation on an open query that gets no body. -/
theorem keeps_of_unanswered {e : Event} (new : List Call) (hopen : e.before.isExecuted = false)
    (hlog : e.outcome.exchange.calls = e.exchange.calls ++ new)
    (hbodies : Query.bodies service e.exchange.calls new = []) (hafter : e.after.isExecuted = false)
    (hfail : e.operation.Sends → e.after = e.before ∧ ∃ error, e.outcome.result = .error error)
    (hsilent : ¬ e.operation.Sends → new = [])
    (huncompiled : e.operation.Sends → ∀ error, e.before.compile = .error error →
      new = [] ∧ e.outcome.result = .error error)
    (hparams : ∀ endpoint params, .search endpoint params ∈ new →
      ∃ request, e.before.compile = .ok request ∧ params = request.params) : e.Keeps service [] := by
  have hcalls : e.calls = new := calls_eq hlog
  have hbodies' : e.bodies service = [] := by rw [bodies, hcalls, hbodies]
  exact {
    logged := by rw [hcalls, hlog]
    executed_before := by simp [hopen]
    executed_after := by simp [hafter, hbodies']
    once := by simp [hbodies']
    frozen := fun h => (h rfl).elim
    failed := fun _ hs _ => hfail hs
    silent := fun hs => by rw [hcalls, hsilent hs]
    uncompiled := fun _ => by rw [hcalls]; exact huncompiled
    params := by rw [hcalls]; exact hparams }

theorem keeps_of_silent (h : s.query.isExecuted = false) (hop : ¬ op.Sends) :
    (op.event service s x).Keeps service [] := by
  obtain ⟨hx, hq⟩ := op.silent_apply service s x hop
  refine keeps_of_unanswered [] h ?_ rfl (hq.trans h) (fun hs => (hop hs).elim) (fun _ => rfl)
    (fun hs => (hop hs).elim) (by simp)
  simp [Operation.event, hx]

theorem keeps_of_sends (h : s.query.isExecuted = false) (hop : op.Sends) :
    (op.event service s x).Keeps service [] := by
  obtain ⟨hstate, hx, herror⟩ := op.sends_apply service s x hop
  have hs := Search.execution_of_open service h x
  obtain ⟨new, hend, hd⟩ := Index.endpoint_spec service s.index .search x
  have hnew := congrArg Exchange.calls hend
  generalize Search.execute service s x = o at hstate hx herror hs
  cases hs with
  | uncompiled hc =>
    refine keeps_of_unanswered [] h ?_ rfl ?_ ?_ (fun _ => rfl) ?_ (by simp)
    · simp [Operation.event, hx]
    · simpa [after, Operation.event, hstate] using h
    · exact fun _ => ⟨by simp [after, before, Operation.event, hstate], _, herror _ rfl⟩
    · intro _ error he
      have : error = _ := Except.error.inj (he.symm.trans hc)
      exact ⟨rfl, this ▸ herror _ rfl⟩
  | unreached hc he =>
    rw [he] at hnew
    refine keeps_of_unanswered new h ?_ (bodies_of_describes hd _) ?_ ?_ (fun h' => (h' hop).elim) ?_ ?_
    · simpa [Operation.event, hx] using hnew
    · simpa [after, Operation.event, hstate] using h
    · exact fun _ => ⟨by simp [after, before, Operation.event, hstate], _, herror _ rfl⟩
    · intro _ error he
      cases he.symm.trans hc
    · exact fun _ _ hm => (not_search_mem hd _ _ hm).elim
  | @unanswered request endpoint e ix' x' hc he hbody =>
    rw [he] at hnew
    simp only at hnew
    refine keeps_of_unanswered (new ++ [.search endpoint request.params]) h ?_ ?_ ?_ ?_
      (fun h' => (h' hop).elim) ?_ ?_
    · simp [Operation.event, hx, hnew]
    · rw [bodies_append service hd]
      simp [Query.bodies, Operation.event, ← hnew, hbody, Except.toOption]
    · simpa [after, Operation.event, hstate] using h
    · exact fun _ => ⟨by simp [after, before, Operation.event, hstate], _, herror _ rfl⟩
    · intro _ error he
      cases he.symm.trans hc
    · exact fun _ _ hm => ⟨request, hc, params_of_search_mem hd hm⟩
  | @answered request endpoint body ix' x' hc he hbody =>
    rw [he] at hnew
    simp only at hnew
    have hlog : (op.event service s x).outcome.exchange.calls = x.calls ++ (new ++ [.search endpoint request.params]) := by
      simp [Operation.event, hx, hnew]
    have hcalls : (op.event service s x).calls = new ++ [.search endpoint request.params] := calls_eq hlog
    have hbodies : (op.event service s x).bodies service = [body] := by
      rw [bodies, hcalls, bodies_append service hd]
      simp [Query.bodies, Operation.event, ← hnew, hbody, Except.toOption]
    exact {
      logged := by rw [hcalls]; exact hlog
      executed_before := by simp [before, Operation.event, h]
      executed_after := by rw [hbodies]; simp [after, Operation.event, hstate, isExecuted]
      once := by simp [hbodies]
      frozen := fun h' => (h' rfl).elim
      failed := fun _ _ hb => by simp [hbodies] at hb
      silent := fun h' => (h' hop).elim
      uncompiled := fun _ _ error he => by cases he.symm.trans hc
      params := by rw [hcalls]; exact fun _ _ hm => ⟨request, hc, params_of_search_mem hd hm⟩ }

theorem keeps (h : s.query.isExecuted ↔ past ≠ []) (hlen : past.length ≤ 1) :
    (op.event service s x).Keeps service past := by
  cases hq : s.query.isExecuted with
  | true => exact keeps_of_executed hq (h.1 hq) hlen
  | false =>
    have hp : past = [] := by simpa [hq] using h
    subst hp
    by_cases hop : op.Sends
    · exact keeps_of_sends hq hop
    · exact keeps_of_silent hq hop

theorem Keeps.not_executed {e : Event} {call : Call} (h : e.Keeps service past) (hc : call ∈ e.calls) :
    ¬ e.before.isExecuted := by
  intro he
  rw [(h.frozen (h.executed_before.1 he)).1] at hc
  cases hc

/-- Without a change the query stays as it is until it is answered. -/
theorem after_of_not_amend (h : ∀ a, op ≠ .amend a) :
    (op.event service s x).after = s.query ∨ (op.event service s x).after.isExecuted := by
  cases hq : s.query.isExecuted with
  | true =>
    obtain ⟨_, ho, -⟩ := op.frozen_apply service x hq
    left
    simp [after, Operation.event, ho]
  | false =>
    by_cases hop : op.Sends
    · have hk : (op.event service s x).Keeps service [] := keeps_of_sends hq hop
      by_cases hb : (op.event service s x).bodies service = []
      · exact .inl (hk.failed rfl hop hb).1
      · exact .inr (hk.executed_after.2 hb)
    · cases op with
      | amend a => exact (h a rfl).elim
      | compile => exact .inl (by simp [after, Operation.event, Operation.compile_apply])
      | execute | foundCount | hits => exact (hop trivial).elim

end Event

/-! ## Any operations one after the other -/

variable {steps : List (Operation × Index × Exchange)}

theorem events_keep (service : Service) (steps : List (Operation × Index × Exchange)) {q : Query} {past : List Json} (h : q.isExecuted ↔ past ≠ []) (hlen : past.length ≤ 1) :
    EachAfter (fun before e => e.Keeps service (past ++ before.flatMap (Event.bodies service)))
      (events service q steps) ∧
    (past ++ (events service q steps).flatMap (Event.bodies service)).length ≤ 1 := by
  induction steps generalizing q past with
  | nil => exact ⟨eachAfter_nil _, by simpa [events] using hlen⟩
  | cons step steps ih =>
    obtain ⟨op, ix, x⟩ := step
    have hk : (op.event service ⟨ix, q⟩ x).Keeps service past := Event.keeps h hlen
    obtain ⟨hrest, hall⟩ := ih hk.executed_after hk.once
    refine ⟨eachAfter_cons (by simpa using hk) (hrest.mono fun before e _ he => ?_), ?_⟩
    · simpa using he
    · simpa [events] using hall

/-- What comes after some of the events is the events of some query. -/
theorem events_suffix {q : Query} {before rest : List Event} (h : events service q steps = before ++ rest) :
    ∃ q' steps', rest = events service q' steps' := by
  induction before generalizing q steps with
  | nil => exact ⟨q, steps, h.symm⟩
  | cons e before ih =>
    cases steps with
    | nil => cases h
    | cons step steps => exact ih (List.cons.inj h).2

/-- After events without a change the query is the same, unless it has been answered. -/
theorem before_of_no_amend {q : Query} (mid : List Event) {rest : List Event} {e : Event}
    (h : events service q steps = mid ++ e :: rest) (hmid : ∀ f ∈ mid, ∀ a, f.operation ≠ .amend a) :
    e.before = q ∨ e.before.isExecuted := by
  induction mid generalizing q steps with
  | nil =>
    cases steps with
    | nil => cases h
    | cons step steps => exact .inl (by rw [← (List.cons.inj h).1]; rfl)
  | cons f mid ih =>
    cases steps with
    | nil => cases h
    | cons step steps =>
      obtain ⟨rfl, htail⟩ := List.cons.inj h
      rcases ih htail fun f hf => hmid f (by simp [hf]) with he | he
      · rw [he]; exact Event.after_of_not_amend (hmid _ List.mem_cons_self)
      · exact .inr he

/-- Whatever is done on a new query and whatever the service answers, at most one search gets a body, every
operation keeps to what came back before it, and searches with no change in between have the same parameters. -/
theorem answered_at_most_once (service : Service) (steps : List (Operation × Index × Exchange)) :
    let run := events service {} steps
    (run.flatMap (Event.bodies service)).length ≤ 1 ∧
    EachAfter (fun before e => e.Keeps service (before.flatMap (Event.bodies service))) run ∧
    ∀ before e mid e' rest, run = before ++ e :: (mid ++ e' :: rest) →
      (∀ f ∈ e :: mid, ∀ a, f.operation ≠ .amend a) →
      ∀ endpoint params endpoint' params', .search endpoint params ∈ e.calls → .search endpoint' params' ∈ e'.calls →
        params' = params := by
  intro run
  obtain ⟨hkeeps, hlen⟩ := events_keep service steps (q := {})
    (iff_of_false Bool.false_ne_true fun h => h rfl : isExecuted {} ↔ ([] : List Json) ≠ []) (by simp)
  refine ⟨by simpa using hlen, by simpa using hkeeps, ?_⟩
  intro before e mid e' rest hrun hmid endpoint params endpoint' params' hs hs'
  obtain ⟨q, steps', htail⟩ := events_suffix hrun
  have hk : e.Keeps service _ := hkeeps before e _ hrun
  have hk' : e'.Keeps service _ := hkeeps (before ++ e :: mid) e' rest (by simpa using hrun)
  -- both events find the same query, as neither finds it answered
  have he := (before_of_no_amend [] htail.symm (by simp)).resolve_right (hk.not_executed hs)
  have he' := (before_of_no_amend (e :: mid) htail.symm hmid).resolve_right (hk'.not_executed hs')
  obtain ⟨request, hc, rfl⟩ := hk.params _ _ hs
  obtain ⟨request', hc', rfl⟩ := hk'.params _ _ hs'
  rw [he] at hc
  rw [he', hc] at hc'
  cases hc'
  rfl

end SearchIndex.Query
