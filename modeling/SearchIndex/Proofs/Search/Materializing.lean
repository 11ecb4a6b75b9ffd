import SearchIndex.Proofs.Search.Identity
import SearchIndex.Proofs.Search.Verdict

/-!
# Records are loaded once

Any operations are done on a new materializer, in any order. The loader gets the ids of the hits of the one
answer, until it succeeds once: from then on nothing is called, and the same collection is given each time.
-/

namespace SearchIndex

namespace Materializer

variable {α : Type}

/-! ## Operations -/

/-- All that can be done with a materializer. -/
inductive Operation where
  | query (operation : Query.Operation)
  | foundCount
  | materialize
  | iterate

/-- What an operation gives. -/
inductive Reply (α : Type) where
  | query (reply : Query.Reply)
  | count (found : Nat)
  | loaded (loaded : Loaded α)
  | items (items : List α)

namespace Operation

/-- The operations that load the records unless they are there. -/
def Loads : Operation → Prop
  | materialize | iterate => True
  | _ => False

/-- How an operation gives the loaded records. -/
def shown : Operation → Loaded α → Reply α
  | iterate, loaded => .items loaded.items
  | _, loaded => .loaded loaded

/-- What an operation asks of the query. -/
def inner : Operation → Query.Operation
  | query operation => operation
  | foundCount => .foundCount
  | materialize | iterate => .hits

def command : Operation → Command (Session α) (Reply α)
  | query operation => do return .query (← Session.onSearch operation.command)
  | foundCount => do return .count (← Session.foundCount)
  | materialize => do return .loaded (← Session.materialize)
  | iterate => do return .items (← Session.iterate)

end Operation

/-- A call of the loader: the ids that it got and what it gave. -/
structure Load (α : Type) where
  ids : List String
  result : Except String (Loaded α)

/-- The loads among the calls `new`, which were made after `past`. -/
def loads (loader : Loader α) : List Call → List Call → List (Load α)
  | _, [] => []
  | past, .load ids :: new => ⟨ids, loader.load past ids⟩ :: loads loader (past ++ [.load ids]) new
  | past, call :: new => loads loader (past ++ [call]) new

/-- What the successful ones among the loads gave. -/
def collections (made : List (Load α)) : List (Loaded α) := made.filterMap fun l => l.result.toOption

/-- An operation that was done: what it found and how it ended. -/
structure Event (α : Type) where
  operation : Operation
  session : Session α
  exchange : Exchange
  outcome : Outcome (Session α) (Reply α)

namespace Event

def before (e : Event α) : Materializer α := e.session.materializer

def after (e : Event α) : Materializer α := e.outcome.state.materializer

/-- The calls of the operation. -/
def calls (e : Event α) : List Call := e.outcome.exchange.calls.drop e.exchange.calls.length

/-- The bodies that the operation got. -/
def bodies (service : Service) (e : Event α) : List Json := Query.bodies service e.exchange.calls e.calls

/-- The loads of the operation. -/
def loads (loader : Loader α) (e : Event α) : List (Load α) := Materializer.loads loader e.exchange.calls e.calls

/-- What an operation does when the operations before it got the bodies `past` and made the loads `made`. -/
structure Keeps (service : Service) (loader : Loader α) (field : String) (past : List Json)
    (made : List (Load α)) (e : Event α) : Prop where
  /-- The operation only adds to the log. -/
  logged : e.outcome.exchange.calls = e.exchange.calls ++ e.calls
  /-- The first body is the answer, and there is no second. -/
  answer : e.after.query.response = Search.answerOf (past ++ e.bodies service)
  answered_once : (past ++ e.bodies service).length ≤ 1
  searched : ∀ endpoint params, .search endpoint params ∈ e.calls →
    ∃ request, e.before.query.compile = .ok request ∧ params = request.params ∧ field ∈ request.returnFields
  /-- The other operations leave the loader alone. -/
  quiet : ¬ e.operation.Loads → ∀ call ∈ e.calls, call.IsRemote
  ids : ∀ l ∈ e.loads loader, ∃ r hits, e.after.query.response = some r ∧ r.hits = some hits ∧
    Identified field hits.hit l.ids
  told : ∀ l ∈ e.loads loader, e.outcome.result = (l.result.mapError .loader).map e.operation.shown
  /-- What a load gave is kept, and nothing else is. -/
  cached : e.after.loaded = (collections (made ++ e.loads loader)).head?
  loaded_once : (collections (made ++ e.loads loader)).length ≤ 1
  kept : ∀ loaded ∈ collections made,
    e.calls = [] ∧ (e.operation.Loads → e.outcome.result = .ok (e.operation.shown loaded))
  given : e.operation.Loads → ∀ reply, e.outcome.result = .ok reply →
    ∃ loaded ∈ collections (made ++ e.loads loader), reply = e.operation.shown loaded
  /-- A fatal warning comes with the answer, before any load. -/
  warned : ∀ code message, e.outcome.result = .error (.warning code message) →
    past = [] ∧ made = [] ∧ e.loads loader = [] ∧ e.after.loaded = none ∧ e.after.query.isExecuted
  /-- While nothing is loaded, the hits of the answer are loaded with no further search. -/
  again : e.operation.Loads → collections made = [] → ∀ r, e.before.query.response = some r →
    (r.hits = none → e.calls = [] ∧ e.outcome.result = .error (.missingHits r.messages)) ∧
    ∀ hits, r.hits = some hits → ∃ ids finds : List String,
      Identified field hits.hit ids ∧ (∀ l ∈ made, l.ids = ids) ∧
      e.calls = .load ids :: finds.map .find ∧ e.loads loader = [⟨ids, loader.load e.exchange.calls ids⟩]

end Event

/-- An operation is done. -/
def Operation.event (service : Service) (operation : Operation) (session : Session α) (exchange : Exchange) :
    Event α :=
  { operation, session, exchange, outcome := operation.command service session exchange }

/-- What happens when operations are done on a materializer one after the other, each with the index and the
exchange that it finds. -/
def events (service : Service) : Materializer α → List (Operation × Index × Exchange) → List (Event α)
  | _, [] => []
  | materializer, (operation, index, exchange) :: rest =>
    let e := operation.event service { index, materializer } exchange
    e :: events service e.after rest

variable {service : Service}

/-! ## One operation -/

namespace Session

def search (s : Session α) : Search := ⟨s.index, s.materializer.query⟩

def withSearch (s : Session α) (t : Search) : Session α :=
  { index := t.index, materializer := { s.materializer with query := t.query } }

variable {s : Session α} {x : Exchange}

theorem onSearch_apply {β : Type} (c : Command Search β) : onSearch c service s x =
    ⟨(c service s.search x).result, s.withSearch (c service s.search x).state, (c service s.search x).exchange⟩ := rfl

theorem forEach_find (ids : List String) : Command.forEach (fun id => Command.record (.find id)) ids service s x =
    ⟨.ok (), s, { x with calls := x.calls ++ ids.map .find }⟩ := by
  induction ids generalizing x with
  | nil => simp [Command.forEach, Command.pure]
  | cons id ids ih => simp [Command.forEach, Command.bind, Command.record, ih]

theorem load_apply (ids : List String) : load ids service s x =
    ⟨(s.materializer.loader.load x.calls ids).mapError .loader, s, { x with
      calls := x.calls ++ .load ids :: (s.materializer.loader.lookups x.calls ids).map .find }⟩ := by
  simp [load, Command.bind_apply, Command.calls, Command.record, forEach_find]

def withLoaded (s : Session α) (loaded : Option (Loaded α)) : Session α :=
  { s with materializer := { s.materializer with loaded } }

theorem materialize_of_loaded {loaded : Loaded α} (h : s.materializer.loaded = some loaded) :
    materialize service s x = ⟨.ok loaded, s, x⟩ := by
  simp [materialize, Command.bind_apply, h]

theorem materialize_of_error {e t x'} (h : s.materializer.loaded = none)
    (hits : Search.hits service s.search x = ⟨.error e, t, x'⟩) :
    materialize service s x = ⟨.error e, s.withSearch t, x'⟩ := by
  simp [materialize, Command.bind_apply, h, onSearch_apply, hits]

theorem materialize_of_hits {hits t x'} (h : s.materializer.loaded = none)
    (hh : Search.hits service s.search x = ⟨.ok hits, t, x'⟩) :
    let ids := hits.filterMap fun hit => hit.identity? s.materializer.identityField
    let result := s.materializer.loader.load x'.calls ids
    materialize service s x = ⟨result.mapError .loader, (s.withSearch t).withLoaded result.toOption, { x' with
      calls := x'.calls ++ .load ids :: (s.materializer.loader.lookups x'.calls ids).map .find }⟩ := by
  intro ids result
  have hload : load ids service (s.withSearch t) x' = _ := load_apply ids
  simp only [materialize, Command.bind_apply, Command.state_apply, h, onSearch_apply, hh]
  rw [hload]
  have hresult : (s.withSearch t).materializer.loader.load x'.calls ids = result := rfl
  rw [hresult]
  rcases result with e | loaded
  · rw [show (Except.error e : Except String (Loaded α)).toOption = (s.withSearch t).materializer.loaded from h.symm]
    rfl
  · rfl

end Session

/-- How an operation ends: it only asks the query, it gives what is there already, or it loads the hits. -/
inductive Course (service : Service) (op : Operation) (s : Session α) (x : Exchange) :
    Outcome (Session α) (Reply α) → Prop
  | asked {result o} : op.inner.command service s.search x = o →
      (op.Loads → s.materializer.loaded = none ∧ ∃ e, result = .error e) →
      (∀ e, result = .error e → o.result = .error e) →
      Course service op s x ⟨result, s.withSearch o.state, o.exchange⟩
  | again {loaded} : op.Loads → s.materializer.loaded = some loaded →
      Course service op s x ⟨.ok (op.shown loaded), s, x⟩
  | loading {hits ids result t x'} : op.Loads → s.materializer.loaded = none →
      Search.hits service s.search x = ⟨.ok hits, t, x'⟩ →
      hits.filterMap (fun hit => hit.identity? s.materializer.identityField) = ids →
      s.materializer.loader.load x'.calls ids = result →
      Course service op s x ⟨(result.mapError .loader).map op.shown, (s.withSearch t).withLoaded result.toOption,
        { x' with calls := x'.calls ++ .load ids :: (s.materializer.loader.lookups x'.calls ids).map .find }⟩

namespace Operation

variable {op : Operation} {s : Session α} {x : Exchange}

theorem command_of_loads (h : op.Loads) : op.command service s x =
    ⟨(Session.materialize service s x).result.map op.shown, (Session.materialize service s x).state,
      (Session.materialize service s x).exchange⟩ := by
  rcases hm : Session.materialize service s x with ⟨e | loaded, s', x'⟩ <;> cases op with
  | query | foundCount => cases h
  | materialize | iterate => simp [command, Session.iterate, Command.bind_apply, hm, Except.map, shown]

theorem inner_of_loads (h : op.Loads) : op.inner = .hits := by
  cases op with
  | query | foundCount => cases h
  | materialize | iterate => rfl

theorem course (service : Service) (op : Operation) (s : Session α) (x : Exchange) :
    Course service op s x (op.command service s x) := by
  by_cases h : op.Loads
  · rw [command_of_loads h]
    rcases hl : s.materializer.loaded with _ | loaded
    · rcases hh : Search.hits service s.search x with ⟨e | hits, t, x'⟩
      · rw [Session.materialize_of_error hl hh]
        have ho : op.inner.command service s.search x = ⟨.error e, t, x'⟩ := by
          rw [inner_of_loads h, Query.Operation.hits_apply, hh]
          rfl
        exact .asked ho (fun _ => ⟨hl, e, rfl⟩) (by rintro _ ⟨⟩; rfl)
      · rw [Session.materialize_of_hits hl hh]
        exact .loading h hl hh rfl rfl
    · rw [Session.materialize_of_loaded hl]
      exact .again h hl
  · cases op with
    | query operation =>
      rcases ho : operation.command service s.search x with ⟨e | reply, t, x'⟩
      all_goals
        simp only [command, Command.bind_apply, Session.onSearch_apply, ho, Command.pure_apply]
        have hin : (query operation).inner.command service s.search x = _ := ho
      · exact .asked hin (fun h' => (h h').elim) (by rintro _ ⟨⟩; rfl)
      · exact .asked hin (fun h' => (h h').elim) nofun
    | foundCount =>
      rcases ho : Search.foundCount service s.search x with ⟨e | found, t, x'⟩
      all_goals
        simp only [command, Command.bind_apply, Session.foundCount, Session.onSearch_apply, ho, Command.pure_apply]
        have hin : foundCount.inner.command service s.search x = _ := Query.Operation.foundCount_apply
        rw [ho] at hin
      · exact .asked hin (fun h' => (h h').elim) (by rintro _ ⟨⟩; rfl)
      · exact .asked hin (fun h' => (h h').elim) nofun
    | materialize | iterate => exact (h trivial).elim

end Operation

/-! ## The log -/

variable {loader : Loader α}

theorem loads_append (loader : Loader α) (past new rest : List Call) :
    loads loader past (new ++ rest) = loads loader past new ++ loads loader (past ++ new) rest := by
  induction new generalizing past with
  | nil => simp [loads]
  | cons call new ih => cases call <;> simp [loads, ih]

theorem loads_of_remote {new : List Call} (h : ∀ call ∈ new, call.IsRemote) (past : List Call) :
    loads loader past new = [] := by
  induction new generalizing past with
  | nil => rfl
  | cons call new ih =>
    have hrest := ih fun c hc => h c (List.mem_cons_of_mem _ hc)
    cases call with
    | load => exact (h _ List.mem_cons_self).elim
    | _ => exact hrest _

theorem loads_of_finds (finds : List String) (past : List Call) : loads loader past (finds.map .find) = [] := by
  induction finds generalizing past with
  | nil => rfl
  | cons id finds ih => exact ih _

theorem collections_append (made made' : List (Load α)) :
    collections (made ++ made') = collections made ++ collections made' := List.filterMap_append

namespace Event

variable {e : Event α} {extra : List Call} {field : String} {past : List Json} {made : List (Load α)}

/-- What the operation does with its query. -/
def asked (service : Service) (e : Event α) : Query.Event :=
  e.operation.inner.event service e.session.search e.exchange

theorem asked_extends (service : Service) (e : Event α) : (e.asked service).Extends service :=
  Query.Event.event_extends service e.operation.inner e.session.search e.exchange

theorem asked_log (service : Service) (e : Event α) :
    (e.asked service).outcome.exchange.calls = e.exchange.calls ++ (e.asked service).calls :=
  (asked_extends service e).logged

/-- The operation asks its query and then makes some calls that are not remote. -/
structure Asks (service : Service) (e : Event α) (extra : List Call) : Prop where
  log : e.outcome.exchange.calls = (e.asked service).outcome.exchange.calls ++ extra
  offline : ∀ call ∈ extra, ¬ call.IsRemote
  query : e.after.query = (e.asked service).after

namespace Asks

theorem calls (h : e.Asks service extra) : e.calls = (e.asked service).calls ++ extra := by
  rw [Event.calls, h.log, asked_log, List.append_assoc, List.drop_left]

theorem logged (h : e.Asks service extra) : e.outcome.exchange.calls = e.exchange.calls ++ e.calls := by
  rw [h.log, h.calls, asked_log, List.append_assoc]

theorem bodies (h : e.Asks service extra) : e.bodies service = (e.asked service).bodies service := by
  rw [Event.bodies, h.calls, Query.bodies_of_append, Query.bodies_of_offline h.offline, List.append_nil]
  rfl

theorem loads (h : e.Asks service extra) :
    e.loads loader = Materializer.loads loader (e.asked service).outcome.exchange.calls extra := by
  rw [Event.loads, h.calls, loads_append, loads_of_remote ((asked_extends service e).remote), List.nil_append, asked_log]

end Asks

end Event

/-- What is known of a materializer after the bodies `past` and the loads `made`. -/
structure Holds (loader : Loader α) (field : String) (past : List Json) (made : List (Load α))
    (m : Materializer α) : Prop where
  loader_eq : m.loader = loader
  field_eq : m.identityField = field
  returned : field ∈ m.query.returnFields
  answer : m.query.response = Search.answerOf past
  answered_once : past.length ≤ 1
  cached : m.loaded = (collections made).head?
  loaded_once : (collections made).length ≤ 1
  ids : ∀ l ∈ made, ∃ r hits, m.query.response = some r ∧ r.hits = some hits ∧ Identified field hits.hit l.ids

namespace Holds

variable {field : String} {past : List Json} {made : List (Load α)} {m : Materializer α}

theorem executed_iff (h : Holds loader field past made m) : m.query.isExecuted ↔ past ≠ [] := by
  rw [Query.isExecuted, h.answer]
  cases past <;> simp [Search.answerOf]

/-- Loads are made of an answer. -/
theorem executed_of_made (h : Holds loader field past made m) (hm : made ≠ []) : m.query.isExecuted := by
  obtain ⟨l, rest, rfl⟩ := List.exists_cons_of_ne_nil hm
  obtain ⟨r, _, hr, -⟩ := h.ids l List.mem_cons_self
  simp [Query.isExecuted, hr]

theorem collections_of_none (h : Holds loader field past made m) (hl : m.loaded = none) : collections made = [] :=
  List.head?_eq_none_iff.1 (h.cached.symm.trans hl)

theorem collections_of_some {loaded : Loaded α} (h : Holds loader field past made m) (hl : m.loaded = some loaded) :
    collections made = [loaded] := by
  have hhead := h.cached.symm.trans hl
  have hlen := h.loaded_once
  rcases hc : collections made with _ | ⟨c, _ | ⟨d, rest⟩⟩ <;> simp_all

/-- Loads are made of the hits that the one body says. -/
theorem identified (h : Holds loader field past made m) {l : Load α} (hl : l ∈ made) :
    ∃ body hits, past = [body] ∧ Query.HasHits body hits ∧ Identified field hits.hit l.ids := by
  obtain ⟨r, hits, hr, hh, hids⟩ := h.ids l hl
  obtain ⟨body, hpast⟩ : ∃ body, past = [body] := by
    have hne : past ≠ [] := h.executed_iff.1 (by simp [Query.isExecuted, hr])
    exact List.length_eq_one_iff.1 (Nat.le_antisymm h.answered_once (List.length_pos_iff.2 hne))
  subst hpast
  have hanswer : m.query.answer = .ok hits := by simp only [Query.answer, hr, SearchResponse.hitsSection, hh]
  exact ⟨body, hits, rfl, (Query.answer_eq_ok_iff h.answer).1 hanswer, hids⟩

end Holds

namespace Event

variable {e : Event α} {extra : List Call} {field : String} {past : List Json} {made : List (Load α)}

namespace Asks

theorem asked_keeps (service : Service) (h : Holds loader field past made e.before) :
    (e.asked service).Keeps service past :=
  Query.Event.keeps h.executed_iff h.answered_once

theorem answered_once (ha : e.Asks service extra) (h : Holds loader field past made e.before) :
    (past ++ e.bodies service).length ≤ 1 := by
  rw [ha.bodies]
  exact (asked_keeps service h).once

theorem answer (ha : e.Asks service extra) (h : Holds loader field past made e.before) :
    e.after.query.response = Search.answerOf (past ++ e.bodies service) := by
  have hbefore : (e.asked service).before.response = Search.answerOf past := h.answer
  rw [ha.query, ha.bodies, (asked_extends service e).answer, hbefore]
  cases past <;> simp [Search.answerOf]

theorem searched (ha : e.Asks service extra) (h : Holds loader field past made e.before) (endpoint : String)
    (params : List (String × String)) (hs : .search endpoint params ∈ e.calls) :
    ∃ request, e.before.query.compile = .ok request ∧ params = request.params ∧ field ∈ request.returnFields := by
  rw [ha.calls] at hs
  rcases List.mem_append.1 hs with hs | hs
  · obtain ⟨request, hc, hp⟩ := (asked_keeps service h).params _ _ hs
    exact ⟨request, hc, hp, Query.compile_returnFields hc ▸ h.returned⟩
  · exact (ha.offline _ hs trivial).elim

/-- An answered query is not asked for anything. -/
theorem frozen (ha : e.Asks service extra) (h : Holds loader field past made e.before)
    (hx : e.before.query.isExecuted) : e.calls = extra := by
  rw [ha.calls, ((asked_keeps service h).frozen (h.executed_iff.1 hx)).1, List.nil_append]

/-- What is known after the operation. -/
theorem holds (ha : e.Asks service extra) (h : Holds loader field past made e.before)
    (hk : e.Keeps service loader field past made) (hloader : e.after.loader = e.before.loader)
    (hfield : e.after.identityField = e.before.identityField) :
    Holds loader field (past ++ e.bodies service) (made ++ e.loads loader) e.after := by
  exact {
    loader_eq := hloader.trans h.loader_eq
    field_eq := hfield.trans h.field_eq
    returned := by
      rw [ha.query]
      exact (asked_extends service e).names _ h.returned
    answer := hk.answer
    answered_once := hk.answered_once
    cached := hk.cached
    loaded_once := hk.loaded_once
    ids := by
      intro l hl
      rcases List.mem_append.1 hl with hl | hl
      · obtain ⟨r, hits, hr, hids⟩ := h.ids l hl
        refine ⟨r, hits, ?_, hids⟩
        have hr' : (e.asked service).before.response = some r := hr
        rw [ha.query, (asked_extends service e).answer, hr', Option.some_or]
      · exact hk.ids l hl }

end Asks

/-- An operation that does no more than ask the query loads nothing. -/
theorem keeps_of_asked {result : Except SearchError (Reply α)} (h : Holds loader field past made e.before)
    (ho : e.outcome = ⟨result, e.session.withSearch (e.asked service).outcome.state,
      (e.asked service).outcome.exchange⟩)
    (hloads : e.operation.Loads → e.before.loaded = none ∧ ∃ error, result = .error error)
    (herror : ∀ error, result = .error error → (e.asked service).outcome.result = .error error) :
    e.Asks service [] ∧ e.Keeps service loader field past made := by
  have ha : e.Asks service [] := ⟨by rw [ho, List.append_nil], by simp, by rw [after, ho]; rfl⟩
  have hresult : e.outcome.result = result := by rw [ho]
  have hloaded : e.after.loaded = e.before.loaded := by rw [after, ho]; rfl
  have hnone : e.loads loader = [] := ha.loads
  have hcached : e.after.loaded = (collections (made ++ e.loads loader)).head? := by
    rw [hloaded, hnone, List.append_nil, h.cached]
  refine ⟨ha, {
    logged := ha.logged
    answer := ha.answer h
    answered_once := ha.answered_once h
    searched := ha.searched h
    quiet := fun _ => by rw [ha.calls, List.append_nil]; exact (asked_extends service e).remote
    ids := by simp [hnone]
    told := by simp [hnone]
    cached := hcached
    loaded_once := by rw [hnone, List.append_nil]; exact h.loaded_once
    kept := ?_
    given := ?_
    warned := ?_
    again := ?_ }⟩
  · intro loaded hl
    have hmade : made ≠ [] := by rintro rfl; cases hl
    refine ⟨ha.frozen h (h.executed_of_made hmade), fun hop => ?_⟩
    -- the operation would have found the collection
    rw [h.collections_of_none (hloads hop).1] at hl
    cases hl
  · intro hop reply hr
    obtain ⟨error, herr⟩ := (hloads hop).2
    rw [hresult, herr] at hr
    cases hr
  · intro code message hw
    have herr := herror (.warning code message) (hresult.symm.trans hw)
    obtain ⟨hfalse, hexecuted⟩ := Query.Event.of_warning herr trivial
    have hopen : ¬ e.before.query.isExecuted := Bool.eq_false_iff.1 hfalse
    -- loads are made of an answer, so there are none yet
    have hpast : past = [] := not_not.1 fun hp => hopen (h.executed_iff.2 hp)
    have hmade : made = [] := not_not.1 fun hm => hopen (h.executed_of_made hm)
    refine ⟨hpast, hmade, hnone, ?_, ha.query ▸ hexecuted⟩
    rw [hloaded, h.cached, hmade]
    rfl
  · intro hop _ r hr
    obtain ⟨error, herr⟩ := (hloads hop).2
    have hask : (e.asked service).outcome.result = (r.hitsSection.map fun found => found.hit).map .hits := by
      rw [asked, Query.Operation.event, Operation.inner_of_loads hop, Query.Operation.hits_apply,
        Query.Operation.hits_of_executed (s := e.session.search) hr]
    have herr' := herror error herr
    rw [hask, SearchResponse.hitsSection] at herr'
    refine ⟨fun hno => ⟨ha.frozen h (by simp [Query.isExecuted, hr]), ?_⟩, fun hits hh => ?_⟩
    · rw [hno] at herr'
      cases herr'
      rw [hresult, herr]
    · rw [hh] at herr'
      cases herr'

/-- An operation that finds the collection gives it and does nothing else. -/
theorem keeps_of_again {loaded : Loaded α} (h : Holds loader field past made e.before)
    (ho : e.outcome = ⟨.ok (e.operation.shown loaded), e.session, e.exchange⟩) (hop : e.operation.Loads)
    (hloaded : e.before.loaded = some loaded) :
    e.Asks service [] ∧ e.Keeps service loader field past made := by
  have hmade := h.collections_of_some hloaded
  have hexecuted : e.before.query.isExecuted := h.executed_of_made (by rintro rfl; cases hmade)
  obtain ⟨hcalls, hquery, -⟩ := (Asks.asked_keeps service h).frozen (h.executed_iff.1 hexecuted)
  have ha : e.Asks service [] := by
    refine ⟨?_, by simp, ?_⟩
    · rw [ho, asked_log, hcalls, List.append_nil, List.append_nil]
    · rw [after, ho, hquery]
      rfl
  have hnone : e.loads loader = [] := ha.loads
  have hsame : collections (made ++ e.loads loader) = [loaded] := by rw [hnone, List.append_nil, hmade]
  refine ⟨ha, {
    logged := ha.logged
    answer := ha.answer h
    answered_once := ha.answered_once h
    searched := ha.searched h
    quiet := fun h' => (h' hop).elim
    ids := by simp [hnone]
    told := by simp [hnone]
    cached := by rw [after, ho, hsame]; exact hloaded
    loaded_once := by rw [hsame]; exact Nat.le_refl 1
    kept := ?_
    given := ?_
    warned := by rw [ho]; exact nofun
    again := by rw [hmade]; exact fun _ => nofun }⟩
  · intro loaded' hl
    rw [hmade, List.mem_singleton] at hl
    exact ⟨ha.frozen h hexecuted, fun _ => by rw [ho, hl]⟩
  · intro _ reply hr
    rw [ho] at hr
    cases hr
    exact ⟨loaded, by simp [hsame], rfl⟩

/-- An operation that has found the hits loads them. -/
theorem keeps_of_loading {hits : List Hit} {ids : List String} {result : Except String (Loaded α)} {t : Search}
    {x' : Exchange} (h : Holds loader field past made e.before) (hop : e.operation.Loads)
    (hnone : e.before.loaded = none) (hh : Search.hits service e.session.search e.exchange = ⟨.ok hits, t, x'⟩)
    (hids : hits.filterMap (fun hit => hit.identity? field) = ids)
    (hresult : loader.load x'.calls ids = result)
    (ho : e.outcome = ⟨(result.mapError .loader).map e.operation.shown,
      (e.session.withSearch t).withLoaded result.toOption,
      { x' with calls := x'.calls ++ .load ids :: (loader.lookups x'.calls ids).map .find }⟩) :
    e.Asks service (.load ids :: (loader.lookups x'.calls ids).map .find) ∧
      e.Keeps service loader field past made := by
  have hasked : (e.asked service).outcome = ⟨.ok (.hits hits), t, x'⟩ := by
    rw [asked, Query.Operation.event, Operation.inner_of_loads hop, Query.Operation.hits_apply, hh]
    rfl
  have ha : e.Asks service (.load ids :: (loader.lookups x'.calls ids).map .find) := by
    refine ⟨by rw [ho, hasked], ?_, ?_⟩
    · intro call hc
      rcases List.mem_cons.1 hc with rfl | hc
      · exact id
      · obtain ⟨_, -, rfl⟩ := List.mem_map.1 hc
        exact id
    · rw [after, ho, Query.Event.after, hasked]
      rfl
  -- there is no collection yet, so every load before has failed
  have hmade := h.collections_of_none hnone
  have hloads : e.loads loader = [⟨ids, result⟩] := by
    rw [ha.loads, hasked, Materializer.loads, loads_of_finds, hresult]
  have hsame : collections (made ++ e.loads loader) = result.toOption.toList := by
    rw [collections_append, hmade, hloads]
    cases result <;> rfl
  refine ⟨ha, {
    logged := ha.logged
    answer := ha.answer h
    answered_once := ha.answered_once h
    searched := ha.searched h
    quiet := fun h' => (h' hop).elim
    ids := ?_
    told := ?_
    cached := ?_
    loaded_once := by rw [hsame]; cases result <;> simp [Except.toOption]
    kept := by simp [hmade]
    given := ?_
    warned := ?_
    again := ?_ }⟩
  · intro l hl
    rw [hloads, List.mem_singleton] at hl
    subst hl
    obtain ⟨r, found, hr, hs, rfl⟩ := Query.Operation.hits_of_ok hh
    refine ⟨r, found, ?_, hs, identified_iff.2 hids.symm⟩
    rw [after, ho]
    exact hr
  · intro l hl
    rw [hloads, List.mem_singleton] at hl
    rw [ho, hl]
  · rw [hsame, after, ho]
    cases result <;> rfl
  · intro _ reply hr
    rw [ho] at hr
    rcases result with text | loaded <;> cases hr
    exact ⟨loaded, by simp [hsame, Except.toOption], rfl⟩
  · intro code message hw
    rw [ho] at hw
    cases result <;> cases hw
  · intro _ _ r hr
    rw [Query.Operation.hits_of_executed (s := e.session.search) hr, SearchResponse.hitsSection] at hh
    rcases hs : r.hits with _ | found <;> rw [hs] at hh <;> cases hh
    refine ⟨by simp, ?_⟩
    rintro _ ⟨⟩
    -- the loads before were made of the same answer
    refine ⟨ids, _, identified_iff.2 hids.symm, fun l hl => ?_, ha.frozen h (by simp [Query.isExecuted, hr]), ?_⟩
    · obtain ⟨r', found', hr', hs', hl'⟩ := h.ids l hl
      cases hr.symm.trans hr'
      cases hs.symm.trans hs'
      exact (identified_iff.1 hl').trans hids
    · rw [hloads, hresult]

/-- An operation keeps to what came before it. -/
theorem keeps (h : Holds loader field past made e.before)
    (hc : Course service e.operation e.session e.exchange e.outcome) :
    e.Keeps service loader field past made ∧
      Holds loader field (past ++ e.bodies service) (made ++ e.loads loader) e.after := by
  obtain ⟨op, s, x, o⟩ := e
  replace hc : Course service op s x o := hc
  cases hc with
  | asked ho hloads herror =>
    subst ho
    obtain ⟨ha, hk⟩ := keeps_of_asked h rfl hloads herror
    exact ⟨hk, ha.holds h hk rfl rfl⟩
  | again hop hloaded =>
    obtain ⟨ha, hk⟩ := keeps_of_again h rfl hop hloaded
    exact ⟨hk, ha.holds h hk rfl rfl⟩
  | loading hop hnone hh hids hresult =>
    have hl : s.materializer.loader = loader := h.loader_eq
    have hf : s.materializer.identityField = field := h.field_eq
    subst hl hf
    obtain ⟨ha, hk⟩ := keeps_of_loading h hop hnone hh hids hresult rfl
    exact ⟨hk, ha.holds h hk rfl rfl⟩

end Event

/-! ## Any operations one after the other -/

variable {field : String} {past : List Json} {made : List (Load α)} {m : Materializer α}

theorem holds_new {q : Query} (h : Materializer.new q field loader = .ok m) : Holds loader field [] [] m := by
  simp only [Materializer.new, Query.addReturnFields, Query.ifOpen] at h
  cases hx : q.isExecuted with
  | true => simp [hx] at h
  | false =>
    simp only [hx, Bool.false_eq_true, if_false, Query.addNames] at h
    split at h
    · rename_i hn
      split at hn <;> cases hn
      cases h
      have hopen : q.response = none := by simpa [Query.isExecuted] using hx
      exact {
        loader_eq := rfl
        field_eq := rfl
        returned := Sorted.mem_add.2 (.inl rfl)
        answer := hopen
        answered_once := Nat.zero_le 1
        cached := rfl
        loaded_once := Nat.zero_le 1
        ids := by simp }
    · cases h

theorem events_keep (service : Service) (steps : List (Operation × Index × Exchange))
    (h : Holds loader field past made m) :
    EachAfter (fun before e => e.Keeps service loader field (past ++ before.flatMap (Event.bodies service))
        (made ++ before.flatMap (Event.loads loader))) (events service m steps) ∧
      ∃ m', Holds loader field (past ++ (events service m steps).flatMap (Event.bodies service))
        (made ++ (events service m steps).flatMap (Event.loads loader)) m' := by
  induction steps generalizing m past made with
  | nil => exact ⟨eachAfter_nil _, m, by simpa [events] using h⟩
  | cons step steps ih =>
    obtain ⟨op, ix, x⟩ := step
    obtain ⟨hk, h'⟩ := Event.keeps (e := op.event service ⟨ix, m⟩ x) h (Operation.course service op ⟨ix, m⟩ x)
    obtain ⟨hrest, m', hend⟩ := ih h'
    refine ⟨eachAfter_cons (by simpa using hk) (hrest.mono fun before e _ he => ?_), m', ?_⟩
    · simpa using he
    · simpa [events] using hend

/-- What all the operations on one materializer keep to. -/
structure LoadsOnce (service : Service) (loader : Loader α) (field : String) (run : List (Event α)) : Prop where
  answered_once : (run.flatMap (Event.bodies service)).length ≤ 1
  loaded_once : (collections (run.flatMap (Event.loads loader))).length ≤ 1
  each : EachAfter (fun before e => e.Keeps service loader field (before.flatMap (Event.bodies service))
    (before.flatMap (Event.loads loader))) run
  /-- The ids are those of the hits that the one body says. -/
  ids : ∀ l ∈ run.flatMap (Event.loads loader), ∃ body hits, run.flatMap (Event.bodies service) = [body] ∧
    Query.HasHits body hits ∧ Identified field hits.hit l.ids
  same_ids : ∀ l ∈ run.flatMap (Event.loads loader), ∀ l' ∈ run.flatMap (Event.loads loader), l.ids = l'.ids
  same_collection : ∀ e ∈ run, ∀ e' ∈ run, e.operation.Loads → e'.operation.Loads → ∀ reply reply',
    e.outcome.result = .ok reply → e'.outcome.result = .ok reply' →
      ∃ loaded, reply = e.operation.shown loaded ∧ reply' = e'.operation.shown loaded

/-- Whatever is done with a new materializer, whatever the service answers and the loader gives: the loader
gets the ids of the hits of one answer and gives one collection. -/
theorem records_loaded_once (service : Service) (loader : Loader α) (query : Query) (field : String)
    (m : Materializer α) (h : Materializer.new query field loader = .ok m)
    (steps : List (Operation × Index × Exchange)) : LoadsOnce service loader field (events service m steps) := by
  obtain ⟨heach, m', hend⟩ := events_keep service steps (holds_new h)
  simp only [List.nil_append] at heach hend
  -- what an operation gives is among the collections of the whole run
  have given : ∀ e ∈ events service m steps, e.operation.Loads → ∀ reply, e.outcome.result = .ok reply →
      ∃ loaded ∈ collections ((events service m steps).flatMap (Event.loads loader)),
        reply = e.operation.shown loaded := by
    intro e he hop reply hr
    obtain ⟨before, after, hrun⟩ := List.append_of_mem he
    obtain ⟨loaded, hl, hreply⟩ := (heach before e after hrun).given hop reply hr
    refine ⟨loaded, ?_, hreply⟩
    rw [hrun, List.flatMap_append, List.flatMap_cons, ← List.append_assoc, collections_append]
    exact List.mem_append_left _ hl
  exact {
    answered_once := hend.answered_once
    loaded_once := hend.loaded_once
    each := heach
    ids := fun l hl => hend.identified hl
    same_ids := by
      intro l hl l' hl'
      obtain ⟨r, hits, hr, hh, hids⟩ := hend.ids l hl
      obtain ⟨r', hits', hr', hh', hids'⟩ := hend.ids l' hl'
      cases hr.symm.trans hr'
      cases hh.symm.trans hh'
      rw [identified_iff.1 hids, identified_iff.1 hids']
    same_collection := by
      intro e he e' he' hop hop' reply reply' hr hr'
      obtain ⟨loaded, hl, hreply⟩ := given e he hop reply hr
      obtain ⟨loaded', hl', hreply'⟩ := given e' he' hop' reply' hr'
      have hsame : loaded = loaded' := by
        have hone := hend.loaded_once
        match collections ((events service m steps).flatMap (Event.loads loader)), hl, hl', hone with
        | [c], hl, hl', _ => rw [List.mem_singleton.1 hl, List.mem_singleton.1 hl']
      exact ⟨loaded, hreply, hsame ▸ hreply'⟩ }

/-- Five hits, of which the second gives no id and two give the same one, and a loader that fails at first. -/
theorem records_loaded_once_reviews :
    let hit (key : Json) : Json := .object [("data", .object [("key", key)])]
    let body : Json := .object [("hits", .object [("hit", .array
      [hit (.array [.string "b", .string "c"]), hit (.array [.null]), hit (.number (.int 7)), hit (.string "b"),
        hit (.bool true)])])]
    let service : Service := {
      create := fun _ _ => .ok ()
      define := fun _ _ _ => .ok ()
      describe := fun _ name => .ok [{ domainName := name, searchEndpoint := some "search" }]
      index := fun _ _ => .ok ()
      post := fun _ _ _ => .ok .null
      search := fun _ _ _ => .ok body }
    let loader : Loader String :=
      { load := fun past ids => if past.length < 3 then .error "busy" else .ok (.many ids) }
    let index : Index := { schema := { name := "reviews" } }
    let calls : List Call := [.describe "reviews", .search "search"
      [("q", "great"), ("size", "100000"), ("return-fields", "key")]]
    let ids := ["b", "7", "b", "true"]
    let steps : List (Operation × Index × Exchange) := [(.materialize, index, {}),
      (.query (.amend (.limit 5)), index, ⟨calls, 0⟩),
      (.materialize, index, ⟨calls ++ [.load ids], 0⟩), (.iterate, index, {})]
    ∃ m, Materializer.new { freeText := some "great" } "key" loader = .ok m ∧
      LoadsOnce service loader "key" (events service m steps) ∧
      (events service m steps).map Event.calls = [calls ++ [.load ids], [], [.load ids], []] ∧
      (events service m steps).map (fun e => e.outcome.result.toOption) =
        [none, none, some (.loaded (.many ids)), some (.items ids)] := by
  have h (loader : Loader String) : Materializer.new { freeText := some "great" } "key" loader = .ok
    { query := { freeText := some "great", returnFields := ["key"] }, identityField := "key", loader } := rfl
  exact ⟨_, h _, records_loaded_once _ _ _ "key" _ (h _) _, rfl, rfl⟩

end Materializer

end SearchIndex
