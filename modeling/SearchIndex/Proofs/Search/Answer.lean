import SearchIndex.Proofs.Search.Rejection

/-!
# The answer of a query

What an operation on a query adds to the log and to the query: calls of the remote service, at most one answer,
names of fields. An operation ends in a fatal warning only when the answer comes.
-/

namespace SearchIndex

variable {service : Service}

/-- A warning of an answer, where warnings are fatal. -/
def SearchError.IsWarning : SearchError → Prop
  | warning _ _ => True
  | _ => False

/-- The answer that is kept when the bodies came back: the first one counts. -/
def Search.answerOf (bodies : List Json) : Option SearchResponse :=
  bodies.head?.map fun body => kept (SearchResponse.ofJson body)

/-- What is asked of the remote service when a query is sent. -/
def Call.IsRemote : Call → Prop
  | .describe _ | .search _ _ => True
  | _ => False

/-! ## Errors that are no warnings -/

theorem Index.describe_error {ix : Index} {x : Exchange} {e : SearchError}
    (h : (describe service ix x).result = .error e) : ¬ e.IsWarning := by
  rw [describe_apply] at h
  split at h <;> cases h <;> exact id

theorem Index.endpoint_error {ix : Index} {x : Exchange} {channel : Channel} {e : SearchError} :
    (endpoint channel service ix x).result = .error e → ¬ e.IsWarning := by
  have status_error : (status false service ix x).result = .error e → ¬ e.IsWarning := by
    simp only [status, Command.bind_apply, Command.state_apply]
    rcases ix.cache.status with _ | known
    · exact describe_error
    · rintro ⟨⟩
  simp only [endpoint, Command.bind_apply, Command.state_apply]
  rcases ix.cache.endpoint? channel with _ | kept
  · rcases h : status false service ix x with ⟨e' | known, ix', x'⟩ <;> rw [h] at status_error
    · simpa [Command.bind_apply, h] using status_error
    · rcases he : known.endpoint? channel with _ | endpoint
      · simp only [Command.bind_apply, h, he]
        rintro ⟨⟩
        exact id
      · simp [Command.bind_apply, h, he]
  · rintro ⟨⟩

namespace Query

variable {schema : Schema} {q : Query} {e : SearchError}

theorem clause_error {field : String} {op : Operator} {operand : Operand}
    (h : clause schema field op operand = .error e) : ¬ e.IsWarning := by
  unfold clause at h
  split at h
  · cases h; exact id
  · rename_i f _
    rcases hc : Clause.ofCondition field f.type op operand with e' | c <;> rw [hc] at h <;> cases h
    exact id

theorem ifOpen_error {change : Change} (hc : (change q).1 = .error e → ¬ e.IsWarning)
    (h : (ifOpen change q).1 = .error e) : ¬ e.IsWarning := by
  refine ifOpen_cases (P := fun o => o.1 = .error e → ¬ e.IsWarning) ?_ hc h
  rintro ⟨⟩
  exact id

theorem addNames_error {names : List String} (h : (addNames names q).1 = .error e) : ¬ e.IsWarning := by
  induction names generalizing q with
  | nil => cases h
  | cons name names ih =>
    rw [addNames] at h
    split at h
    · cases h; exact id
    · exact ih h

theorem change_error {a : Amendment} (h : (a.change schema q).1 = .error e) : ¬ e.IsWarning := by
  cases a with
  | fatalWarnings | text | limit | offset => exact ifOpen_error (by simp) h
  | condition | equality =>
    refine ifOpen_error (fun h => ?_) h
    split at h
    · cases h
    · rename_i hc; cases h; exact clause_error hc
  | equalities =>
    refine ifOpen_error (fun h => ?_) h
    split at h
    · cases h
    · rename_i hc; cases h; exact mapM_error (P := fun e => ¬ e.IsWarning) (fun _ _ => clause_error) hc
  | rank =>
    refine ifOpen_error (fun h => ?_) h
    split at h <;> cases h
    exact id
  | returnFields => exact ifOpen_error addNames_error h

theorem compile_error (h : q.compile = .error e) : ¬ e.IsWarning := by
  rcases hp : SearchRequest.ofParts q.freeText (q.clauses.map Clause.render) with e' | r <;>
    simp only [compile, hp] at h <;> cases h
  exact id

theorem answer_error (h : q.answer = .error e) : ¬ e.IsWarning := by
  unfold answer SearchResponse.hitsSection at h
  split at h
  · split at h <;> cases h
    exact id
  · cases h; exact id

/-- No change takes a name out of the return fields. -/
theorem mem_returnFields_change {name : String} (a : Amendment) (h : name ∈ q.returnFields) :
    name ∈ (a.change schema q).2.returnFields := by
  have keeps {change : Change} (hc : name ∈ (change q).2.returnFields) :
      name ∈ (ifOpen change q).2.returnFields :=
    ifOpen_cases (P := fun o => name ∈ o.2.returnFields) h hc
  cases a with
  | fatalWarnings | text | limit | offset => exact keeps h
  | condition | equality | equalities | rank =>
    refine keeps ?_
    split <;> exact h
  | returnFields names =>
    refine keeps ?_
    rw [addNames_query]
    exact Sorted.mem_foldl_add.2 (.inr h)

end Query

/-! ## Where the answer comes from -/

theorem AreDescribes.remote {calls : List Call} (h : AreDescribes calls) : ∀ call ∈ calls, call.IsRemote := by
  intro call hc
  obtain ⟨name, rfl⟩ := h call hc
  trivial

/-- Sending an open query asks the remote service only, and the body that comes back is the answer and decides
the result. If there is none then sending fails, and not for a warning. -/
theorem Search.execute_spec (service : Service) {s : Search} (h : s.query.response = none) (x : Exchange) :
    ∃ new, (execute service s x).exchange.calls = x.calls ++ new ∧ (∀ call ∈ new, call.IsRemote) ∧
      (execute service s x).state.query =
        { s.query with response := answerOf (Query.bodies service x.calls new) } ∧
      (∀ body ∈ Query.bodies service x.calls new,
        (execute service s x).result = verdict s.query.fatalWarnings (SearchResponse.ofJson body) ∧
        (execute service s x).state.query.response = some (kept (SearchResponse.ofJson body))) ∧
      (Query.bodies service x.calls new = [] → ∃ e, (execute service s x).result = .error e ∧ ¬ e.IsWarning) := by
  have same : ({ s.query with response := answerOf [] } : Query) = s.query := by
    rw [show answerOf [] = s.query.response from h.symm]
  have hs := execution_of_open service (s := s) (by simp [Query.isExecuted, h]) x
  obtain ⟨new, hend, hd⟩ := Index.endpoint_spec service s.index .search x
  have hnew := congrArg Exchange.calls hend
  have hfail := @Index.endpoint_error service s.index x .search
  have remote (endpoint : String) (params : List (String × String)) :
      ∀ call ∈ new ++ [.search endpoint params], call.IsRemote := by
    intro call hc
    rcases List.mem_append.1 hc with hc | hc
    · exact hd.remote call hc
    · rw [List.mem_singleton.1 hc]
      trivial
  generalize execute service s x = o at hs
  cases hs with
  | uncompiled hc => exact ⟨[], by simp, by simp, same.symm, by simp [Query.bodies], fun _ => ⟨_, rfl, Query.compile_error hc⟩⟩
  | unreached hc he =>
    rw [he] at hnew hfail
    have hb : Query.bodies service x.calls new = [] := Query.bodies_of_describes hd _
    exact ⟨new, hnew, hd.remote, by rw [hb, same], by simp [hb], fun _ => ⟨_, rfl, hfail rfl⟩⟩
  | @unanswered request endpoint e ix' x' hc he hbody =>
    rw [he] at hnew
    simp only at hnew
    have hb : Query.bodies service x.calls (new ++ [.search endpoint request.params]) = [] := by
      rw [Query.bodies_append service hd]
      simp [Query.bodies, ← hnew, hbody, Except.toOption]
    exact ⟨new ++ [.search endpoint request.params], by simp [hnew], remote _ _, by rw [hb, same], by simp [hb],
      fun _ => ⟨_, rfl, id⟩⟩
  | @answered request endpoint body ix' x' hc he hbody =>
    rw [he] at hnew
    simp only at hnew
    have hb : Query.bodies service x.calls (new ++ [.search endpoint request.params]) = [body] := by
      rw [Query.bodies_append service hd]
      simp [Query.bodies, ← hnew, hbody, Except.toOption]
    exact ⟨new ++ [.search endpoint request.params], by simp [hnew], remote _ _, by rw [hb]; rfl, by simp [hb],
      fun h' => by simp [hb] at h'⟩

/-- An operation that sends the query fails with the error of that, or with that of the answer. -/
theorem Query.Operation.sends_error {op : Operation} {s : Search} {x : Exchange} {e : SearchError} (h : op.Sends)
    (he : (op.command service s x).result = .error e) :
    (Search.execute service s x).result = .error e ∨ (Search.execute service s x).state.query.answer = .error e := by
  rcases hx : Search.execute service s x with ⟨e' | sent, s', x'⟩
  · rw [(op.sends_apply service s x h).2.2 e' (by rw [hx])] at he
    cases he
    exact .inl rfl
  · cases op with
    | amend | compile => cases h
    | execute =>
      simp only [command, Command.bind_apply, hx] at he
      cases he
    | foundCount | hits =>
      simp only [command, Search.foundCount, Search.hits, Command.bind_apply, hx, Command.state_apply,
        Command.ofResult_apply] at he
      rcases ha : s'.query.answer with e' | hits <;> simp only [ha] at he <;> cases he
      exact .inr rfl

namespace Query

/-! ## The calls of an operation -/

theorem bodies_of_append (service : Service) (past new rest : List Call) : bodies service past (new ++ rest) =
    bodies service past new ++ bodies service (past ++ new) rest := by
  induction new generalizing past with
  | nil => simp [bodies]
  | cons call new ih => cases call <;> simp [bodies, ih]

theorem bodies_of_offline {new : List Call} (h : ∀ call ∈ new, ¬ call.IsRemote) (past : List Call) :
    bodies service past new = [] := by
  induction new generalizing past with
  | nil => rfl
  | cons call new ih =>
    have hrest := ih fun c hc => h c (List.mem_cons_of_mem _ hc)
    cases call with
    | search => exact (h _ List.mem_cons_self trivial).elim
    | _ => exact hrest _

namespace Event

variable {op : Operation} {s : Search} {x : Exchange}

/-- An operation on a query asks the remote service only. The answer stays if there is one, else it is that of
the bodies that come back; the return fields stay, and more may be added. -/
structure Extends (service : Service) (e : Event) : Prop where
  logged : e.outcome.exchange.calls = e.exchange.calls ++ e.calls
  remote : ∀ call ∈ e.calls, call.IsRemote
  answer : e.after.response = e.before.response.or (Search.answerOf (e.bodies service))
  names : ∀ name ∈ e.before.returnFields, name ∈ e.after.returnFields

theorem extends_of_calls {e : Event} (new : List Call)
    (hlog : e.outcome.exchange.calls = e.exchange.calls ++ new) (hremote : ∀ call ∈ new, call.IsRemote)
    (hanswer : e.after.response =
      e.before.response.or (Search.answerOf (Query.bodies service e.exchange.calls new)))
    (hnames : ∀ name ∈ e.before.returnFields, name ∈ e.after.returnFields) : e.Extends service := by
  have hcalls : e.calls = new := calls_eq hlog
  refine ⟨by rw [hcalls, hlog], by rwa [hcalls], ?_, hnames⟩
  rw [bodies, hcalls, hanswer]

theorem extends_of_quiet {e : Event} (hx : e.outcome.exchange = e.exchange)
    (hanswer : e.after.response = e.before.response)
    (hnames : ∀ name ∈ e.before.returnFields, name ∈ e.after.returnFields) : e.Extends service :=
  extends_of_calls [] (by simp [hx]) (by simp) (by simp [hanswer, Query.bodies, Search.answerOf]) hnames

theorem event_extends (service : Service) (op : Operation) (s : Search) (x : Exchange) :
    (op.event service s x).Extends service := by
  by_cases hop : op.Sends
  · cases hq : s.query.response with
    | some r =>
      obtain ⟨_, ho, -⟩ := op.frozen_apply service (s := s) x (by simp [isExecuted, hq])
      have ho : (op.event service s x).outcome = _ := ho
      have hafter : (op.event service s x).after = s.query := by rw [after, ho]
      refine extends_of_quiet (by rw [ho]; rfl) (by rw [hafter]; rfl) ?_
      rw [hafter]
      exact fun _ => id
    | none =>
      obtain ⟨new, hlog, hremote, hquery, -⟩ := Search.execute_spec service hq x
      obtain ⟨hstate, hx, -⟩ := op.sends_apply service s x hop
      have hafter : (op.event service s x).after = _ := (congrArg Search.query hstate).trans hquery
      have hbefore : (op.event service s x).before.response = none := hq
      refine extends_of_calls new ((congrArg Exchange.calls hx).trans hlog) hremote ?_ ?_
      · rw [hafter, hbefore, Option.none_or]
        rfl
      · rw [hafter]
        exact fun _ => id
  · cases op with
    | amend a => exact extends_of_quiet rfl (change_response _ a _) fun name => mem_returnFields_change a
    | compile =>
      have ho : (Operation.compile.event service s x).outcome = _ := Operation.compile_apply
      refine extends_of_quiet (by rw [ho]; rfl) (by rw [after, ho]; rfl) ?_
      rw [after, ho]
      exact fun _ => id
    | execute | foundCount | hits => exact (hop trivial).elim

/-- A fatal warning is told just when the answer comes. -/
theorem of_warning {error : SearchError} (he : (op.event service s x).outcome.result = .error error)
    (hw : error.IsWarning) : s.query.isExecuted = false ∧ (op.event service s x).after.isExecuted := by
  by_cases hop : op.Sends
  · rcases Operation.sends_error hop he with hx | ha
    · cases hq : s.query.response with
      | some r =>
        rw [Search.execute_of_executed service (by simp [isExecuted, hq])] at hx
        cases hx
      | none =>
        obtain ⟨new, -, -, hquery, -, hempty⟩ := Search.execute_spec service hq x
        refine ⟨by simp [isExecuted, hq], ?_⟩
        have hafter : (op.event service s x).after = _ :=
          (congrArg Search.query (op.sends_apply service s x hop).1).trans hquery
        rw [hafter]
        -- without a body the error would be that of the sending, which is no warning
        cases hb : Query.bodies service x.calls new with
        | nil =>
          obtain ⟨e', hx', hno⟩ := hempty hb
          rw [hx] at hx'
          cases hx'
          exact (hno hw).elim
        | cons body rest => rfl
    · exact (answer_error ha hw).elim
  · cases op with
    | amend a =>
      rcases hc : (a.change s.index.schema s.query).1 with e' | _ <;>
        simp only [Operation.event, Operation.amend_apply, hc] at he <;> cases he
      exact (change_error hc hw).elim
    | compile =>
      rcases hc : s.query.compile with e' | _ <;>
        simp only [Operation.event, Operation.compile_apply, hc] at he <;> cases he
      exact (compile_error hc hw).elim
    | execute | foundCount | hits => exact (hop trivial).elim

end Event

variable {q : Query} {s : Search} {x : Exchange}

theorem compile_returnFields {request : SearchRequest} (h : q.compile = .ok request) :
    request.returnFields = q.returnFields := by
  obtain ⟨_, -, rfl⟩ := map_eq_ok.1 h
  rfl

namespace Operation

theorem foundCount_apply : foundCount.command service s x = ⟨(Search.foundCount service s x).result.map .count,
    (Search.foundCount service s x).state, (Search.foundCount service s x).exchange⟩ := by
  rcases h : Search.foundCount service s x with ⟨e | found, t, x'⟩ <;>
    simp [command, Command.bind_apply, h, Except.map]

theorem hits_apply : hits.command service s x = ⟨(Search.hits service s x).result.map .hits,
    (Search.hits service s x).state, (Search.hits service s x).exchange⟩ := by
  rcases h : Search.hits service s x with ⟨e | found, t, x'⟩ <;> simp [command, Command.bind_apply, h, Except.map]

/-- The hits that are given are those of the answer. -/
theorem hits_of_ok {found : List Hit} {t : Search} {x' : Exchange}
    (h : Search.hits service s x = ⟨.ok found, t, x'⟩) :
    ∃ r hits, t.query.response = some r ∧ r.hits = some hits ∧ hits.hit = found := by
  simp only [Search.hits, Command.bind_apply] at h
  rcases hx : Search.execute service s x with ⟨e | sent, t', x''⟩ <;> rw [hx] at h
  · cases h
  · simp only [Command.state_apply, Command.ofResult_apply, answer, SearchResponse.hitsSection] at h
    rcases hr : t'.query.response with _ | r <;> simp only [hr] at h
    · cases h
    · rcases hh : r.hits with _ | hits <;> simp only [hh] at h <;> cases h
      exact ⟨r, hits, hr, hh, rfl⟩

theorem hits_of_executed {r : SearchResponse} (h : s.query.response = some r) :
    Search.hits service s x = ⟨r.hitsSection.map fun found => found.hit, s, x⟩ := by
  have hx := Search.execute_of_executed service (s := s) (by simp [isExecuted, h]) x
  simp only [Search.hits, Command.bind_apply, hx, Command.state_apply, Command.ofResult_apply, answer, h]
  cases r.hitsSection <;> rfl

end Operation

end Query

end SearchIndex
