import Mathlib.Logic.Function.Basic
import SearchIndex.Proofs.History
import SearchIndex.Proofs.Index.Walk

/-!
# Endpoints come from the status that was told last

Any number of indexes share a service, and operations are done on them in any order. Each call is
entered with the index it was made for. Whatever the service answers, a post or a search goes to the
endpoint of the last status that was told to its own index, and an index that was told a status
describes its domain again only if that is forced.
-/

namespace SearchIndex

/-! ## Entries -/

/-- A call, the index it was made for, whether the operation forced a new status, and the calls before. -/
structure Entry (κ : Type) where
  asker : κ
  forced : Bool
  past : List Call
  call : Call

namespace Entry

variable {κ : Type}

/-- The status that the call told. -/
def told? (service : Service) (e : Entry κ) : Option DomainStatus :=
  match e.call with
  | .describe name => service.told? e.past name
  | _ => none

/-- A describe that failed or found no domain. -/
def IsVain (service : Service) (e : Entry κ) : Prop := (∃ name, e.call = .describe name) ∧ e.told? service = none

/-- What a call keeps to when `known` was told last: a post and a search have their endpoint from it, and
a describe is made only while nothing is known, unless it is forced. -/
def Keeps (known : Option DomainStatus) (e : Entry κ) : Prop :=
  match e.call with
  | .describe _ => e.forced = true ∨ known = none
  | .post endpoint _ => ∃ status, known = some status ∧ status.documentEndpoint = some endpoint
  | .search endpoint _ => ∃ status, known = some status ∧ status.searchEndpoint = some endpoint
  | _ => True

theorem told?_of_quiet {e : Entry κ} {service : Service} (h : e.call.IsQuiet) : e.told? service = none := by
  obtain ⟨asker, forced, past, call⟩ := e
  cases call <;> first | rfl | cases h

theorem keeps_of_quiet {e : Entry κ} {known : Option DomainStatus} (h : e.call.IsQuiet) : e.Keeps known := by
  obtain ⟨asker, forced, past, call⟩ := e
  cases call <;> trivial

end Entry

/-- The entries of the calls `new`, made for `k` after the calls `past`. -/
def entries {κ : Type} (k : κ) (forced : Bool) : List Call → List Call → List (Entry κ)
  | _, [] => []
  | past, call :: new => ⟨k, forced, past, call⟩ :: entries k forced (past ++ [call]) new

section

variable {κ : Type} {k : κ} {forced : Bool}

theorem asker_of_mem_entries {past new : List Call} {e : Entry κ} (h : e ∈ entries k forced past new) : e.asker = k := by
  induction new generalizing past with
  | nil => cases h
  | cons call new ih =>
    rcases List.mem_cons.1 h with rfl | h
    · rfl
    · exact ih h

theorem map_call_entries (past new : List Call) : (entries k forced past new).map Entry.call = new := by
  induction new generalizing past with
  | nil => rfl
  | cons call new ih => simp [entries, ih]

theorem past_entries (past new : List Call) :
    EachAfter (fun before e => e.past = past ++ before.map Entry.call) (entries k forced past new) := by
  induction new generalizing past with
  | nil => exact eachAfter_nil _
  | cons call new ih =>
    refine eachAfter_cons (by simp) ((ih (past ++ [call])).mono fun before e _ h => ?_)
    simpa using h

theorem Walk.vain_of_entry {service : Service} {ix ix' : Index} {past new : List Call} {b : Bool}
    (h : Walk service forced ix past ix' new b) {e : Entry κ}
    (he : e ∈ entries k forced past new) (hv : e.IsVain service) : b = true := by
  obtain ⟨⟨name, hc⟩, ht⟩ := hv
  induction h with
  | done => cases he
  | vain => rfl
  | told hs _ _ ih =>
    rcases List.mem_cons.1 he with rfl | he
    · simp [Entry.told?, hs] at ht
    · exact ih he
  | kept _ _ _ _ ih => exact ih he
  | post _ _ ih | search _ _ ih | quiet _ _ ih =>
    rcases List.mem_cons.1 he with rfl | he
    · simp_all [Call.IsQuiet]
    · exact ih he

end

/-- The status that `k` was told last. -/
def lastTold {κ : Type} [DecidableEq κ] (service : Service) (k : κ) (trace : List (Entry κ)) : Option DomainStatus :=
  ((trace.filter (·.asker = k)).filterMap (Entry.told? service)).getLast?

/-- The status in the cache is the one that was told last, and so are the endpoints that it has. -/
structure Cache.Reflects (known : Option DomainStatus) (c : Cache) : Prop where
  status : c.status = known
  endpoint : ∀ channel e, c.endpoint? channel = some e → ∃ s, known = some s ∧ s.endpoint? channel = some e

/-! ## Runs -/

/-- What can be done on an index; a query is in whatever state it is. -/
inductive Operation where
  | endpoint (channel : Channel)
  | status (force : Bool)
  | post (record : Json) (recordId : String) (version : Nat)
  | delete (recordId : String) (version : Nat)
  | create
  | reindex
  | applyChanges (timeout patience : Nat)
  | execute (query : Query)
  | foundCount (query : Query)
  | hits (query : Query)

namespace Operation

/-- Whether the operation asks for a new status by force. -/
def forced : Operation → Bool
  | status force => force
  | applyChanges _ _ => true
  | _ => false

/-- A command on a query, done for the index that it asks. -/
def asking {α : Type} (query : Query) (c : Command Search α) : Command Index α :=
  Command.focus (fun ix => ⟨ix, query⟩) (fun s _ => s.index) c

/-- The index and the exchange after the operation, whatever its result. -/
def perform (service : Service) (ix : Index) (x : Exchange) (op : Operation) : Index × Exchange :=
  let ends {α : Type} (c : Command Index α) := ((c service ix x).state, (c service ix x).exchange)
  match op with
  | endpoint channel => ends (Index.endpoint channel)
  | status force => ends (Index.status force)
  | post record recordId version => ends (Index.post record recordId version)
  | delete recordId version => ends (Index.delete recordId version)
  | create => ends Index.create
  | reindex => ends Index.reindex
  | applyChanges timeout patience => ends (Index.applyChanges timeout patience)
  | execute query => ends (asking query Search.execute)
  | foundCount query => ends (asking query Search.foundCount)
  | hits query => ends (asking query Search.hits)

end Operation

/-- The indexes, the exchange that they share, and the entries so far. -/
structure Run (κ : Type) where
  indexes : κ → Index
  exchange : Exchange
  trace : List (Entry κ) := []

namespace Run

variable {κ : Type} [DecidableEq κ]

/-- Nothing is known of any domain. -/
def start (schemas : κ → Schema) (x : Exchange) : Run κ := { indexes := fun k => { schema := schemas k }, exchange := x }

/-- The entries that an operation on `k` adds. -/
def added (service : Service) (r : Run κ) (k : κ) (op : Operation) : List (Entry κ) :=
  entries k op.forced r.exchange.calls <|
    (op.perform service (r.indexes k) r.exchange).2.calls.drop r.exchange.calls.length

/-- An operation on `k`. -/
def step (service : Service) (r : Run κ) (k : κ) (op : Operation) : Run κ where
  indexes := Function.update r.indexes k (op.perform service (r.indexes k) r.exchange).1
  exchange := (op.perform service (r.indexes k) r.exchange).2
  trace := r.trace ++ r.added service k op

/-- Operations one after the other. -/
def after (service : Service) (r : Run κ) (steps : List (κ × Operation)) : Run κ :=
  steps.foldl (fun r s => r.step service s.1 s.2) r

end Run

/-! ## The last told status -/

variable {κ : Type} [DecidableEq κ] {service : Service} {forced : Bool} {k : κ} {known : Option DomainStatus}

theorem lastTold_append (t t' : List (Entry κ)) :
    lastTold service k (t ++ t') = (lastTold service k t').or (lastTold service k t) := by
  simp [lastTold, List.getLast?_append]

theorem lastTold_cons {e : Entry κ} (he : e.asker = k) (t : List (Entry κ)) :
    lastTold service k (e :: t) = (lastTold service k t).or (e.told? service) := by
  rw [← List.singleton_append, lastTold_append]
  cases h : e.told? service <;> simp [lastTold, he, h]

theorem lastTold_of_other {k' : κ} (h : k' ≠ k) (past new : List Call) :
    lastTold service k' (entries k forced past new) = none := by
  have : (entries k forced past new).filter (·.asker = k') = [] :=
    List.filter_eq_nil_iff.2 fun e he => by simp [asker_of_mem_entries he, h.symm]
  simp [lastTold, this]

/-! ## One operation -/

namespace Cache

theorem reflects_told (status : DomainStatus) : Reflects (some status) { status := some status } :=
  ⟨rfl, fun channel e h => by cases channel <;> cases h⟩

theorem Reflects.withEndpoint {c : Cache} {status : DomainStatus} {channel : Channel} {endpoint : String}
    (h : c.Reflects known) (hs : c.status = some status) (he : status.endpoint? channel = some endpoint) :
    (c.withEndpoint endpoint channel).Reflects known := by
  have hk : known = some status := h.status.symm.trans hs
  constructor
  · cases channel <;> exact h.status
  · intro channel' e he'
    -- the endpoint was there before, or is the new one
    have old : c.endpoint? channel' = some e ∨ channel' = channel ∧ endpoint = e := by
      cases channel <;> cases channel' <;> simp_all [endpoint?, Cache.withEndpoint]
    rcases old with old | ⟨rfl, rfl⟩
    · exact h.endpoint _ _ old
    · exact ⟨status, hk, he⟩

end Cache

namespace Walk

variable {ix ix' : Index} {past new : List Call} {b : Bool}

theorem reflects (h : Walk service forced ix past ix' new b) (hr : ix.cache.Reflects known) :
    ix'.cache.Reflects ((lastTold service k (entries k forced past new)).or known) := by
  induction h generalizing known with
  | done => simpa [entries, lastTold] using hr
  | vain hv => simpa [entries, lastTold, Entry.told?, hv] using hr
  | told hs _ _ ih =>
    simpa [entries, lastTold_cons, Entry.told?, hs, Option.or_assoc] using ih (Cache.reflects_told _)
  | kept _ hs he _ ih => exact ih (hr.withEndpoint hs he)
  | post _ _ ih => simpa [entries, lastTold_cons, Entry.told?] using ih hr
  | search _ _ ih => simpa [entries, lastTold_cons, Entry.told?] using ih hr
  | quiet hq _ ih => simpa [entries, lastTold_cons, Entry.told?_of_quiet, hq] using ih hr

theorem keeps (h : Walk service forced ix past ix' new b) (hr : ix.cache.Reflects known) :
    EachAfter (fun before e => e.Keeps ((lastTold service k before).or known)) (entries k forced past new) := by
  induction h generalizing known with
  | done => exact eachAfter_nil _
  | vain _ hf => exact eachAfter_cons (hf.imp_right fun h => hr.status.symm.trans h) (eachAfter_nil _)
  | told hs hf _ ih =>
    refine eachAfter_cons (hf.imp_right fun h => hr.status.symm.trans h) ?_
    refine (ih (Cache.reflects_told _)).mono fun before e _ he => ?_
    simpa [lastTold_cons, Entry.told?, hs, Option.or_assoc] using he
  | kept _ hs he _ ih => exact ih (hr.withEndpoint hs he)
  | post he _ ih =>
    refine eachAfter_cons (hr.endpoint .document _ he) ((ih hr).mono fun before e _ he => ?_)
    simpa [lastTold_cons, Entry.told?] using he
  | search he _ ih =>
    refine eachAfter_cons (hr.endpoint .search _ he) ((ih hr).mono fun before e _ he => ?_)
    simpa [lastTold_cons, Entry.told?] using he
  | quiet hq _ ih =>
    refine eachAfter_cons (Entry.keeps_of_quiet hq) ((ih hr).mono fun before e _ he => ?_)
    simpa [lastTold_cons, Entry.told?_of_quiet, hq] using he

/-- While a status is known and none is forced nothing is in vain. -/
theorem not_vain_of_known (h : Walk service forced ix past ix' new b) (hf : forced = false)
    (hs : ix.cache.status ≠ none) : b = false := by
  induction h with
  | done => rfl
  | vain _ h => simp_all
  | told _ h => simp_all
  | @kept _ _ _ _ _ _ channel _ _ _ _ _ ih => exact ih (by cases channel <;> exact hs)
  | post _ _ ih | search _ _ ih | quiet _ _ ih => exact ih hs

/-- A describe that told nothing leaves the cache as the last one that told something made it. -/
theorem cache_of_vain (h : Walk service forced ix past ix' new b) (hb : b = true) :
    ix'.cache = match lastTold service k (entries k forced past new) with
      | none => ix.cache
      | some status => { status := some status } := by
  induction h with
  | done => cases hb
  | vain hv => simp [entries, lastTold, Entry.told?, hv]
  | told hs _ _ ih =>
    rw [ih hb, entries, lastTold_cons (k := k) rfl]
    cases lastTold service k (entries k forced _ _) <;> simp [Entry.told?, hs]
  | @kept _ _ _ _ _ _ channel _ hf hs _ hw _ =>
    -- without force nothing is in vain once there is an endpoint to keep
    have := hw.not_vain_of_known hf (by cases channel <;> simp [Cache.withEndpoint, hs])
    simp_all
  | post _ _ ih => simpa [entries, lastTold_cons, Entry.told?] using ih hb
  | search _ _ ih => simpa [entries, lastTold_cons, Entry.told?] using ih hb
  | quiet hq _ ih => simpa [entries, lastTold_cons, Entry.told?_of_quiet, hq] using ih hb

end Walk

/-- Every operation walks. -/
theorem Operation.perform_walks (service : Service) (op : Operation) (ix : Index) (x : Exchange) :
    ∃ new b, (op.perform service ix x).2.calls = x.calls ++ new ∧
      Walk service op.forced ix x.calls (op.perform service ix x).1 new b := by
  have walk {α : Type} {c : Command Index α} {Q : α → Index → Prop}
      (h : Walks service op.forced id (fun _ => True) c Q) : ∃ new b, (c service ix x).exchange.calls = x.calls ++ new ∧
        Walk service op.forced ix x.calls (c service ix x).state new b := by
    obtain ⟨new, b, hcalls, hw, _⟩ := h ix x trivial
    exact ⟨new, b, hcalls, hw⟩
  have asks {α : Type} {c : Command Search α} {q : Query}
      (h : Walks service op.forced Search.index (fun _ => True) c fun _ _ => True) :
      Walks service op.forced id (fun _ => True) (asking q c) fun _ _ => True :=
    .focus (fun _ => rfl) (fun _ _ => rfl) h
  cases op with
  | endpoint channel => exact walk (Index.walks_endpoint channel)
  | status force => exact walk (Index.walks_status force (by cases force <;> simp [forced]))
  | post record recordId version => exact walk (Index.walks_post record recordId version)
  | delete recordId version => exact walk (Index.walks_submit _)
  | create => exact walk Index.walks_create
  | reindex => exact walk Index.walks_reindex
  | applyChanges timeout patience => exact walk (Index.walks_applyChanges timeout patience)
  | execute query => exact walk (asks Search.walks_execute)
  | foundCount query => exact walk (asks Search.walks_foundCount)
  | hits query => exact walk (asks Search.walks_hits)

theorem Operation.schema_perform (service : Service) (op : Operation) (ix : Index) (x : Exchange) :
    (op.perform service ix x).1.schema = ix.schema := by
  obtain ⟨_, _, -, h⟩ := op.perform_walks service ix x
  exact h.schema_eq

/-! ## Whole runs -/

/-- What holds of a run that began with the exchange `x`: the trace is the log of all calls, each call
keeps to what its asker was told before, and each cache reflects what its index was told. -/
structure Run.Coherent (service : Service) (x : Exchange) (r : Run κ) : Prop where
  calls : r.exchange.calls = x.calls ++ r.trace.map Entry.call
  past : EachAfter (fun before e => e.past = x.calls ++ before.map Entry.call) r.trace
  keeps : EachAfter (fun before e => e.Keeps (lastTold service e.asker before)) r.trace
  reflects : ∀ k, (r.indexes k).cache.Reflects (lastTold service k r.trace)

namespace Run

variable {x : Exchange} {r : Run κ}

theorem added_walks (service : Service) (r : Run κ) (k : κ) (op : Operation) :
    ∃ new b, (r.step service k op).exchange.calls = r.exchange.calls ++ new ∧
      r.added service k op = entries k op.forced r.exchange.calls new ∧
      Walk service op.forced (r.indexes k) r.exchange.calls ((r.step service k op).indexes k) new b := by
  obtain ⟨new, b, hcalls, hw⟩ := op.perform_walks service (r.indexes k) r.exchange
  refine ⟨new, b, hcalls, ?_, ?_⟩
  · rw [added, hcalls, List.drop_left]
  · simpa [step] using hw

theorem coherent_start (schemas : κ → Schema) (x : Exchange) : (start schemas x).Coherent service x where
  calls := by simp [start]
  past := eachAfter_nil _
  keeps := eachAfter_nil _
  reflects _ := ⟨rfl, fun channel e h => by cases channel <;> cases h⟩

theorem Coherent.step (h : r.Coherent service x) (k : κ) (op : Operation) :
    (r.step service k op).Coherent service x := by
  obtain ⟨new, b, hcalls, hadd, hw⟩ := added_walks service r k op
  have trace : (r.step service k op).trace = r.trace ++ entries k op.forced r.exchange.calls new := by
    rw [← hadd]; rfl
  constructor
  · rw [hcalls, trace, List.map_append, map_call_entries, h.calls, List.append_assoc]
  · rw [trace]
    refine eachAfter_append h.past ((past_entries _ _).mono fun before e _ he => ?_)
    rw [he, h.calls, List.map_append, List.append_assoc]
  · rw [trace]
    refine eachAfter_append h.keeps ((hw.keeps (h.reflects k)).mono fun before e hmem he => ?_)
    rwa [asker_of_mem_entries hmem, lastTold_append]
  · intro k'
    rw [trace, lastTold_append]
    by_cases hk : k' = k
    · subst hk
      exact hw.reflects (h.reflects k')
    · -- what the operation told its index says nothing about another
      have other : (r.step service k op).indexes k' = r.indexes k' := Function.update_of_ne hk _ _
      rw [other, lastTold_of_other hk, Option.none_or]
      exact h.reflects k'

theorem Coherent.after (h : r.Coherent service x) (steps : List (κ × Operation)) :
    (r.after service steps).Coherent service x := by
  induction steps generalizing r with
  | nil => exact h
  | cons s steps ih => exact ih (h.step s.1 s.2)

end Run

/-- Whatever is done on the indexes and whatever the service answers, the run is coherent. After any run,
an operation in which a describe was in vain leaves in the cache what an earlier describe of the same
operation put there, or else what was there before. -/
theorem endpoint_caches_coherent (service : Service) (schemas : κ → Schema) (x : Exchange)
    (steps : List (κ × Operation)) :
    let r := (Run.start schemas x).after service steps
    r.Coherent service x ∧
    ∀ k op, (∃ e ∈ r.added service k op, e.IsVain service) →
      ((r.step service k op).indexes k).cache = match lastTold service k (r.added service k op) with
        | none => (r.indexes k).cache
        | some status => { status := some status } := by
  intro r
  refine ⟨(Run.coherent_start schemas x).after steps, fun k op ⟨e, he, hv⟩ => ?_⟩
  obtain ⟨new, b, -, hadd, hw⟩ := Run.added_walks service r k op
  rw [hadd] at he ⊢
  exact hw.cache_of_vain (hw.vain_of_entry he hv)

end SearchIndex
