import SearchIndex.Proofs.Index.Protocol

/-!
# Longer timeouts

Applying changes with two timeouts makes the same requests up to where one of the two ends, if the service pays
no heed to the pauses between them. While the domain is processing it is not the one with the longer timeout that
ends there: pauses that take all of a longer time are no fewer.
-/

namespace SearchIndex

variable {service : Service} {name : String} {past past' new new' : List Call} {ending ending' : Except SearchError DomainStatus}

/-! ## Requests -/

/-- The calls without the pauses among them. -/
def requests (calls : List Call) : List Call := calls.filter fun
  | .sleep _ => false
  | _ => true

theorem requests_append (calls calls' : List Call) : requests (calls ++ calls') = requests calls ++ requests calls' :=
  List.filter_append ..

theorem requests_append_congr {calls calls' : List Call} (hp : requests past = requests past')
    (h : requests calls = requests calls') : requests (past ++ calls) = requests (past' ++ calls') := by
  rw [requests_append, requests_append, hp, h]

/-- What the service answers depends on the requests before, not on the pauses. -/
structure Service.IgnoresPauses (service : Service) : Prop where
  describe {past past' : List Call} (name : String) : requests past = requests past' →
    service.describe past name = service.describe past' name
  index {past past' : List Call} (name : String) : requests past = requests past' →
    service.index past name = service.index past' name

/-- A service that answers in turn: each answer is told by the number of requests before it. -/
def Service.scripted (describes : Nat → Except TransportError (List DomainStatus))
    (indexes : Nat → Except TransportError Unit) : Service :=
  { Service.offline with
    describe := fun past _ => describes (requests past).length
    index := fun past _ => indexes (requests past).length }

theorem Service.scripted_ignoresPauses (describes : Nat → Except TransportError (List DomainStatus))
    (indexes : Nat → Except TransportError Unit) : (scripted describes indexes).IgnoresPauses where
  describe _ hp := by simp only [scripted, hp]
  index _ hp := by simp only [scripted, hp]

theorem Service.IgnoresPauses.look (hs : service.IgnoresPauses) (hp : requests past = requests past') :
    service.look past name = service.look past' name := by
  rw [Service.look, Service.look, hs.describe name hp]

/-! ## Two watches -/

/-- The calls `new` end while the domain is processing, and `new'` go on from there with a pause. -/
structure GoesOn (new : List Call) (ending : Except SearchError DomainStatus) (new' : List Call) : Prop where
  starts : requests new <+: requests new'
  fewer : (pauses new).length < (pauses new').length
  processing : ∃ last, ending = .ok last ∧ last.processing = true

/-- One makes the requests of the other and goes on, or both make the same and end alike. -/
inductive Alike (new : List Call) (ending : Except SearchError DomainStatus) (new' : List Call)
    (ending' : Except SearchError DomainStatus) : Prop
  | same : requests new = requests new' → ending = ending' → Alike new ending new' ending'
  | longer : GoesOn new ending new' → Alike new ending new' ending'
  | shorter : GoesOn new' ending' new → Alike new ending new' ending'

theorem GoesOn.prepend (calls calls' : List Call) (hr : requests calls = requests calls')
    (hp : (pauses calls).length = (pauses calls').length) (h : GoesOn new ending new') :
    GoesOn (calls ++ new) ending (calls' ++ new') where
  starts := by
    rw [requests_append, requests_append, hr]
    exact (List.prefix_append_right_inj _).2 h.starts
  fewer := by
    have := h.fewer
    simp only [pauses_append, List.length_append]
    omega
  processing := h.processing

theorem Alike.prepend (calls calls' : List Call) (hr : requests calls = requests calls')
    (hp : (pauses calls).length = (pauses calls').length) (h : Alike new ending new' ending') :
    Alike (calls ++ new) ending (calls' ++ new') ending' := by
  cases h with
  | same hnew hending => exact .same (requests_append_congr hr hnew) hending
  | longer h => exact .longer (h.prepend calls calls' hr hp)
  | shorter h => exact .shorter (h.prepend calls' calls hr.symm hp.symm)

theorem GoesOn.of_nil {seen : DomainStatus} (hs : seen.processing = true) (pause : Nat) (new : List Call) :
    GoesOn [] (.ok seen) (.sleep pause :: new) :=
  ⟨List.nil_prefix, by simp [pauses], seen, rfl, hs⟩

/-- A watch goes on where one stops that makes no call, unless it does so too. -/
theorem Watch.goesOn_of_stop {seen : DomainStatus} (h : Watch service name past seen new ending) :
    new = [] ∧ ending = .ok seen ∨ GoesOn [] (.ok seen) new := by
  cases h with
  | stop => exact .inl ⟨rfl, rfl⟩
  | lost hs | look hs => exact .inr (.of_nil hs _ _)

/-- Both look at the same time at what the same requests led to. -/
theorem Watch.alike (hs : service.IgnoresPauses) {seen : DomainStatus} (h : Watch service name past seen new ending)
    (hp : requests past = requests past') (h' : Watch service name past' seen new' ending') :
    Alike new ending new' ending' := by
  -- the look after a pause is the same however long the pauses are
  have look (past past' : List Call) (pause pause' : Nat) (hp : requests past = requests past') :
      service.look (past ++ [.sleep pause]) name = service.look (past' ++ [.sleep pause']) name :=
    hs.look (requests_append_congr hp rfl)
  induction h generalizing past' new' ending' with
  | stop =>
    rcases h'.goesOn_of_stop with ⟨rfl, rfl⟩ | hgo
    · exact .same rfl rfl
    · exact .longer hgo
  | @lost past seen pause e hseen hl =>
    cases h' with
    | stop => exact .shorter (.of_nil hseen _ _)
    | @lost _ _ pause' e' _ hl' =>
      rw [look past past' pause pause' hp, hl'] at hl
      cases hl
      exact .same rfl rfl
    | @look _ _ pause' _ _ _ _ hl' =>
      rw [look past past' pause pause' hp, hl'] at hl
      cases hl
  | @look past seen pause status new ending hseen hl hw ih =>
    cases h' with
    | stop => exact .shorter (.of_nil hseen _ _)
    | @lost _ _ pause' _ _ hl' =>
      rw [look past past' pause pause' hp, hl'] at hl
      cases hl
    | @look _ _ pause' status' new' _ _ hl' hw' =>
      rw [look past past' pause pause' hp, hl'] at hl
      cases hl
      have hlooked : requests (past ++ [.sleep pause] ++ [.describe name]) =
          requests (past' ++ [.sleep pause'] ++ [.describe name]) :=
        requests_append_congr (requests_append_congr hp rfl) rfl
      exact (ih hlooked hw').prepend [.sleep pause, .describe name] [.sleep pause', .describe name] rfl rfl

/-! ## Two protocols -/

/-- The calls before the watch, and the status that it begins with unless the last of them fails. -/
def opening (service : Service) (name : String) (past : List Call) : List Call × Except SearchError DomainStatus :=
  match service.look past name with
  | .error e => ([.describe name], .error e)
  | .ok first =>
    if first.requiresIndexing then
      match service.index (past ++ [.describe name]) name with
      | .error e => ([.describe name, .index name], .error (.transport e))
      | .ok () => ([.describe name, .index name, .describe name],
          service.look (past ++ [.describe name] ++ [.index name]) name)
    else ([.describe name], .ok first)

theorem Protocol.opened (h : Protocol service name past new ending) :
    match opening service name past with
    | (calls, .error e) => new = calls ∧ ending = .error e
    | (calls, .ok seen) => ∃ rest, new = calls ++ rest ∧ Watch service name (past ++ calls) seen rest ending := by
  cases h with
  | unknown hl => simp [opening, hl]
  | current hl hr hw => simpa [opening, hl, hr] using hw
  | refused hl hr hi => simp [opening, hl, hr, hi]
  | lost hl hr hi hl' => simp_all [opening]
  | reindexed hl hr hi hl' hw => simp_all [opening]

/-- Both open with the same calls. -/
theorem Protocol.alike (hs : service.IgnoresPauses) (h : Protocol service name past new ending)
    (h' : Protocol service name past new' ending') : Alike new ending new' ending' := by
  have hopened := h.opened
  have hopened' := h'.opened
  rcases hopening : opening service name past with ⟨calls, e | seen⟩ <;> rw [hopening] at hopened hopened'
  · obtain ⟨rfl, rfl⟩ := hopened
    obtain ⟨rfl, rfl⟩ := hopened'
    exact .same rfl rfl
  · obtain ⟨rest, rfl, hw⟩ := hopened
    obtain ⟨rest', rfl, hw'⟩ := hopened'
    exact (hw.alike hs rfl hw').prepend calls calls rfl rfl

/-! ## Two timeouts -/

theorem Time.deadline?_of_le {now timeout timeout' deadline' : Nat} (h : timeout ≤ timeout')
    (hd : deadline? now timeout' = some deadline') : ∃ deadline, deadline? now timeout = some deadline := by
  simp only [deadline?] at hd ⊢
  split at hd
  · exact ⟨now + timeout, if_pos (by omega)⟩
  · cases hd

namespace Index

variable {ix : Index} {x : Exchange} {timeout timeout' patience patience' : Nat}

/-- What is told for certain is told at the end, and then the domain is not processing. -/
theorem Settled.of_certain {deadline : Option Nat} {looks : Nat} {o : Outcome Index (Option Bool)}
    (h : Settled ix deadline looks new ending o) (hc : o.result = .ok (some true) ∨ ∃ e, o.result = .error e) :
    o.result = ending.map (fun last => some (!last.processing)) ∧ ¬ ∃ last, ending = .ok last ∧ last.processing = true := by
  rcases h.result with hr | ⟨hr, -⟩
  · refine ⟨hr, ?_⟩
    rintro ⟨last, rfl, hlast⟩
    simp [hr, Except.map, hlast] at hc
  · simp [hr] at hc

/-- With a longer timeout applying changes does not end earlier while the domain is processing. -/
theorem pauses_le_of_processing (h : timeout ≤ timeout')
    (hpatience : Time.deadline? x.now timeout' = none → (pauses new).length ≤ patience')
    (hnew : (applyChanges timeout patience service ix x).exchange.calls = x.calls ++ new)
    (hnew' : (applyChanges timeout' patience' service ix x).exchange.calls = x.calls ++ new')
    (hset : Settled ix (Time.deadline? x.now timeout') (looksAllowed timeout' patience' (Time.deadline? x.now timeout'))
      new' ending' (applyChanges timeout' patience' service ix x))
    (hprocessing : ∃ last, ending' = .ok last ∧ last.processing = true) :
    (pauses new).length ≤ (pauses new').length := by
  obtain ⟨last, rfl, hlast⟩ := hprocessing
  cases hd : Time.deadline? x.now timeout' with
  | none =>
    rw [hd] at hset
    rcases hset.result with hr | ⟨-, hlen, -⟩
    · exact (hset.unlimited rfl (by simpa [Except.map, hlast] using hr)).elim
    · rw [hlen]
      exact hpatience hd
  | some deadline' =>
    obtain ⟨deadline, hd'⟩ := Time.deadline?_of_le h hd
    obtain ⟨⟨calls, hcalls, hpaced, -⟩, -⟩ := applyChanges_scheduled service patience ix hd'
    obtain ⟨⟨calls', hcalls', hpaced', -, hfalse⟩, hends⟩ := applyChanges_scheduled service patience' ix hd
    obtain rfl : calls = new := List.append_cancel_left (hcalls.symm.trans hnew)
    obtain rfl : calls' = new' := List.append_cancel_left (hcalls'.symm.trans hnew')
    have hgaveUp : (applyChanges timeout' patience' service ix x).result = .ok (some false) := by
      rcases hset.result with hr | ⟨hr, -⟩
      · simpa [Except.map, hlast] using hr
      · exact (hends hr).elim
    exact hpaced.length_le_of_sum_eq hpaced' h (hfalse hgaveUp)

end Index

/-- If the service pays no heed to pauses, then with a longer timeout applying changes makes at least the same
requests, and where it has told that the domain is not processing, or failed, it ends with the same result
after the same requests. The longer timeout may have no deadline: then its patience has to last for the pauses
of the shorter one. -/
theorem longer_timeout_extends_requests (service : Service) (hs : service.IgnoresPauses) (ix : Index) (x : Exchange)
    (timeout timeout' patience patience' : Nat) (h : timeout ≤ timeout') :
    let o := Index.applyChanges timeout patience service ix x
    let o' := Index.applyChanges timeout' patience' service ix x
    ∃ new new', o.exchange.calls = x.calls ++ new ∧ o'.exchange.calls = x.calls ++ new' ∧
      ((Time.deadline? x.now timeout' = none → (pauses new).length ≤ patience') →
        requests new <+: requests new' ∧
        (o.result = .ok (some true) ∨ (∃ e, o.result = .error e) →
          o'.result = o.result ∧ requests new' = requests new)) := by
  intro o o'
  obtain ⟨new, ending, hnew, hprotocol, hset⟩ := Index.applyChangesBy_protocol service Exchange.now timeout
    (Index.looksAllowed timeout patience) ix x
  obtain ⟨new', ending', hnew', hprotocol', hset'⟩ := Index.applyChangesBy_protocol service Exchange.now timeout'
    (Index.looksAllowed timeout' patience') ix x
  refine ⟨new, new', hnew, hnew', fun hpatience => ?_⟩
  cases hprotocol.alike hs hprotocol' with
  | same hrequests hending =>
    subst hending
    refine ⟨by rw [hrequests], fun hcertain => ⟨?_, hrequests.symm⟩⟩
    obtain ⟨hr, hdone⟩ := hset.of_certain hcertain
    rcases hset'.result with hr' | ⟨-, -, hprocessing⟩
    · exact hr'.trans hr.symm
    · exact (hdone hprocessing).elim
  | longer hgo => exact ⟨hgo.starts, fun hcertain => ((hset.of_certain hcertain).2 hgo.processing).elim⟩
  | shorter hgo =>
    -- the one with the longer timeout would have ended first
    have hle := Index.pauses_le_of_processing h hpatience hnew hnew' hset' hgo.processing
    have hlt := hgo.fewer
    omega

set_option maxRecDepth 5000 in
/-- A domain that is indexed first and processing at three looks: its last pause is cut by the shorter timeout
only, and without a deadline it has converged after the same requests. -/
theorem longer_timeout_extends_requests_unlimited :
    let service := Service.scripted
      (fun n => .ok [{ domainName := "reviews", requiresIndexing := n == 0, processing := decide (n < 5) }]) (fun _ => .ok ())
    let apply (timeout : Nat) := Index.applyChanges timeout 3 service { schema := { name := "reviews", initialBackoff := 0 } } {}
    Time.deadline? 0 Time.longest = none ∧
    (apply 4000000).result = .ok (some true) ∧ (apply Time.longest).result = .ok (some true) ∧
    pauses (apply 4000000).exchange.calls = [1000000, 2000000, 1000000] ∧
    pauses (apply Time.longest).exchange.calls = [1000000, 2000000, 4000000] ∧
    requests (apply Time.longest).exchange.calls = requests (apply 4000000).exchange.calls := by
  intro service apply
  have hr : (apply 4000000).result = .ok (some true) := rfl
  have hp : pauses (apply 4000000).exchange.calls = [1000000, 2000000, 1000000] := rfl
  obtain ⟨new, new', hnew, hnew', hextends⟩ := longer_timeout_extends_requests service
    (Service.scripted_ignoresPauses _ _) { schema := { name := "reviews", initialBackoff := 0 } } {} 4000000 Time.longest 3 3
    (by decide)
  rw [List.nil_append] at hnew hnew'
  obtain ⟨hr', hrequests⟩ := (hextends fun _ => by rw [← hnew, hp]; decide).2 (.inl hr)
  refine ⟨by decide, hr, hr'.trans hr, hp, rfl, ?_⟩
  rw [hnew, hnew', hrequests]

end SearchIndex
