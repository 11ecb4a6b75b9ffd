import SearchIndex.Proofs.Index.Schedule
import SearchIndex.Proofs.Results

/-!
# The protocol of applying changes

Applying changes describes the domain, has it indexed if its first status says so and describes it again,
and then pauses and describes in turn while it is processing. `Protocol` lists these calls together with
how they end: with the status seen last, or with the error of the call that failed, which is the last one.
The service may answer anything at any time and the clock show anything; whatever later statuses say, the domain
is indexed once at most.
-/

namespace SearchIndex

variable {service : Service} {name : String} {past new : List Call} {ending : Except SearchError DomainStatus}

/-! ## Answers -/

/-- The error that a call brings about, if it does. -/
def Service.fault? (service : Service) (past : List Call) : Call → Option SearchError
  | .describe name =>
    match service.look past name with
    | .error e => some e
    | .ok _ => none
  | .index name =>
    match service.index past name with
    | .error e => some (.transport e)
    | .ok _ => none
  | _ => none

theorem Service.fault?_describe : service.fault? past (.describe name) = match service.look past name with
    | .error e => some e
    | .ok _ => none := rfl

/-! ## The calls -/

/-- Pauses and describes in turn, after a status was seen: each pause is made only if the status seen just
before was processing. -/
inductive Watch (service : Service) (name : String) :
    List Call → DomainStatus → List Call → Except SearchError DomainStatus → Prop
  | stop {past seen} : Watch service name past seen [] (.ok seen)
  | lost {past seen pause e} : seen.processing = true → service.look (past ++ [.sleep pause]) name = .error e →
      Watch service name past seen [.sleep pause, .describe name] (.error e)
  | look {past seen pause status new ending} : seen.processing = true →
      service.look (past ++ [.sleep pause]) name = .ok status →
      Watch service name (past ++ [.sleep pause] ++ [.describe name]) status new ending →
      Watch service name past seen (.sleep pause :: .describe name :: new) ending

/-- The calls that apply the changes of a domain, and how they end. -/
inductive Protocol (service : Service) (name : String) (past : List Call) :
    List Call → Except SearchError DomainStatus → Prop
  | unknown {e} : service.look past name = .error e → Protocol service name past [.describe name] (.error e)
  | current {first new ending} : service.look past name = .ok first → first.requiresIndexing = false →
      Watch service name (past ++ [.describe name]) first new ending →
      Protocol service name past (.describe name :: new) ending
  | refused {first e} : service.look past name = .ok first → first.requiresIndexing = true →
      service.index (past ++ [.describe name]) name = .error e →
      Protocol service name past [.describe name, .index name] (.error (.transport e))
  | lost {first e} : service.look past name = .ok first → first.requiresIndexing = true →
      service.index (past ++ [.describe name]) name = .ok () →
      service.look (past ++ [.describe name] ++ [.index name]) name = .error e →
      Protocol service name past [.describe name, .index name, .describe name] (.error e)
  | reindexed {first second new ending} : service.look past name = .ok first → first.requiresIndexing = true →
      service.index (past ++ [.describe name]) name = .ok () →
      service.look (past ++ [.describe name] ++ [.index name]) name = .ok second →
      Watch service name (past ++ [.describe name] ++ [.index name] ++ [.describe name]) second new ending →
      Protocol service name past (.describe name :: .index name :: .describe name :: new) ending

/-! ## Failures -/

/-- Only the last of the calls `new` can have failed, and the ending is an error just if it has: its own. -/
structure FailsLast (service : Service) (past new : List Call) (ending : Except SearchError DomainStatus) : Prop where
  stops : ∀ before call after e, new = before ++ call :: after → service.fault? (past ++ before) call = some e →
    after = [] ∧ ending = .error e
  failed : ∀ e, ending = .error e → ∃ before call, new = before ++ [call] ∧
    service.fault? (past ++ before) call = some e

namespace FailsLast

theorem done (past : List Call) (status : DomainStatus) : FailsLast service past [] (.ok status) where
  stops before call after e h := by simp at h
  failed e h := by cases h

theorem last {call : Call} {e : SearchError} (h : service.fault? past call = some e) :
    FailsLast service past [call] (.error e) where
  stops before call' after e' hnew hf := by
    cases before with
    | nil => cases hnew; simp_all
    | cons _ _ => simp at hnew
  failed e' he := ⟨[], call, rfl, by cases he; simpa using h⟩

theorem cons {call : Call} (h : service.fault? past call = none)
    (hrest : FailsLast service (past ++ [call]) new ending) : FailsLast service past (call :: new) ending where
  stops before call' after e hnew hf := by
    cases before with
    | nil => cases hnew; simp [h] at hf
    | cons c before =>
      cases hnew
      exact hrest.stops before call' after e rfl (by simpa using hf)
  failed e he := by
    obtain ⟨before, call', rfl, hf⟩ := hrest.failed e he
    exact ⟨call :: before, call', rfl, by simpa using hf⟩

theorem describe_lost {e : SearchError} (h : service.look past name = .error e) :
    FailsLast service past [.describe name] (.error e) :=
  last (by rw [Service.fault?_describe, h])

theorem describe_cons {status : DomainStatus} (h : service.look past name = .ok status)
    (hrest : FailsLast service (past ++ [.describe name]) new ending) :
    FailsLast service past (.describe name :: new) ending :=
  cons (by rw [Service.fault?_describe, h]) hrest

end FailsLast

theorem Watch.failsLast {seen : DomainStatus} (h : Watch service name past seen new ending) :
    FailsLast service past new ending := by
  induction h with
  | stop => exact .done _ _
  | lost _ hl => exact .cons rfl (.describe_lost hl)
  | look _ hl _ ih => exact .cons rfl (.describe_cons hl ih)

theorem Protocol.failsLast (h : Protocol service name past new ending) : FailsLast service past new ending := by
  have indexed : service.index (past ++ [.describe name]) name = .ok () →
      service.fault? (past ++ [.describe name]) (.index name) = none := by
    intro hi
    simp [Service.fault?, hi]
  cases h with
  | unknown hl => exact .describe_lost hl
  | current hl _ hw => exact .describe_cons hl hw.failsLast
  | refused hl _ hi => exact .describe_cons hl (.last (by simp [Service.fault?, hi]))
  | lost hl _ hi hl' => exact .describe_cons hl (.cons (indexed hi) (.describe_lost hl'))
  | reindexed hl _ hi hl' hw => exact .describe_cons hl (.cons (indexed hi) (.describe_cons hl' hw.failsLast))

/-! ## Indexing -/

theorem Watch.index_not_mem {seen : DomainStatus} (h : Watch service name past seen new ending) (domain : String) :
    .index domain ∉ new := by
  induction h with
  | stop => simp
  | lost => simp
  | look _ _ _ ih => simpa using ih

/-- The domain is indexed by the second call, and by no other. -/
theorem Protocol.index_second (h : Protocol service name past new ending) {i : Nat} {domain : String}
    (hi : new[i]? = some (.index domain)) : i = 1 ∧ domain = name := by
  have watched {seen past new ending} (hw : Watch service name past seen new ending) (j : Nat) :
      new[j]? ≠ some (.index domain) := fun hj => hw.index_not_mem domain (List.mem_of_getElem? hj)
  cases h with
  | unknown => cases i <;> simp at hi
  | current _ _ hw =>
    cases i with
    | zero => simp at hi
    | succ j => exact (watched hw j hi).elim
  | refused => rcases i with _ | _ | j <;> simp_all
  | lost => rcases i with _ | _ | _ | j <;> simp_all
  | reindexed _ _ _ _ hw =>
    rcases i with _ | _ | _ | j
    · simp at hi
    · simp_all
    · simp at hi
    · exact (watched hw j hi).elim

/-- It is indexed just if its first status says that this is needed. -/
theorem Protocol.index_mem_iff (h : Protocol service name past new ending) :
    .index name ∈ new ↔ ∃ first, service.look past name = .ok first ∧ first.requiresIndexing = true := by
  cases h with
  | unknown hl => simp [hl]
  | current hl hr hw => simp [hl, hr, hw.index_not_mem]
  | refused hl hr | lost hl hr | reindexed hl hr => simp [hl, hr]

/-! ## What an index does -/

namespace Index

theorem status_true_apply (ix : Index) (x : Exchange) : status true service ix x =
    match service.look x.calls ix.schema.name with
    | .error e => ⟨.error e, ix, { x with calls := x.calls ++ [.describe ix.schema.name] }⟩
    | .ok status => ⟨.ok status, ix.told status, { x with calls := x.calls ++ [.describe ix.schema.name] }⟩ := by
  have fresh : status true service ix x = describe service ix x := by
    simp only [status, Command.bind_apply, Command.state_apply]
    rcases ix.cache.status with _ | known <;> rfl
  rw [fresh]
  exact describe_eq_look ix x

theorem reindex_apply (service : Service) (ix : Index) (x : Exchange) : reindex service ix x =
    ⟨(service.index x.calls ix.schema.name).mapError .transport, ix,
      { x with calls := x.calls ++ [.index ix.schema.name] }⟩ := rfl

/-- An index that has just been told a status takes both endpoints from it, without a call. -/
theorem endpoint_of_told (ix : Index) (status : DomainStatus) (channel : Channel) (service : Service) (x : Exchange) :
    (endpoint channel service (ix.told status) x).exchange = x ∧
    (endpoint channel service (ix.told status) x).result = match status.endpoint? channel with
      | some endpoint => .ok endpoint
      | none => .error (.endpointUnavailable ix.schema.name channel) := by
  have hnone : (ix.told status).cache.endpoint? channel = none := by cases channel <;> rfl
  have hknown : Index.status false service (ix.told status) x = ⟨.ok status, ix.told status, x⟩ := rfl
  simp only [endpoint, Command.bind_apply, Command.state_apply, hnone, hknown]
  cases status.endpoint? channel <;> simp [Command.bind_apply, told]

/-- How a command ends that has watched the domain with at most so many `looks`: with the verdict on the
status seen last, which is also what the index knows now, or with an error, or with its looks used up. -/
structure Settled (ix : Index) (deadline : Option Nat) (looks : Nat) (new : List Call)
    (ending : Except SearchError DomainStatus) (o : Outcome Index (Option Bool)) : Prop where
  result : o.result = ending.map (fun last => some (!last.processing)) ∨
    o.result = .ok none ∧ (pauses new).length = looks ∧ ∃ last, ending = .ok last ∧ last.processing = true
  known : ∀ last, ending = .ok last → o.state = ix.told last
  unlimited : deadline = none → o.result ≠ .ok (some false)

/-- A failure settles it. -/
theorem Settled.failed (ix : Index) (deadline : Option Nat) (looks : Nat) (new : List Call) (e : SearchError)
    (ix' : Index) (x : Exchange) : Settled ix deadline looks new (.error e) ⟨.error e, ix', x⟩ where
  result := .inl rfl
  known last h := by cases h
  unlimited _ := by simp

/-- From an index that was just told the status `seen`, a command watches the domain and settles it. -/
def Watches (service : Service) (deadline : Option Nat) (looks : Nat) (ix : Index) (x : Exchange) (seen : DomainStatus)
    (o : Outcome Index (Option Bool)) : Prop :=
  ∃ new ending, o.exchange.calls = x.calls ++ new ∧ Watch service ix.schema.name x.calls seen new ending ∧
    Settled ix deadline looks new ending o

theorem Watches.still {deadline : Option Nat} {looks : Nat} {ix : Index} {x : Exchange} {seen : DomainStatus}
    {result : Option Bool} (hr : result = some (!seen.processing) ∨ result = none ∧ looks = 0 ∧ seen.processing = true)
    (hd : deadline = none → result ≠ some false) :
    Watches service deadline looks ix x seen ⟨.ok result, ix.told seen, x⟩ := by
  refine ⟨[], .ok seen, by simp, .stop, ?_, ?_, fun h => by simpa using hd h⟩
  · rcases hr with rfl | ⟨rfl, rfl, hp⟩
    · exact .inl rfl
    · exact .inr ⟨rfl, rfl, seen, rfl, hp⟩
  · rintro _ ⟨⟩
    rfl

/-- What came before the watch, without a pause. -/
theorem Settled.prepend {ix : Index} {deadline : Option Nat} {looks : Nat} {o : Outcome Index (Option Bool)}
    {calls : List Call} (hp : pauses calls = []) (h : Settled ix deadline looks new ending o) :
    Settled ix deadline looks (calls ++ new) ending o where
  result := by simpa only [pauses_append, hp, List.nil_append] using h.result
  known := h.known
  unlimited := h.unlimited

theorem await_watches (service : Service) (clock : Clock) (deadline : Option Nat) (looks backoff : Nat) (ix : Index)
    (x : Exchange) {seen : DomainStatus} (hs : seen.processing = true) :
    Watches service deadline looks ix x seen (await clock deadline looks backoff service (ix.told seen) x) := by
  induction looks generalizing backoff x seen with
  | zero => exact .still (.inr ⟨rfl, rfl, hs⟩) (by simp)
  | succ looks ih =>
    simp only [await]
    rw [Command.bind_of_ok (Command.time_apply _ _ _ _)]
    cases hp : Convergence.pause? deadline (clock x) backoff with
    | none =>
      -- only a deadline stops the pauses
      refine .still (.inl (by simp [hs])) fun hd => ?_
      rw [hd] at hp
      cases hp
    | some pause =>
      simp only
      rw [Command.bind_of_ok (Command.sleep_apply _ _ _ _), Command.bind_apply, status_true_apply]
      simp only [told]
      cases hl : service.look (x.calls ++ [.sleep pause]) ix.schema.name with
      | error e => exact ⟨_, _, by simp, .lost hs hl, .failed _ _ _ _ _ _ _⟩
      | ok status =>
        -- what is left to do watches from the new status
        have rest (x' : Exchange) : Watches service deadline looks ix x' status
            ((if status.processing then await clock deadline looks (Time.doubled backoff) else return some true :
              Command Index (Option Bool)) service (ix.told status) x') := by
          cases hs' : status.processing with
          | true => exact ih (Time.doubled backoff) x' hs'
          | false => exact .still (.inl (by simp [hs'])) (by simp)
        obtain ⟨new, ending, hcalls, hw, hset⟩ := rest
          { calls := x.calls ++ [.sleep pause] ++ [.describe ix.schema.name], now := Time.after x.now pause }
        refine ⟨_, ending, hcalls.trans (by simp), .look hs hl hw, ?_, hset.known, hset.unlimited⟩
        rcases hset.result with h | ⟨h, hlen, hlast⟩
        · exact .inl h
        · exact .inr ⟨h, by simpa [pauses] using hlen, hlast⟩

/-- What is left to do once a status is known that decides whether to wait. -/
def wait (clock : Clock) (deadline : Option Nat) (looks : Nat) (seen : DomainStatus) : Command Index (Option Bool) := do
  if seen.processing then
    await clock deadline looks (Convergence.firstBackoff (← Command.state).schema.initialBackoff)
  else return some true

/-- What is left to do once the deadline is set. -/
def converge (clock : Clock) (deadline : Option Nat) (looks : Nat) : Command Index (Option Bool) := do
  let first ← status true
  let current ← if first.requiresIndexing then do reindex; status true else pure first
  wait clock deadline looks current

theorem applyChangesBy_apply (service : Service) (clock : Clock) (timeout : Nat) (looks : Option Nat → Nat) (ix : Index)
    (x : Exchange) : applyChangesBy clock timeout looks service ix x =
      converge clock (Time.deadline? (clock x) timeout) (looks (Time.deadline? (clock x) timeout)) service ix x := rfl

theorem wait_watches (service : Service) (clock : Clock) (deadline : Option Nat) (looks : Nat) (ix : Index)
    (x : Exchange) (seen : DomainStatus) :
    Watches service deadline looks ix x seen (wait clock deadline looks seen service (ix.told seen) x) := by
  unfold wait
  cases hs : seen.processing with
  | true => exact await_watches service clock deadline looks _ ix x hs
  | false => exact .still (.inl (by simp [hs])) (by simp)

theorem converge_protocol (service : Service) (clock : Clock) (deadline : Option Nat) (looks : Nat) (ix : Index)
    (x : Exchange) : ∃ new ending, (converge clock deadline looks service ix x).exchange.calls = x.calls ++ new ∧
      Protocol service ix.schema.name x.calls new ending ∧
      Settled ix deadline looks new ending (converge clock deadline looks service ix x) := by
  rw [converge, Command.bind_apply, status_true_apply]
  cases hl : service.look x.calls ix.schema.name with
  | error e => exact ⟨_, _, rfl, .unknown hl, .failed _ _ _ _ _ _ _⟩
  | ok first =>
    simp only
    cases hr : first.requiresIndexing with
    | false =>
      obtain ⟨new, ending, hcalls, hw, hset⟩ := wait_watches service clock deadline looks ix
        { x with calls := x.calls ++ [.describe ix.schema.name] } first
      exact ⟨[.describe ix.schema.name] ++ new, ending, hcalls.trans (by simp), .current hl hr hw, hset.prepend rfl⟩
    | true =>
      rw [if_pos rfl, Command.bind_apply, reindex_apply]
      simp only [told]
      cases hi : service.index (x.calls ++ [.describe ix.schema.name]) ix.schema.name with
      | error e => exact ⟨_, _, by simp [Except.mapError], .refused hl hr hi, .failed _ _ _ _ _ _ _⟩
      | ok u =>
        simp only [mapError_ok]
        rw [Command.bind_apply, status_true_apply]
        simp only
        cases hl' : service.look (x.calls ++ [.describe ix.schema.name] ++ [.index ix.schema.name]) ix.schema.name with
        | error e => exact ⟨_, _, by simp, .lost hl hr hi hl', .failed _ _ _ _ _ _ _⟩
        | ok second =>
          obtain ⟨new, ending, hcalls, hw, hset⟩ := wait_watches service clock deadline looks ix
            { x with calls := x.calls ++ [.describe ix.schema.name] ++ [.index ix.schema.name] ++ [.describe ix.schema.name] }
            second
          exact ⟨[.describe ix.schema.name, .index ix.schema.name, .describe ix.schema.name] ++ new, ending,
            hcalls.trans (by simp), .reindexed hl hr hi hl' hw, hset.prepend rfl⟩

theorem applyChangesBy_protocol (service : Service) (clock : Clock) (timeout : Nat) (looks : Option Nat → Nat)
    (ix : Index) (x : Exchange) :
    ∃ new ending, (applyChangesBy clock timeout looks service ix x).exchange.calls = x.calls ++ new ∧
      Protocol service ix.schema.name x.calls new ending ∧
      Settled ix (Time.deadline? (clock x) timeout) (looks (Time.deadline? (clock x) timeout)) new ending
        (applyChangesBy clock timeout looks service ix x) := by
  rw [applyChangesBy_apply]
  exact converge_protocol service clock _ _ ix x

/-! ## More looks -/

/-- Wherever the command `c` finishes, `d` does the same. -/
def FinishesAs (service : Service) (c d : Command Index (Option Bool)) : Prop :=
  ∀ ix x, (c service ix x).result ≠ .ok none → d service ix x = c service ix x

theorem FinishesAs.bind {α : Type} (c : Command Index α) {f g : α → Command Index (Option Bool)}
    (h : ∀ a, FinishesAs service (f a) (g a)) : FinishesAs service (c >>= f) (c >>= g) := by
  intro ix x hx
  rw [Command.bind_apply] at hx ⊢
  rw [Command.bind_apply]
  rcases hc : c service ix x with ⟨e | a, ix', x'⟩
  · rfl
  · rw [hc] at hx
    exact h a ix' x' hx

theorem FinishesAs.refl (c : Command Index (Option Bool)) : FinishesAs service c c := fun _ _ _ => rfl

theorem await_finishesAs (service : Service) (clock : Clock) (deadline : Option Nat) (looks more backoff : Nat) :
    FinishesAs service (await clock deadline looks backoff) (await clock deadline (looks + more) backoff) := by
  induction looks generalizing backoff with
  | zero => exact fun ix x hx => (hx rfl).elim
  | succ looks ih =>
    rw [Nat.add_right_comm]
    simp only [await]
    refine .bind _ fun now => ?_
    cases Convergence.pause? deadline now backoff with
    | none => exact .refl _
    | some pause =>
      refine .bind _ fun _ => .bind _ fun status => ?_
      cases status.processing with
      | true => exact ih (Time.doubled backoff)
      | false => exact .refl _

/-- More looks change nothing once the domain has converged or the deadline has come. -/
theorem converge_finishesAs (service : Service) (clock : Clock) (deadline : Option Nat) {looks looks' : Nat}
    (h : looks ≤ looks') : FinishesAs service (converge clock deadline looks) (converge clock deadline looks') := by
  obtain ⟨more, rfl⟩ := Nat.exists_eq_add_of_le h
  have waits (current : DomainStatus) :
      FinishesAs service (wait clock deadline looks current) (wait clock deadline (looks + more) current) := by
    unfold wait
    cases current.processing with
    | false => exact .refl _
    | true => exact .bind _ fun ix => await_finishesAs service clock deadline looks more _
  refine .bind _ fun first => ?_
  cases first.requiresIndexing with
  | true => exact .bind _ fun _ => .bind _ waits
  | false => exact .bind (pure first) waits

theorem applyChangesBy_of_le {clock : Clock} {timeout : Nat} {looks looks' : Option Nat → Nat} {ix : Index} {x : Exchange}
    (hle : looks (Time.deadline? (clock x) timeout) ≤ looks' (Time.deadline? (clock x) timeout))
    (h : (applyChangesBy clock timeout looks service ix x).result ≠ .ok none) :
    applyChangesBy clock timeout looks' service ix x = applyChangesBy clock timeout looks service ix x := by
  rw [applyChangesBy_apply] at h
  rw [applyChangesBy_apply, applyChangesBy_apply]
  exact converge_finishesAs service clock _ hle ix x h

end Index

/-- Whatever the service answers and the clock shows, applying changes follows the protocol: the domain is indexed
just if its first status says so, by the second call and no other; only the last call can have failed, and its error
is the result; a command that succeeds tells whether the status seen last is not processing, and knows this status
and its endpoints from then on. Without a deadline it never gives up, though its looks may be used up; with more of
them a command that finishes does the same. Where no time passes but in pauses, its patience ends only without a
deadline. -/
theorem applyChanges_follows_protocol (service : Service) (ix : Index) (x : Exchange) (timeout : Nat) :
    (∀ (clock : Clock) (looks : Option Nat → Nat),
      let o := Index.applyChangesBy clock timeout looks service ix x
      let name := ix.schema.name
      let deadline := Time.deadline? (clock x) timeout
      ∃ new ending, o.exchange.calls = x.calls ++ new ∧ Protocol service name x.calls new ending ∧
        (∀ i domain, new[i]? = some (.index domain) → i = 1 ∧ domain = name) ∧
        (.index name ∈ new ↔ ∃ first, service.look x.calls name = .ok first ∧ first.requiresIndexing = true) ∧
        FailsLast service x.calls new ending ∧
        (o.result ≠ .ok none → o.result = ending.map fun last => some (!last.processing)) ∧
        (o.result = .ok none → (pauses new).length = looks deadline ∧ ∃ last, ending = .ok last ∧ last.processing = true) ∧
        (o.result ≠ .ok none → ∀ looks', looks deadline ≤ looks' deadline →
          Index.applyChangesBy clock timeout looks' service ix x = o) ∧
        (deadline = none → o.result ≠ .ok (some false)) ∧
        ∀ last, ending = .ok last → o.state.cache.status = some last ∧
          ∀ channel (service' : Service) (x' : Exchange),
            (Index.endpoint channel service' o.state x').exchange = x' ∧
            (Index.endpoint channel service' o.state x').result = match last.endpoint? channel with
              | some endpoint => .ok endpoint
              | none => .error (.endpointUnavailable name channel)) ∧
    ∀ patience,
      Index.applyChanges timeout patience = Index.applyChangesBy Exchange.now timeout (Index.looksAllowed timeout patience) ∧
      ((Index.applyChanges timeout patience service ix x).result = .ok none → Time.deadline? x.now timeout = none) := by
  refine ⟨fun clock looks => ?_, fun patience => ⟨rfl, fun hunfinished => ?_⟩⟩
  · intro o name deadline
    obtain ⟨new, ending, hcalls, hp, hset⟩ := Index.applyChangesBy_protocol service clock timeout looks ix x
    refine ⟨new, ending, hcalls, hp, fun i domain => hp.index_second, hp.index_mem_iff, hp.failsLast, ?_, ?_,
      fun hfinished looks' hle => Index.applyChangesBy_of_le hle hfinished, hset.unlimited, ?_⟩
    · intro hfinished
      rcases hset.result with h | ⟨h, -⟩
      · exact h
      · exact (hfinished h).elim
    · intro hunfinished
      rcases hset.result with h | ⟨-, hlen, hlast⟩
      · rw [show _ = _ from hunfinished] at h
        cases ending <;> cases h
      · exact ⟨hlen, hlast⟩
    · intro last hlast
      have hstate : o.state = ix.told last := hset.known last hlast
      rw [hstate]
      exact ⟨rfl, fun channel service' x' => Index.endpoint_of_told ix last channel service' x'⟩
  · cases hd : Time.deadline? x.now timeout with
    | none => rfl
    | some deadline => exact ((Index.applyChanges_scheduled service patience ix hd).ends hunfinished).elim

end SearchIndex
