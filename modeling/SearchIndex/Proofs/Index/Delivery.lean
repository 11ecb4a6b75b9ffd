import SearchIndex.Proofs.Index.Describe

/-!
# Delivering an operation to an index

An operation is posted once, to the endpoint of the index's documents: the one that is kept, or that of the known
status, or that of a status that is asked for first. If no endpoint is found nothing is posted.
-/

namespace SearchIndex

variable {service : Service} {ix : Index} {operation : DocumentOperation} {past calls : List Call}

/-- The endpoint that a status tells, which an index may lack. -/
def Index.endpointIn (ix : Index) (status : DomainStatus) (channel : Channel) : Except SearchError String :=
  match status.endpoint? channel with
  | some endpoint => .ok endpoint
  | none => .error (.endpointUnavailable ix.schema.name channel)

/-- How an endpoint of an index is looked up after the calls `past`, and what comes of it. -/
inductive Lookup (service : Service) (channel : Channel) (ix : Index) (past : List Call) :
    List Call → Except SearchError String → Prop
  | kept {endpoint} : ix.cache.endpoint? channel = some endpoint → Lookup service channel ix past [] (.ok endpoint)
  | known {status} : ix.cache.endpoint? channel = none → ix.cache.status = some status →
      Lookup service channel ix past [] (ix.endpointIn status channel)
  | lost {e} : ix.cache.endpoint? channel = none → ix.cache.status = none →
      service.look past ix.schema.name = .error e →
      Lookup service channel ix past [.describe ix.schema.name] (.error e)
  | told {status} : ix.cache.endpoint? channel = none → ix.cache.status = none →
      service.look past ix.schema.name = .ok status →
      Lookup service channel ix past [.describe ix.schema.name] (ix.endpointIn status channel)

/-- The calls that deliver an operation to an index after the calls `past`, and how this ends. -/
inductive Delivery (service : Service) (operation : DocumentOperation) (ix : Index) (past : List Call) :
    List Call → Except SearchError Unit → Prop
  | unreachable {calls e} : Lookup service .document ix past calls (.error e) →
      Delivery service operation ix past calls (.error e)
  | refused {calls endpoint e} : Lookup service .document ix past calls (.ok endpoint) →
      service.post (past ++ calls) endpoint [operation] = .error e →
      Delivery service operation ix past (calls ++ [.post endpoint [operation]]) (.error (.transport e))
  | taken {calls endpoint answer} : Lookup service .document ix past calls (.ok endpoint) →
      service.post (past ++ calls) endpoint [operation] = .ok answer →
      Delivery service operation ix past (calls ++ [.post endpoint [operation]]) (.ok ())

/-- Operations are delivered to some indexes one after the other, each its own. -/
inductive Deliveries (service : Service) (operation : Index → DocumentOperation) :
    List Index → List Call → List Call → Prop
  | done {past : List Call} : Deliveries service operation [] past []
  | next {ix rest calls calls'} {past : List Call} : Delivery service (operation ix) ix past calls (.ok ()) →
      Deliveries service operation rest (past ++ calls) calls' →
      Deliveries service operation (ix :: rest) past (calls ++ calls')

/-- The batches of operations that the service took, among the calls `new` made after `past`. -/
def Service.batches (service : Service) : List Call → List Call → List (List DocumentOperation)
  | _, [] => []
  | past, call :: new =>
    (match call with
      | .post endpoint operations => (service.post past endpoint operations).toOption.toList.map fun _ => operations
      | _ => []) ++ batches service (past ++ [call]) new

/-! ## What the service took -/

theorem batches_append (service : Service) (past new new' : List Call) :
    service.batches past (new ++ new') = service.batches past new ++ service.batches (past ++ new) new' := by
  induction new generalizing past with
  | nil => simp [Service.batches]
  | cons call new ih => simp [Service.batches, ih]

theorem Lookup.batches {channel : Channel} {found : Except SearchError String}
    (h : Lookup service channel ix past calls found) : service.batches past calls = [] := by
  cases h <;> rfl

/-- A delivery that succeeds gets its operation to the service once. -/
theorem Delivery.batches_of_ok (h : Delivery service operation ix past calls (.ok ())) :
    service.batches past calls = [[operation]] := by
  cases h with
  | taken hl hp => simp [batches_append, hl.batches, Service.batches, hp, Except.toOption]

theorem Delivery.batches_of_error {e : SearchError} (h : Delivery service operation ix past calls (.error e)) :
    service.batches past calls = [] := by
  cases h with
  | unreachable hl => exact hl.batches
  | refused hl hp => simp [batches_append, hl.batches, Service.batches, hp, Except.toOption]

theorem Deliveries.batches {operation : Index → DocumentOperation} {indexes : List Index}
    (h : Deliveries service operation indexes past calls) :
    service.batches past calls = indexes.map fun ix => [operation ix] := by
  induction h with
  | done => rfl
  | next hd _ ih => rw [batches_append, hd.batches_of_ok, ih, List.map_cons, List.singleton_append]

/-! ## Endpoints are looked up -/

namespace Index

/-- What is left to do once the status is known. -/
def keepEndpoint (channel : Channel) (status : DomainStatus) : Command Index String := do
  match status.endpoint? channel with
  | none => Command.fail (.endpointUnavailable (← Command.state).schema.name channel)
  | some endpoint =>
    let ix ← Command.state
    Command.put { ix with cache := ix.cache.withEndpoint endpoint channel }
    return endpoint

theorem keepEndpoint_spec (service : Service) (channel : Channel) (status : DomainStatus) (ix : Index) (x : Exchange) :
    (keepEndpoint channel status service ix x).exchange = x ∧
      (keepEndpoint channel status service ix x).result = ix.endpointIn status channel := by
  rw [keepEndpoint, endpointIn]
  cases status.endpoint? channel <;> exact ⟨rfl, rfl⟩

theorem endpoint_of_kept {channel : Channel} {endpoint : String} (h : ix.cache.endpoint? channel = some endpoint)
    (x : Exchange) : Index.endpoint channel service ix x = ⟨.ok endpoint, ix, x⟩ := by
  rw [Index.endpoint, Command.bind_of_ok (Command.state_apply _ _ _), h]
  rfl

theorem endpoint_of_not_kept {channel : Channel} (h : ix.cache.endpoint? channel = none) (x : Exchange) :
    endpoint channel service ix x = (status false >>= keepEndpoint channel) service ix x := by
  rw [endpoint, Command.bind_of_ok (Command.state_apply _ _ _), h]
  rfl

theorem status_of_known {status : DomainStatus} (h : ix.cache.status = some status) (x : Exchange) :
    Index.status false service ix x = ⟨.ok status, ix, x⟩ := by
  rw [Index.status, Command.bind_of_ok (Command.state_apply _ _ _), h]
  rfl

theorem status_of_unknown (service : Service) (h : ix.cache.status = none) (x : Exchange) :
    status false service ix x = describe service ix x := by
  rw [status, Command.bind_of_ok (Command.state_apply _ _ _), h]

theorem endpoint_lookup (service : Service) (channel : Channel) (ix : Index) (x : Exchange) :
    ∃ calls, (endpoint channel service ix x).exchange = { x with calls := x.calls ++ calls } ∧
      Lookup service channel ix x.calls calls (endpoint channel service ix x).result := by
  cases hkept : ix.cache.endpoint? channel with
  | some endpoint =>
    rw [endpoint_of_kept hkept]
    exact ⟨[], by simp, .kept hkept⟩
  | none =>
    rw [endpoint_of_not_kept hkept]
    cases hknown : ix.cache.status with
    | some status =>
      rw [Command.bind_of_ok (status_of_known hknown x)]
      obtain ⟨hx, hr⟩ := keepEndpoint_spec service channel status ix x
      rw [hx, hr]
      exact ⟨[], by simp, .known hkept hknown⟩
    | none =>
      have hdescribe := status_of_unknown service hknown x
      rw [describe_eq_look] at hdescribe
      cases hl : service.look x.calls ix.schema.name with
      | error e =>
        rw [hl] at hdescribe
        rw [Command.bind_of_error hdescribe]
        exact ⟨_, rfl, .lost hkept hknown hl⟩
      | ok status =>
        rw [hl] at hdescribe
        rw [Command.bind_of_ok hdescribe]
        obtain ⟨hx, hr⟩ := keepEndpoint_spec service channel status (ix.told status)
          { x with calls := x.calls ++ [.describe ix.schema.name] }
        rw [hx, hr]
        exact ⟨_, rfl, .told hkept hknown hl⟩

/-! ## Operations are delivered -/

theorem submit_delivery (service : Service) (operation : DocumentOperation) (ix : Index) (x : Exchange) :
    ∃ calls, (submit operation service ix x).exchange = { x with calls := x.calls ++ calls } ∧
      Delivery service operation ix x.calls calls ((submit operation service ix x).result.map fun _ => ()) := by
  obtain ⟨calls, hx, hl⟩ := endpoint_lookup service .document ix x
  rw [submit, Command.bind_apply]
  rcases h : endpoint .document service ix x with ⟨e | endpoint, ix', x'⟩ <;> rw [h] at hx hl
  · exact ⟨calls, hx, .unreachable hl⟩
  · obtain rfl : x' = _ := hx
    refine ⟨calls ++ [.post endpoint [operation]], by simp, ?_⟩
    simp only [Command.ask_apply]
    cases hp : service.post (x.calls ++ calls) endpoint [operation] with
    | error e => exact .refused hl hp
    | ok answer => exact .taken hl hp

end Index

end SearchIndex
