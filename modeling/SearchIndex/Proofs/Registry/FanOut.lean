import SearchIndex.Proofs.Index.Delivery
import SearchIndex.Proofs.Registry.Run
import SearchIndex.Service.Offline

/-!
# A record is brought to all indexes of its owner

The indexes of an owner get the operation for a record one after the other, the index without a qualifier first. The
first delivery that fails ends it: the indexes before have the record, and nothing is asked or known of the others.
-/

namespace SearchIndex.Registry

open Command

variable {service : Service} {operation : Index → DocumentOperation} {owner : String} {r : Registry}

/-- The operation that brings a record to an index: it deletes the document of a record that was destroyed. -/
def operationFor (record : Json) (recordId : String) (version : Nat) (destroyed : Bool) (ix : Index) :
    DocumentOperation :=
  if destroyed then Schema.deletion recordId version else ix.schema.addition record recordId version

theorem operationFor_spec (record : Json) (recordId : String) (version : Nat) (destroyed : Bool) (ix : Index) :
    let operation := operationFor record recordId version destroyed ix
    operation.id = documentId recordId ∧ operation.version = version ∧ operation.isDelete = destroyed ∧
      (destroyed = false → operation = ix.schema.addition record recordId version) := by
  cases destroyed <;> simp [operationFor, Schema.deletion, Schema.addition, DocumentOperation.id,
    DocumentOperation.version, DocumentOperation.isDelete]

/-- Delivers its operation to an index. -/
def deliver (operation : Index → DocumentOperation) : Command Index Unit := do
  let _ ← Index.submit (operation (← state))
  return ()

theorem update_eq (owner : String) (record : Json) (recordId : String) (version : Nat) (destroyed : Bool) :
    update owner record recordId version destroyed = (do
      forEach (fun key => onIndex key (deliver (operationFor record recordId version destroyed)))
        ((← state).keysOf owner)) := by
  cases destroyed <;> rfl

theorem deliver_delivery (service : Service) (operation : Index → DocumentOperation) (ix : Index) (x : Exchange) :
    ∃ calls, (deliver operation service ix x).exchange = { x with calls := x.calls ++ calls } ∧
      Delivery service (operation ix) ix x.calls calls (deliver operation service ix x).result := by
  obtain ⟨calls, hx, hd⟩ := Index.submit_delivery service (operation ix) ix x
  have hdeliver : deliver operation service ix x =
      (Index.submit (operation ix) >>= fun _ => pure ()) service ix x := rfl
  rw [hdeliver, Command.bind_apply]
  refine ⟨calls, ?_⟩
  rcases h : Index.submit (operation ix) service ix x with ⟨e | answer, ix', x'⟩ <;> rw [h] at hx hd <;> exact ⟨hx, hd⟩

/-- Work on an index of the registry changes this index only. -/
theorem onIndex_apply {α : Type} {key : IndexKey} {ix : Index} (h : r.get? key = some ix) (c : Command Index α)
    (service : Service) (x : Exchange) : onIndex key c service r x =
      ⟨(c service ix x).result, r.put key (c service ix x).state, (c service ix x).exchange⟩ := by
  rw [onIndex, Command.bind_of_ok (Command.state_apply _ _ _), h]
  rfl

/-- The keys of some indexes of an owner. -/
def keysAt (owner : String) (entries : List (Option String × Index)) : List IndexKey :=
  entries.map fun e => { owner, qualifier := e.1 }

theorem owner_of_mem_keysAt {owner : String} {entries : List (Option String × Index)} {key : IndexKey}
    (h : key ∈ keysAt owner entries) : key.owner = owner := by
  obtain ⟨e, -, rfl⟩ := List.mem_map.1 h
  rfl

/-- How deliveries to the indexes `entries` of an owner end: every index has its operation, or that to `ix` has
failed. What the registry has of the indexes that none was made to stays as it is. -/
inductive FansOut (service : Service) (operation : Index → DocumentOperation) (owner : String)
    (entries : List (Option String × Index)) (r : Registry) (x : Exchange) (o : Outcome Registry Unit) : Prop
  | all {calls} : o.result = .ok () → o.exchange = { x with calls := x.calls ++ calls } →
      Deliveries service operation (entries.map (·.2)) x.calls calls →
      (∀ key ∉ keysAt owner entries, o.state.get? key = r.get? key) → FansOut service operation owner entries r x o
  | stopped {before qualifier ix after calls calls' e} : entries = before ++ (qualifier, ix) :: after →
      o.result = .error e → o.exchange = { x with calls := x.calls ++ (calls ++ calls') } →
      Deliveries service operation (before.map (·.2)) x.calls calls →
      Delivery service (operation ix) ix (x.calls ++ calls) calls' (.error e) →
      (∀ key ∉ keysAt owner (before ++ [(qualifier, ix)]), o.state.get? key = r.get? key) →
      FansOut service operation owner entries r x o

theorem forEach_fansOut (service : Service) (operation : Index → DocumentOperation) (owner : String)
    (entries : List (Option String × Index)) (hd : (entries.map (·.1)).Nodup) (r : Registry)
    (hr : ∀ e ∈ entries, r.get? { owner, qualifier := e.1 } = some e.2) (x : Exchange) :
    FansOut service operation owner entries r x
      (forEach (fun key => onIndex key (deliver operation)) (keysAt owner entries) service r x) := by
  induction entries generalizing r x with
  | nil => exact .all rfl (by simp [keysAt, forEach_nil]) .done fun _ _ => rfl
  | cons e entries ih =>
    obtain ⟨qualifier, ix⟩ := e
    obtain ⟨hnew, hd⟩ := List.nodup_cons.1 hd
    obtain ⟨calls, hx, hdel⟩ := deliver_delivery service operation ix x
    have happly := onIndex_apply (hr (qualifier, ix) List.mem_cons_self) (deliver operation) service x
    rw [hx] at happly
    rw [keysAt, List.map_cons, ← keysAt, forEach_cons]
    generalize (deliver operation service ix x).state = ix₁ at happly
    -- the delivery touches no other key
    have put_of_ne (key : IndexKey) (hk : key ≠ { owner, qualifier }) :
        (r.put { owner, qualifier } ix₁).get? key = r.get? key := by rw [get?_put, if_neg hk]
    cases hresult : (deliver operation service ix x).result with
    | error e =>
      rw [hresult] at happly hdel
      rw [Command.bind_of_error happly]
      have hfails : Delivery service (operation ix) ix (x.calls ++ []) calls (.error e) := by simpa using hdel
      exact .stopped (List.nil_append _).symm rfl rfl .done hfails fun key hk =>
        put_of_ne key (by simpa [keysAt] using hk)
    | ok u =>
      rw [hresult] at happly hdel
      rw [Command.bind_of_ok happly]
      have hr' : ∀ e ∈ entries, (r.put { owner, qualifier } ix₁).get? { owner, qualifier := e.1 } = some e.2 := by
        intro e he
        rw [put_of_ne, hr e (List.mem_cons_of_mem _ he)]
        rintro ⟨⟩
        exact hnew (List.mem_map.2 ⟨e, he, rfl⟩)
      cases ih hd _ hr' { x with calls := x.calls ++ calls } with
      | all hok hx' hds hframe =>
        refine .all hok (by simpa using hx') (.next hdel hds) fun key hk => ?_
        exact (hframe key (List.not_mem_of_not_mem_cons hk)).trans (put_of_ne key (List.ne_of_not_mem_cons hk))
      | @stopped before _ _ _ _ _ _ hsplit herr hx' hds hfails hframe =>
        have hsplit' : (qualifier, ix) :: entries = ((qualifier, ix) :: before) ++ _ := congrArg _ hsplit
        refine .stopped hsplit' herr (by simpa using hx') (.next hdel hds) (by simpa using hfails) fun key hk => ?_
        exact (hframe key (List.not_mem_of_not_mem_cons hk)).trans (put_of_ne key (List.ne_of_not_mem_cons hk))

theorem update_fansOut (service : Service) (h : r.Ordered) (x : Exchange) (owner : String) (record : Json)
    (recordId : String) (version : Nat) (destroyed : Bool) :
    FansOut service (operationFor record recordId version destroyed) owner (r.ofOwner owner) r x
      (update owner record recordId version destroyed service r x) := by
  rw [update_eq, Command.bind_of_ok (Command.state_apply _ _ _)]
  have hd : ((r.ofOwner owner).map (·.1)).Nodup := Sorted.nodup_keys (h owner)
  exact forEach_fansOut service _ owner (r.ofOwner owner) hd r (fun e he => (Sorted.lookup_eq_some_iff_mem hd).2 he) x

/-- Bringing a record to the indexes of its owner goes through them in the order of their qualifiers. If it succeeds,
every index has been delivered its operation and the service took it once. If it fails, then with the error of the
first delivery that failed; the service took the operations of the indexes before, no call was made for any other,
and all is as it was with these. Each operation names the document of the record and has its version. -/
theorem update_fans_out (service : Service) (r : Registry) (h : r.Ordered) (x : Exchange) (owner : String)
    (record : Json) (recordId : String) (version : Nat) (destroyed : Bool) :
    let operation := operationFor record recordId version destroyed
    let entries := r.ofOwner owner
    let o := update owner record recordId version destroyed service r x
    (entries.Pairwise (fun a b => QualifierPrecedes a.1 b.1) ∧
      ∀ qualifier ix, (qualifier, ix) ∈ entries ↔ r.get? { owner, qualifier } = some ix) ∧
    (o.result = .ok () → ∃ calls, o.exchange = { x with calls := x.calls ++ calls } ∧
      Deliveries service operation (entries.map (·.2)) x.calls calls ∧
      service.batches x.calls calls = entries.map fun e => [operation e.2]) ∧
    (∀ error, o.result = .error error → ∃ before qualifier ix after calls calls',
      entries = before ++ (qualifier, ix) :: after ∧ o.exchange = { x with calls := x.calls ++ (calls ++ calls') } ∧
      Deliveries service operation (before.map (·.2)) x.calls calls ∧
      Delivery service (operation ix) ix (x.calls ++ calls) calls' (.error error) ∧
      service.batches x.calls (calls ++ calls') = (before.map fun e => [operation e.2]) ∧
      ∀ e ∈ after, o.state.get? { owner, qualifier := e.1 } = some e.2) ∧
    (∀ key, key.owner ≠ owner → o.state.get? key = r.get? key) ∧
    ∀ ix, (operation ix).id = documentId recordId ∧ (operation ix).version = version ∧
      (operation ix).isDelete = destroyed ∧
      (destroyed = false → operation ix = ix.schema.addition record recordId version) := by
  intro operation entries o
  have hd : (entries.map (·.1)).Nodup := Sorted.nodup_keys (h owner)
  have found (qualifier : Option String) (ix : Index) :
      (qualifier, ix) ∈ entries ↔ r.get? { owner, qualifier } = some ix :=
    (Sorted.lookup_eq_some_iff_mem hd).symm
  have hfan : FansOut service operation owner entries r x o :=
    update_fansOut service h x owner record recordId version destroyed
  refine ⟨⟨(h owner).imp fun hlt => (qualifierPrecedes_iff _ _).2 hlt, found⟩, fun hok => ?_, fun error herror => ?_,
    fun key hkey => ?_, fun ix => ?_⟩
  · cases hfan with
    | all _ hx hds => exact ⟨_, hx, hds, by rw [hds.batches, List.map_map]; rfl⟩
    | stopped _ herror => rw [hok] at herror; cases herror
  · cases hfan with
    | all hok => rw [hok] at herror; cases herror
    | @stopped before qualifier ix after calls calls' e hsplit herror' hx hds hfails hframe =>
      obtain rfl : e = error := by rw [herror'] at herror; exact Except.error.inj herror
      refine ⟨before, qualifier, ix, after, calls, calls', hsplit, hx, hds, hfails, ?_, fun e' he' => ?_⟩
      · rw [batches_append, hds.batches, hfails.batches_of_error, List.append_nil, List.map_map]
        rfl
      · rw [hframe, ← found, hsplit]
        · simp [he']
        · -- a later index has another qualifier
          intro hmem
          obtain ⟨e₀, he₀, heq⟩ := List.mem_map.1 hmem
          rw [hsplit, List.append_cons, List.map_append, List.nodup_append] at hd
          exact hd.2.2 _ (List.mem_map_of_mem he₀) _ (List.mem_map_of_mem he') (congrArg IndexKey.qualifier heq)
  · have notAt (entries : List (Option String × Index)) : key ∉ keysAt owner entries :=
      fun hmem => hkey (owner_of_mem_keysAt hmem)
    cases hfan with
    | all _ _ _ hframe => exact hframe key (notAt _)
    | stopped _ _ _ _ _ hframe => exact hframe key (notAt _)
  · exact operationFor_spec record recordId version destroyed ix

/-- A record that was destroyed is deleted from both indexes of its owner. -/
theorem update_fans_out_reviews :
    let service : Service := { Service.offline with post := fun _ _ _ => .ok .null }
    let named (name : String) : Index := { schema := { name }, cache := { documentEndpoint := some name } }
    let r := (({} : Registry).put ⟨"review", some "recent"⟩ (named "recent")).put ⟨"review", none⟩ (named "all")
    ∃ calls, (update "review" .null "r" 3 true service r {}).exchange = { calls } ∧
      Deliveries service (operationFor .null "r" 3 true) [named "all", named "recent"] [] calls ∧
      service.batches [] calls = [[Schema.deletion "r" 3], [Schema.deletion "r" 3]] := by
  intro service named r
  have ordered : r.Ordered := ((sound_start {}).ordered.put _ _).put _ _
  have entries : r.ofOwner "review" = [(none, named "all"), (some "recent", named "recent")] := by rfl
  obtain ⟨-, hok, -⟩ := update_fans_out service r ordered {} "review" .null "r" 3 true
  rw [entries] at hok
  have deletes : operationFor .null "r" 3 true = fun _ => Schema.deletion "r" 3 := by
    funext ix
    rw [operationFor, if_pos rfl]
  have result : (update "review" .null "r" 3 true service r {}).result = .ok () := by
    rw [update_eq, deletes, Command.bind_of_ok (Command.state_apply _ _ _)]
    generalize Schema.deletion "r" 3 = operation
    simp only [r, named, service]
    rfl
  obtain ⟨calls, hx, hds, hbatches⟩ := hok result
  exact ⟨calls, hx, hds, by rw [hbatches, deletes]; rfl⟩

end SearchIndex.Registry
