import SearchIndex.Index.Convergence
import SearchIndex.Proofs.Index.Describe
import SearchIndex.Search.Query

/-!
# What commands do to an index

A command takes an index through its calls one by one. `Walk` lists all that can happen on the way:
a describe is answered or in vain, an endpoint of the known status is kept, a post or a search goes
to a kept endpoint. `Walks` says that a command does nothing else; there is one lemma for each command
on an index.
-/

namespace SearchIndex

/-- The first status of an answer, if it has one. -/
def Service.told? (service : Service) (past : List Call) (name : String) : Option DomainStatus :=
  match service.describe past name with
  | .ok (status :: _) => some status
  | _ => none

/-- Calls that have nothing to do with what is known of a domain. -/
def Call.IsQuiet : Call → Prop
  | .describe _ | .post _ _ | .search _ _ => False
  | _ => True

/-- `Walk service forced ix past ix' new vain`: after the calls `past` the calls `new` take the index
from `ix` to `ix'`. If `vain`, the last of them is a describe that told no status. Without `forced` a
describe is made only while no status is known; with it no endpoint is kept. -/
inductive Walk (service : Service) (forced : Bool) : Index → List Call → Index → List Call → Bool → Prop
  | done {ix past} : Walk service forced ix past ix [] false
  | vain {ix past} : service.told? past ix.schema.name = none → (forced = true ∨ ix.cache.status = none) →
      Walk service forced ix past ix [.describe ix.schema.name] true
  | told {ix past ix' new b status} : service.told? past ix.schema.name = some status →
      (forced = true ∨ ix.cache.status = none) →
      Walk service forced { ix with cache := { status := some status } } (past ++ [.describe ix.schema.name]) ix' new b →
      Walk service forced ix past ix' (.describe ix.schema.name :: new) b
  | kept {ix past ix' new b status channel endpoint} : forced = false → ix.cache.status = some status →
      status.endpoint? channel = some endpoint →
      Walk service forced { ix with cache := ix.cache.withEndpoint endpoint channel } past ix' new b →
      Walk service forced ix past ix' new b
  | post {ix past ix' new b endpoint operations} : ix.cache.documentEndpoint = some endpoint →
      Walk service forced ix (past ++ [.post endpoint operations]) ix' new b →
      Walk service forced ix past ix' (.post endpoint operations :: new) b
  | search {ix past ix' new b endpoint params} : ix.cache.searchEndpoint = some endpoint →
      Walk service forced ix (past ++ [.search endpoint params]) ix' new b →
      Walk service forced ix past ix' (.search endpoint params :: new) b
  | quiet {ix past ix' new b call} : call.IsQuiet → Walk service forced ix (past ++ [call]) ix' new b →
      Walk service forced ix past ix' (call :: new) b

variable {service : Service} {forced : Bool}

theorem Walk.append {ix ix' ix'' : Index} {past new new' : List Call} {b b' : Bool}
    (h : Walk service forced ix past ix' new b) (hb : b = false)
    (h' : Walk service forced ix' (past ++ new) ix'' new' b') : Walk service forced ix past ix'' (new ++ new') b' := by
  induction h with
  | done => simpa using h'
  | vain => cases hb
  | told hs hf _ ih => exact .told hs hf (ih hb (by simpa using h'))
  | kept hf hs he _ ih => exact .kept hf hs he (ih hb h')
  | post he _ ih => exact .post he (ih hb (by simpa using h'))
  | search he _ ih => exact .search he (ih hb (by simpa using h'))
  | quiet hq _ ih => exact .quiet hq (ih hb (by simpa using h'))

/-- Nothing that happens on the way touches the schema. -/
theorem Walk.schema_eq {ix ix' : Index} {past new : List Call} {b : Bool}
    (h : Walk service forced ix past ix' new b) : ix'.schema = ix.schema := by
  induction h with
  | done | vain => rfl
  | told _ _ _ ih | kept _ _ _ _ ih => exact ih
  | post _ _ ih | search _ _ ih | quiet _ _ ih => exact ih

/-- From an index with `P`, the command walks, and if it succeeds it does so with `Q`. -/
def Walks {σ α : Type} (service : Service) (forced : Bool) (view : σ → Index) (P : Index → Prop) (c : Command σ α)
    (Q : α → Index → Prop) : Prop :=
  ∀ s x, P (view s) → ∃ new b, (c service s x).exchange.calls = x.calls ++ new ∧
    Walk service forced (view s) x.calls (view (c service s x).state) new b ∧
    ∀ a, (c service s x).result = .ok a → b = false ∧ Q a (view (c service s x).state)

namespace Walks

open Command

variable {σ τ α β : Type} {view : σ → Index} {P : Index → Prop} {Q : α → Index → Prop} {R : β → Index → Prop}

theorem bind {c : Command σ α} {f : α → Command σ β} (hc : Walks service forced view P c Q)
    (hf : ∀ a, Walks service forced view (Q a) (f a) R) : Walks service forced view P (c >>= f) R := by
  intro s x hP
  obtain ⟨new, b, hcalls, hw, hok⟩ := hc s x hP
  rw [bind_apply]
  rcases h : c service s x with ⟨_ | a, s', x'⟩ <;> rw [h] at hcalls hw hok
  · exact ⟨new, b, hcalls, hw, by simp⟩
  · obtain ⟨hb, hQ⟩ := hok a rfl
    obtain ⟨new', b', hcalls', hw', hok'⟩ := hf a s' x' hQ
    refine ⟨new ++ new', b', ?_, hw.append hb (hcalls ▸ hw'), hok'⟩
    rw [hcalls', hcalls, List.append_assoc]

theorem weaken {c : Command σ α} {P' : Index → Prop} {Q' : α → Index → Prop} (h : Walks service forced view P c Q)
    (hP : ∀ ix, P' ix → P ix) (hQ : ∀ a ix, Q a ix → Q' a ix) : Walks service forced view P' c Q' := by
  intro s x hs
  obtain ⟨new, b, hcalls, hw, hok⟩ := h s x (hP _ hs)
  exact ⟨new, b, hcalls, hw, fun a ha => ⟨(hok a ha).1, hQ _ _ (hok a ha).2⟩⟩

/-- What the first command leaves need not be known. -/
theorem andThen {c : Command σ α} {f : α → Command σ β} (hc : Walks service forced view P c Q)
    (hf : ∀ a, Walks service forced view (fun _ => True) (f a) R) : Walks service forced view P (c >>= f) R :=
  hc.bind fun a => (hf a).weaken (fun _ _ => trivial) fun _ _ h => h

/-- A command that makes no call and leaves the index as it is. -/
theorem still {c : Command σ α} (hx : ∀ s x, (c service s x).exchange.calls = x.calls)
    (hs : ∀ s x, view (c service s x).state = view s)
    (hQ : ∀ s x a, P (view s) → (c service s x).result = .ok a → Q a (view s)) : Walks service forced view P c Q := by
  intro s x hP
  refine ⟨[], false, by simp [hx], ?_, fun a ha => ⟨rfl, ?_⟩⟩
  · rw [hs]; exact .done
  · rw [hs]; exact hQ s x a hP ha

theorem pure (a : α) (h : ∀ ix, P ix → Q a ix) : Walks service forced view P (pure a) Q :=
  still (fun _ _ => rfl) (fun _ _ => rfl) (by rintro s x _ hP ⟨⟩; exact h _ hP)

theorem fail (e : SearchError) : Walks service forced view P (fail e : Command σ α) Q :=
  still (fun _ _ => rfl) (fun _ _ => rfl) (by rintro s x _ _ ⟨⟩)

theorem ofResult (r : Except SearchError α) : Walks service forced view P (ofResult r) fun _ => P :=
  still (fun _ _ => rfl) (fun _ _ => rfl) fun _ _ _ hP _ => hP

theorem state : Walks service forced view P (state : Command σ σ) fun s ix => ix = view s ∧ P ix :=
  still (fun _ _ => rfl) (fun _ _ => rfl) (by rintro s x _ hP ⟨⟩; exact ⟨rfl, hP⟩)

theorem time (clock : Clock) : Walks service forced view P (time clock : Command σ Nat) fun _ => P :=
  still (fun _ _ => rfl) (fun _ _ => rfl) fun _ _ _ hP _ => hP

/-- A command on a part of the state that holds the index. -/
theorem focus {part : σ → τ} {replace : τ → σ → σ} {view' : τ → Index} {c : Command τ α}
    (hp : ∀ s, view' (part s) = view s) (hr : ∀ t s, view (replace t s) = view' t)
    (h : Walks service forced view' P c Q) : Walks service forced view P (focus part replace c) Q := by
  intro s x hs
  obtain ⟨new, b, hcalls, hw, hok⟩ := h (part s) x (hp s ▸ hs)
  refine ⟨new, b, hcalls, ?_, fun a ha => ⟨(hok a ha).1, ?_⟩⟩
  · rw [← hp]; exact (hr _ _).symm ▸ hw
  · exact (hr _ _).symm ▸ (hok a ha).2

/-- A call that is no describe: the index stays as it is. -/
theorem ask {call : Call} {answer : Service → List Call → Except TransportError α}
    (hw : ∀ ix past, P ix → Walk service forced ix past ix [call] false) :
    Walks service forced view P (ask call answer) fun _ => P :=
  fun _ _ hP => ⟨[call], false, rfl, hw _ _ hP, fun _ _ => ⟨rfl, hP⟩⟩

theorem askQuiet {call : Call} {answer : Service → List Call → Except TransportError α} (hq : call.IsQuiet) :
    Walks service forced view P (Command.ask call answer) fun _ => P :=
  ask fun _ _ _ => .quiet hq .done

theorem sleep (pause : Nat) : Walks service forced view P (sleep pause : Command σ Unit) fun _ => P :=
  fun _ _ hP => ⟨[.sleep pause], false, rfl, .quiet trivial .done, fun _ _ => ⟨rfl, hP⟩⟩

theorem forEach {act : β → Command σ Unit} {l : List β} (h : ∀ b ∈ l, Walks service forced view P (act b) fun _ => P) :
    Walks service forced view P (forEach act l) fun _ => P := by
  induction l with
  | nil => exact pure () fun _ h => h
  | cons b l ih => exact bind (h b (by simp)) fun _ => ih fun b' hb => h b' (by simp [hb])

end Walks

/-! ## The commands -/

namespace Index

theorem walks_describe : Walks service forced id (fun ix => forced = true ∨ ix.cache.status = none) describe
    fun s ix => ix.cache.status = some s := by
  intro ix x hP
  rw [describe_apply]
  rcases h : service.describe x.calls ix.schema.name with e | _ | ⟨status, rest⟩
  · exact ⟨[.describe ix.schema.name], true, rfl, .vain (by simp [Service.told?, h]) hP, by simp⟩
  · exact ⟨[.describe ix.schema.name], true, rfl, .vain (by simp [Service.told?, h]) hP, by simp⟩
  · refine ⟨[.describe ix.schema.name], false, rfl, .told (by simp [Service.told?, h]) hP .done, ?_⟩
    rintro _ ⟨⟩
    exact ⟨rfl, rfl⟩

theorem walks_status (force : Bool) (h : force = false ∨ forced = true) :
    Walks service forced id (fun _ => True) (status force) fun s ix => ix.cache.status = some s := by
  refine .bind .state fun s => ?_
  cases hs : s.cache.status with
  | none => exact walks_describe.weaken (by rintro _ ⟨rfl, -⟩; exact .inr hs) fun _ _ h => h
  | some known =>
    cases force with
    | false => exact .pure known (by rintro _ ⟨rfl, -⟩; exact hs)
    | true => exact walks_describe.weaken (fun _ _ => .inl (by simpa using h)) fun _ _ h => h

/-- A known endpoint of the known status is kept. -/
theorem walks_keep {ix : Index} {status : DomainStatus} {channel : Channel} {endpoint : String}
    (he : status.endpoint? channel = some endpoint) :
    Walks service false id (fun ix' => ix' = ix ∧ ix.cache.status = some status)
      (Command.put { ix with cache := ix.cache.withEndpoint endpoint channel })
      fun _ ix' => ix'.cache.endpoint? channel = some endpoint := by
  rintro ix' x ⟨rfl, hs⟩
  refine ⟨[], false, by simp, .kept rfl hs he .done, fun _ _ => ⟨rfl, ?_⟩⟩
  cases channel <;> rfl

theorem walks_endpoint (channel : Channel) :
    Walks service false id (fun _ => True) (endpoint channel) fun e ix => ix.cache.endpoint? channel = some e := by
  refine .bind .state fun s => ?_
  cases hs : s.cache.endpoint? channel with
  | some e => exact .pure e (by rintro _ ⟨rfl, -⟩; exact hs)
  | none =>
    refine .bind ((walks_status false (.inl rfl)).weaken (fun _ _ => trivial) fun _ _ h => h) fun status => ?_
    cases he : status.endpoint? channel with
    | none => exact .andThen .state fun _ => .fail _
    | some e =>
      refine .bind .state fun ix => .bind ((walks_keep he).weaken ?_ fun _ _ h => h) fun _ => .pure e fun _ h => h
      rintro _ ⟨rfl, hs⟩
      exact ⟨rfl, hs⟩

theorem walks_submit (operation : DocumentOperation) :
    Walks service false id (fun _ => True) (submit operation) fun _ _ => True :=
  .bind (walks_endpoint .document) fun _ => (Walks.ask fun _ _ he => .post he .done).weaken (fun _ h => h)
    fun _ _ _ => trivial

theorem walks_post (record : Json) (recordId : String) (version : Nat) :
    Walks service false id (fun _ => True) (post record recordId version) fun _ _ => True :=
  .andThen .state fun _ => walks_submit _

theorem walks_create : Walks service forced id (fun _ => True) create fun _ _ => True :=
  .andThen .state fun _ => .andThen (.askQuiet trivial) fun _ => .forEach fun _ _ => .askQuiet trivial

theorem walks_reindex : Walks service forced id (fun _ => True) reindex fun _ _ => True :=
  .andThen .state fun _ => .askQuiet trivial

theorem walks_await (clock : Clock) (deadline : Option Nat) (looks backoff : Nat) :
    Walks service true id (fun _ => True) (await clock deadline looks backoff) fun _ _ => True := by
  induction looks generalizing backoff with
  | zero => exact .pure none fun _ _ => trivial
  | succ looks ih =>
    refine .andThen (.time clock) fun now => ?_
    cases Convergence.pause? deadline now backoff with
    | none => exact .pure _ fun _ _ => trivial
    | some pause =>
      refine .andThen (.sleep pause) fun _ => .andThen (walks_status true (.inr rfl)) fun status => ?_
      cases hp : status.processing with
      | true => simpa [hp] using ih (Time.doubled backoff)
      | false => simpa [hp] using .pure (some true) fun _ _ => trivial

theorem walks_applyChangesBy (clock : Clock) (timeout : Nat) (looks : Option Nat → Nat) :
    Walks service true id (fun _ => True) (applyChangesBy clock timeout looks) fun _ _ => True := by
  have fresh : Walks service true id (fun _ => True) (status true) fun s ix => ix.cache.status = some s :=
    walks_status true (.inr rfl)
  refine .andThen (.time clock) fun start => .andThen fresh fun first => ?_
  -- what is left to do once it is known whether the domain is processing
  have rest (deadline : Option Nat) (looks : Nat) (current : DomainStatus) : Walks service true id (fun _ => True)
      (if current.processing then do
        await clock deadline looks (Convergence.firstBackoff (← Command.state).schema.initialBackoff)
      else return some true) fun _ _ => True := by
    split
    · exact .andThen .state fun _ => walks_await _ _ _ _
    · exact .pure (some true) fun _ _ => trivial
  cases hr : first.requiresIndexing with
  | true =>
    simp only [if_true]
    exact .andThen walks_reindex fun _ => .andThen fresh (rest _ _)
  | false =>
    simp only [Bool.false_eq_true, if_false]
    exact .bind (.pure first fun _ h => h) (rest _ _)

theorem walks_applyChanges (timeout patience : Nat) :
    Walks service true id (fun _ => True) (applyChanges timeout patience) fun _ _ => True :=
  walks_applyChangesBy _ _ _

end Index

namespace Search

theorem walks_setQuery (q : Query) {P : Index → Prop} : Walks service forced index P (setQuery q) fun _ => P := by
  refine .still (fun _ _ => rfl) (fun _ _ => rfl) ?_
  rintro s x _ hP ⟨⟩
  exact hP

theorem walks_execute : Walks service false index (fun _ => True) execute fun _ _ => True := by
  refine .andThen .state fun s => ?_
  cases hx : s.query.isExecuted with
  | true => simpa [hx] using .pure false fun _ _ => trivial
  | false =>
    simp only [hx, Bool.false_eq_true, if_false]
    refine .andThen (.ofResult _) fun request => ?_
    refine .bind (.focus (fun _ => rfl) (fun _ _ => rfl) (Index.walks_endpoint .search)) fun endpoint => ?_
    refine .andThen (.ask fun _ _ he => .search he .done) fun body => ?_
    cases SearchResponse.ofJson body with
    | error e => exact .bind (walks_setQuery _) fun _ => .fail e
    | ok response =>
      refine .bind (walks_setQuery _) fun _ => ?_
      split
      · exact .fail _
      · exact .pure true fun _ _ => trivial

theorem walks_foundCount : Walks service false index (fun _ => True) foundCount fun _ _ => True :=
  .bind walks_execute fun _ => .andThen .state fun _ => .bind (.ofResult _) fun _ => .pure _ fun _ _ => trivial

theorem walks_hits : Walks service false index (fun _ => True) hits fun _ _ => True :=
  .bind walks_execute fun _ => .andThen .state fun _ => .bind (.ofResult _) fun _ => .pure _ fun _ _ => trivial

end Search

end SearchIndex
