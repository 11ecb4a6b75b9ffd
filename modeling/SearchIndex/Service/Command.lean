import SearchIndex.Service.Basic

/-!
Commands: what is done with a service and some state at hand. A command that fails keeps what it
has changed and called up to then.
-/

namespace SearchIndex

/-- How a command ends. -/
structure Outcome (σ α : Type) where
  result : Except SearchError α
  state : σ
  exchange : Exchange

/-- What is done with a service, starting from some state and exchange. -/
def Command (σ α : Type) : Type := Service → σ → Exchange → Outcome σ α

namespace Command

variable {σ τ α β : Type}

instance : Inhabited (Command σ α) := ⟨fun _ s x => ⟨.error .alreadyMaterialized, s, x⟩⟩

protected def pure (a : α) : Command σ α := fun _ s x => ⟨.ok a, s, x⟩

/-- One command after the other, unless the first fails. -/
protected def bind (c : Command σ α) (f : α → Command σ β) : Command σ β := fun service s x =>
  match c service s x with
  | ⟨.ok a, s, x⟩ => f a service s x
  | ⟨.error e, s, x⟩ => ⟨.error e, s, x⟩

instance : Monad (Command σ) where
  pure := Command.pure
  bind := Command.bind

/-- The state at hand. -/
def state : Command σ σ := fun _ s x => ⟨.ok s, s, x⟩

/-- Replaces the state. -/
def put (s : σ) : Command σ Unit := fun _ _ x => ⟨.ok (), s, x⟩

def fail (e : SearchError) : Command σ α := fun _ s x => ⟨.error e, s, x⟩

/-- Goes on with a result, or fails with its error. -/
def ofResult (r : Except SearchError α) : Command σ α := fun _ s x => ⟨r, s, x⟩

/-- What a clock shows. -/
def time (clock : Clock) : Command σ Nat := fun _ s x => ⟨.ok (clock x), s, x⟩

/-- The calls so far. -/
def calls : Command σ (List Call) := fun _ s x => ⟨.ok x.calls, s, x⟩

/-- Writes a call down. -/
def record (call : Call) : Command σ Unit := fun _ s x =>
  ⟨.ok (), s, { x with calls := x.calls ++ [call] }⟩

/-- Waits. -/
def sleep (pause : Nat) : Command σ Unit := fun _ s x =>
  ⟨.ok (), s, { calls := x.calls ++ [.sleep pause], now := Time.after x.now pause }⟩

/-- Asks the service. -/
def ask (call : Call) (answer : Service → List Call → Except TransportError α) : Command σ α :=
  fun service s x =>
    ⟨(answer service x.calls).mapError .transport, s, { x with calls := x.calls ++ [call] }⟩

/-- A command on a part of the state. -/
def focus (view : σ → τ) (replace : τ → σ → σ) (c : Command τ α) : Command σ α := fun service s x =>
  let o := c service (view s) x
  ⟨o.result, replace o.state s, o.exchange⟩

/-- One command for each element, in order; the first that fails ends it. -/
def forEach (act : β → Command σ Unit) : List β → Command σ Unit
  | [] => Command.pure ()
  | b :: rest => Command.bind (act b) fun _ => forEach act rest

end Command

end SearchIndex
