import SearchIndex.Service.Command

/-!
# Commands step by step

What each way of building a command does to the state and the exchange.
-/

namespace SearchIndex.Command

variable {σ τ α β : Type} (service : Service) (s : σ) (x : Exchange)

theorem bind_apply (c : Command σ α) (f : α → Command σ β) : (c >>= f) service s x =
    match c service s x with
    | ⟨.ok a, s, x⟩ => f a service s x
    | ⟨.error e, s, x⟩ => ⟨.error e, s, x⟩ := rfl

@[simp] theorem pure_apply (a : α) : (pure a : Command σ α) service s x = ⟨.ok a, s, x⟩ := rfl

@[simp] theorem state_apply : state service s x = ⟨.ok s, s, x⟩ := rfl

@[simp] theorem put_apply (s' : σ) : put s' service s x = ⟨.ok (), s', x⟩ := rfl

@[simp] theorem fail_apply (e : SearchError) : (fail e : Command σ α) service s x = ⟨.error e, s, x⟩ := rfl

@[simp] theorem ofResult_apply (r : Except SearchError α) : ofResult r service s x = ⟨r, s, x⟩ := rfl

@[simp] theorem time_apply (clock : Clock) : (time clock : Command σ Nat) service s x = ⟨.ok (clock x), s, x⟩ := rfl

@[simp] theorem sleep_apply (pause : Nat) : (sleep pause : Command σ Unit) service s x =
    ⟨.ok (), s, { calls := x.calls ++ [.sleep pause], now := Time.after x.now pause }⟩ := rfl

@[simp] theorem ask_apply (call : Call) (answer : Service → List Call → Except TransportError α) :
    ask call answer service s x =
      ⟨(answer service x.calls).mapError .transport, s, { x with calls := x.calls ++ [call] }⟩ := rfl

@[simp] theorem focus_apply (view : σ → τ) (replace : τ → σ → σ) (c : Command τ α) :
    focus view replace c service s x =
      ⟨(c service (view s) x).result, replace (c service (view s) x).state s, (c service (view s) x).exchange⟩ := rfl

theorem forEach_nil (act : β → Command σ Unit) : forEach act [] service s x = ⟨.ok (), s, x⟩ := rfl

theorem forEach_cons (act : β → Command σ Unit) (b : β) (l : List β) :
    forEach act (b :: l) service s x = (act b >>= fun _ => forEach act l) service s x := rfl

variable {service s x}

theorem bind_of_ok {c : Command σ α} {f : α → Command σ β} {a s' x'} (h : c service s x = ⟨.ok a, s', x'⟩) :
    (c >>= f) service s x = f a service s' x' := by rw [bind_apply, h]

theorem bind_of_error {c : Command σ α} {f : α → Command σ β} {e s' x'} (h : c service s x = ⟨.error e, s', x'⟩) :
    (c >>= f) service s x = ⟨.error e, s', x'⟩ := by rw [bind_apply, h]

end SearchIndex.Command
