import Mathlib
import SearchIndex.Index.Convergence
import SearchIndex.Proofs.Index.Describe
import SearchIndex.Service.Offline

/-!
# The schedule of convergence

Applying changes pauses for a first backoff, then twice as long each time, and the last pause ends at the
deadline if the backoff would go past it. As every pause takes something off the time left, it comes to
an end.
-/

namespace SearchIndex

variable {service : Service}

/-! ## Pauses -/

/-- The pauses among some calls. -/
def pauses (calls : List Call) : List Nat := calls.filterMap fun
  | .sleep pause => some pause
  | _ => none

theorem pauses_append (calls calls' : List Call) : pauses (calls ++ calls') = pauses calls ++ pauses calls' :=
  List.filterMap_append

theorem pauses_of_describes {calls : List Call} (h : AreDescribes calls) : pauses calls = [] := by
  refine List.filterMap_eq_nil_iff.2 fun call hc => ?_
  obtain ⟨name, rfl⟩ := h call hc
  rfl

/-- Pauses with a backoff and some time left: each takes the backoff or all of the time left, and the
backoff doubles. -/
inductive Paced : Nat → Nat → List Nat → Prop
  | done {backoff left} : Paced backoff left []
  | pause {backoff left rest} : 0 < left → Paced (2 * backoff) (left - min backoff left) rest →
      Paced backoff left (min backoff left :: rest)

namespace Paced

variable {backoff left : Nat} {ps : List Nat}

theorem pos (h : Paced backoff left ps) (hb : 0 < backoff) : ∀ p ∈ ps, 0 < p := by
  induction h with
  | done => simp
  | pause hl _ ih =>
    intro p hp
    rcases List.mem_cons.1 hp with rfl | hp
    · omega
    · exact ih (by omega) p hp

theorem sum_le (h : Paced backoff left ps) : ps.sum ≤ left := by
  induction h with
  | done => simp
  | pause _ _ ih => rw [List.sum_cons]; omega

/-- While another pause follows the backoff is not cut. -/
theorem min_eq_of_cons {p : Nat} {rest : List Nat} (h : Paced (2 * backoff) (left - min backoff left) (p :: rest)) :
    min backoff left = backoff := by
  cases h
  omega

theorem getElem?_eq (h : Paced backoff left ps) {i : Nat} (hi : i + 1 < ps.length) :
    ps[i]? = some (backoff * 2 ^ i) := by
  induction h generalizing i with
  | done => cases hi
  | @pause backoff left rest _ hrest ih =>
    cases i with
    | zero =>
      obtain ⟨p, rest, rfl⟩ := List.exists_cons_of_length_pos (by simpa using hi : 0 < rest.length)
      simp [hrest.min_eq_of_cons]
    | succ i =>
      rw [List.getElem?_cons_succ, ih (by simpa using hi), pow_succ]
      congr 1
      ring

theorem getElem?_last (h : Paced backoff left ps) {n : Nat} (hn : ps.length = n + 1) :
    ps[n]? = some (min (backoff * 2 ^ n) (left - (ps.take n).sum)) := by
  induction h generalizing n with
  | done => cases hn
  | @pause backoff left rest _ hrest ih =>
    cases n with
    | zero => simp
    | succ n =>
      rw [List.getElem?_cons_succ, ih (by simpa using hn), List.take_succ_cons, List.sum_cons, Nat.sub_sub, pow_succ]
      congr 2
      ring

/-- What backoffs take that double each time. -/
theorem mul_two_pow_succ_sub_one (backoff n : Nat) : backoff * (2 ^ (n + 1) - 1) = backoff + 2 * backoff * (2 ^ n - 1) := by
  obtain ⟨k, hk⟩ : ∃ k, 2 ^ n = k + 1 := ⟨2 ^ n - 1, by have := Nat.two_pow_pos n; omega⟩
  rw [pow_succ, hk]
  simp only [Nat.add_sub_cancel, show (k + 1) * 2 - 1 = 2 * k + 1 by omega]
  ring

/-- What the pauses before the last take is less than the time there was. -/
theorem lt_left (h : Paced backoff left ps) {n : Nat} (hn : ps.length = n + 1) : backoff * (2 ^ n - 1) < left := by
  induction h generalizing n with
  | done => cases hn
  | @pause backoff left rest hl hrest ih =>
    cases n with
    | zero => simpa using hl
    | succ n =>
      have hlen : rest.length = n + 1 := by simpa using hn
      obtain ⟨p, rest, rfl⟩ := List.exists_cons_of_length_pos (hlen ▸ Nat.succ_pos n : 0 < rest.length)
      have hlt := ih hlen
      rw [hrest.min_eq_of_cons] at hlt
      rw [mul_two_pow_succ_sub_one]
      omega

theorem sum_le_two_pow (h : Paced backoff left ps) : ps.sum ≤ backoff * (2 ^ ps.length - 1) := by
  induction h with
  | done => simp
  | pause _ _ ih =>
    rw [List.sum_cons, List.length_cons, mul_two_pow_succ_sub_one]
    omega

/-- Pauses that take all of the time left are no fewer than pauses in less time. -/
theorem length_le_of_sum_eq {left' : Nat} {ps' : List Nat} (h : Paced backoff left ps) (h' : Paced backoff left' ps')
    (hle : left ≤ left') (hsum : ps'.sum = left') : ps.length ≤ ps'.length := by
  by_contra hfewer
  obtain ⟨n, hn⟩ : ∃ n, ps.length = n + 1 := ⟨ps.length - 1, by omega⟩
  have hlt : left' < left' :=
    calc
      left' = ps'.sum := hsum.symm
      _ ≤ backoff * (2 ^ ps'.length - 1) := h'.sum_le_two_pow
      _ ≤ backoff * (2 ^ n - 1) :=
        Nat.mul_le_mul_left _ (Nat.sub_le_sub_right (Nat.pow_le_pow_right (by decide) (by omega)) 1)
      _ < left := h.lt_left hn
      _ ≤ left' := hle
  exact lt_irrefl _ hlt

end Paced

/-! ## The backoff -/

namespace Time

/-- Doubling again and again stops at the longest duration. -/
theorem doubled_iterate {d : Nat} (h : d ≤ longest) (i : Nat) : doubled^[i] d = min (d * 2 ^ i) longest := by
  induction i with
  | zero => simp [h]
  | succ i ih =>
    rw [Function.iterate_succ_apply', ih, doubled, pow_succ]
    have : d * (2 ^ i * 2) = 2 * (d * 2 ^ i) := by ring
    omega

theorem lastInstant_le_longest : lastInstant ≤ longest := by decide

end Time

/-! ## What is scheduled -/

namespace Index

/-- A command that began with `x` and ended so has kept to the schedule. The clock has moved by the pauses;
only with no time left is it said that the domain is still processing. -/
structure Scheduled (backoff left : Nat) (x : Exchange) (o : Outcome Index (Option Bool)) : Prop where
  paced : ∃ new, o.exchange.calls = x.calls ++ new ∧ Paced backoff left (pauses new) ∧
    o.exchange.now = x.now + (pauses new).sum ∧ (o.result = .ok (some false) → (pauses new).sum = left)
  ends : o.result ≠ .ok none

namespace Scheduled

variable {backoff left : Nat} {x : Exchange} {o : Outcome Index (Option Bool)}

theorem still {result : Except SearchError (Option Bool)} {ix : Index} (h : result ≠ .ok none)
    (hf : result = .ok (some false) → left = 0) : Scheduled backoff left x ⟨result, ix, x⟩ where
  paced := ⟨[], by simp, .done, rfl, fun h' => (hf h').symm⟩
  ends := h

/-- Calls without a pause come before. -/
theorem prepend {new : List Call} (hp : pauses new = [])
    (h : Scheduled backoff left { x with calls := x.calls ++ new } o) : Scheduled backoff left x o := by
  obtain ⟨⟨new', hcalls, hpaced, hnow, hfalse⟩, hends⟩ := h
  refine ⟨⟨new ++ new', ?_, ?_⟩, hends⟩
  · rw [hcalls, List.append_assoc]
  · rw [pauses_append, hp, List.nil_append]
    exact ⟨hpaced, hnow, hfalse⟩

/-- A pause comes before. -/
theorem sleep {pause : Nat} (hl : 0 < left) (hp : pause = min backoff left)
    (h : Scheduled (2 * backoff) (left - pause) { calls := x.calls ++ [.sleep pause], now := x.now + pause } o) :
    Scheduled backoff left x o := by
  obtain ⟨⟨new, hcalls, hpaced, hnow, hfalse⟩, hends⟩ := h
  have he : pauses (.sleep pause :: new) = pause :: pauses new := rfl
  refine ⟨⟨.sleep pause :: new, ?_, ?_, ?_, fun h' => ?_⟩, hends⟩
  · rw [hcalls, List.append_assoc, List.singleton_append]
  · rw [he, hp]
    exact .pause hl (hp ▸ hpaced)
  · rw [hnow, he, List.sum_cons, Nat.add_assoc]
  · rw [he, List.sum_cons, hfalse h']
    omega

/-- A command without a pause comes before. -/
theorem silent_bind {α : Type} {c : Command Index α} {f : α → Command Index (Option Bool)} {ix : Index} {new : List Call}
    (hc : (c service ix x).exchange = { x with calls := x.calls ++ new }) (hp : pauses new = [])
    (hf : ∀ a, Scheduled backoff left { x with calls := x.calls ++ new }
      (f a service (c service ix x).state { x with calls := x.calls ++ new })) :
    Scheduled backoff left x ((c >>= f) service ix x) := by
  refine prepend hp ?_
  rcases h : c service ix x with ⟨e | a, ix', x'⟩ <;> rw [h] at hc hf <;> subst hc
  · rw [Command.bind_of_error h]
    exact still (by simp) (by simp)
  · rw [Command.bind_of_ok h]
    exact hf a

theorem status_bind {force : Bool} {f : DomainStatus → Command Index (Option Bool)} {ix : Index}
    (hf : ∀ s ix' x', ix'.schema = ix.schema → x'.now = x.now → Scheduled backoff left x' (f s service ix' x')) :
    Scheduled backoff left x ((status force >>= f) service ix x) := by
  obtain ⟨new, hx, hnew, hs⟩ := status_spec service ix force x
  exact silent_bind hx (pauses_of_describes hnew) fun s => hf s _ _ hs rfl

end Scheduled

open Convergence in
/-- The looks at a domain keep to the schedule and are enough. The real backoff `current` may have been cut
at the longest duration, which is more than the time that can be left. -/
theorem await_scheduled {deadline looks current backoff : Nat} (hd : deadline ≤ Time.longest)
    (hc : min current Time.longest = min backoff Time.longest) (hb : 0 < backoff) (ix : Index) (x : Exchange)
    (hx : x.now ≤ deadline) (hl : deadline - x.now < looks) :
    Scheduled backoff (deadline - x.now) x (await Exchange.now (some deadline) looks current service ix x) := by
  induction looks generalizing current backoff ix x with
  | zero => omega
  | succ looks ih =>
    simp only [await, Command.bind_apply, Command.time_apply]
    by_cases hover : deadline ≤ x.now
    · simp only [pause?, if_pos hover]
      exact .still (by simp) fun _ => by omega
    · simp only [pause?, if_neg hover]
      -- the cut of the backoff is not seen: no more than the longest duration is left
      have hp : min current (deadline - x.now) = min backoff (deadline - x.now) := by omega
      have hclock : Time.after x.now (min current (deadline - x.now)) = x.now + min current (deadline - x.now) := by
        simp only [Time.after]
        omega
      rw [Command.bind_apply, Command.sleep_apply, hclock]
      refine .sleep (by omega) hp (.status_bind fun s ix' x' _ hnow => ?_)
      simp only at hnow
      by_cases hs : s.processing
      · rw [if_pos hs]
        -- the describe took no time, so the time left is what the pause left
        have hleft : deadline - x.now - min current (deadline - x.now) = deadline - x'.now := by omega
        rw [hleft]
        refine ih ?_ (by omega) ix' x' (by omega) (by omega)
        simp only [Time.doubled]
        omega
      · rw [if_neg hs]
        exact .still (by simp) (by simp)

theorem applyChanges_scheduled (service : Service) {timeout deadline : Nat} (patience : Nat) (ix : Index) {x : Exchange}
    (h : Time.deadline? x.now timeout = some deadline) :
    Scheduled (max ix.schema.initialBackoff Time.millisecond) timeout x
      (applyChanges timeout patience service ix x) := by
  obtain ⟨hle, rfl⟩ : x.now + timeout ≤ Time.lastInstant ∧ x.now + timeout = deadline := by
    simpa [Time.deadline?] using h
  have hlongest := hle.trans Time.lastInstant_le_longest
  simp only [applyChanges, applyChangesBy]
  rw [Command.bind_of_ok (Command.time_apply _ _ _ _)]
  simp only [h, looksAllowed]
  -- once the status is known that decides whether to look again
  have rest (current : DomainStatus) (ix' : Index) (x' : Exchange) (hs : ix'.schema = ix.schema) (hx : x'.now = x.now) :
      Scheduled (max ix.schema.initialBackoff Time.millisecond) timeout x' ((if current.processing then do
        await Exchange.now (some (x.now + timeout)) (timeout + 1)
          (Convergence.firstBackoff (← Command.state).schema.initialBackoff)
      else return some true : Command Index (Option Bool)) service ix' x') := by
    by_cases hp : current.processing
    · rw [if_pos hp, Command.bind_of_ok (Command.state_apply _ _ _), hs]
      have hleft : x.now + timeout - x'.now = timeout := by omega
      have hpos : 0 < max ix.schema.initialBackoff Time.millisecond := lt_max_of_lt_right (by decide)
      have hlooks : Scheduled (max ix.schema.initialBackoff Time.millisecond) (x.now + timeout - x'.now) x'
          (await Exchange.now (some (x.now + timeout)) (timeout + 1) (Convergence.firstBackoff ix.schema.initialBackoff)
            service ix' x') :=
        await_scheduled hlongest rfl hpos ix' x' (by omega) (by omega)
      rwa [hleft] at hlooks
    · rw [if_neg hp]
      exact .still (by simp) (by simp)
  refine .status_bind fun first ix' x' hs hx => ?_
  by_cases hr : first.requiresIndexing
  · rw [if_pos hr]
    have hindex : (reindex service ix' x').exchange = { x' with calls := x'.calls ++ [.index ix'.schema.name] } := rfl
    refine .silent_bind hindex rfl fun _ => .status_bind fun current ix'' x'' hs' hx' => ?_
    exact rest current ix'' x'' (hs'.trans hs) (hx'.trans hx)
  · rw [if_neg hr]
    exact rest first ix' x' hs hx

end Index

/-- Applying changes with a deadline comes to an end whatever the service answers. With a first backoff of a
millisecond at least its pauses are positive and double up to the last, which takes what is left if that
is less; they take the timeout at most, and all of it if the domain is still processing at the end. -/
theorem applyChanges_keeps_schedule (service : Service) (ix : Index) (x : Exchange) (timeout patience deadline : Nat)
    (h : Time.deadline? x.now timeout = some deadline) :
    let o := Index.applyChanges timeout patience service ix x
    let backoff := max ix.schema.initialBackoff Time.millisecond
    o.result ≠ .ok none ∧
    (∃ new ps, o.exchange.calls = x.calls ++ new ∧ pauses new = ps ∧ o.exchange.now = x.now + ps.sum ∧
      (∀ p ∈ ps, 0 < p) ∧
      (∀ i, i + 1 < ps.length → ps[i]? = some (backoff * 2 ^ i)) ∧
      (∀ n, ps.length = n + 1 → ps[n]? = some (min (backoff * 2 ^ n) (timeout - (ps.take n).sum)) ∧
        backoff * (2 ^ n - 1) < timeout) ∧
      ps.sum ≤ timeout ∧ (o.result = .ok (some false) → ps.sum = timeout)) ∧
    (ix.schema.initialBackoff ≤ Time.longest →
      ∀ i, Time.doubled^[i] backoff = min (backoff * 2 ^ i) Time.longest) := by
  intro o backoff
  obtain ⟨⟨new, hcalls, hpaced, hnow, hfalse⟩, hends⟩ := Index.applyChanges_scheduled service patience ix h
  refine ⟨hends, ⟨new, pauses new, hcalls, rfl, hnow, ?_, ?_, ?_, hpaced.sum_le, hfalse⟩, fun hi => ?_⟩
  · exact hpaced.pos (lt_max_of_lt_right (by decide))
  · exact fun i => hpaced.getElem?_eq
  · exact fun n hn => ⟨hpaced.getElem?_last hn, hpaced.lt_left hn⟩
  · exact Time.doubled_iterate (max_le hi (by decide))

/-- A service whose domains never stop processing. -/
def Service.busy : Service :=
  { Service.offline with describe := fun _ name => .ok [{ domainName := name, processing := true }] }

set_option maxRecDepth 5000 in
/-- On a busy domain and without a first backoff of its own an index pauses twice, and the second pause is cut. -/
theorem applyChanges_keeps_schedule_busy :
    let o := Index.applyChanges 2500000 0 Service.busy { schema := { name := "reviews", initialBackoff := 0 } } {}
    Time.deadline? 0 2500000 = some 2500000 ∧ o.result = .ok (some false) ∧
    pauses o.exchange.calls = [1000000, 1500000] ∧
    ∃ new ps, o.exchange.calls = [] ++ new ∧ pauses new = ps ∧ (∀ p ∈ ps, 0 < p) ∧ ps.sum = 2500000 := by
  intro o
  have hd : Time.deadline? 0 2500000 = some 2500000 := by decide
  have hr : o.result = .ok (some false) := rfl
  obtain ⟨-, ⟨new, ps, hcalls, hps, -, hpos, -, -, -, hfalse⟩, -⟩ :=
    applyChanges_keeps_schedule Service.busy { schema := { name := "reviews", initialBackoff := 0 } } {} 2500000 0 2500000 hd
  exact ⟨hd, hr, rfl, new, ps, hcalls, hps, hpos, hfalse hr⟩

end SearchIndex
