import SearchIndex.Index.Basic
import SearchIndex.Proofs.Service.Command

/-!
# Asking for a status

What a describe does, and that the status and the endpoints of an index take nothing else.
-/

namespace SearchIndex

variable {service : Service}

/-- What a describe gives: the first status of the domain, or why there is none. -/
def Service.look (service : Service) (past : List Call) (name : String) : Except SearchError DomainStatus :=
  match service.describe past name with
  | .error e => .error (.transport e)
  | .ok [] => .error (.domainNotFound name)
  | .ok (status :: _) => .ok status

/-- Describes and nothing else. -/
def AreDescribes (calls : List Call) : Prop := ∀ call ∈ calls, ∃ name, call = .describe name

namespace Index

theorem describe_apply (ix : Index) (x : Exchange) : describe service ix x =
    match service.describe x.calls ix.schema.name with
    | .error e => ⟨.error (.transport e), ix, { x with calls := x.calls ++ [.describe ix.schema.name] }⟩
    | .ok [] => ⟨.error (.domainNotFound ix.schema.name), ix,
        { x with calls := x.calls ++ [.describe ix.schema.name] }⟩
    | .ok (status :: _) => ⟨.ok status, { ix with cache := { status := some status } },
        { x with calls := x.calls ++ [.describe ix.schema.name] }⟩ := by
  simp only [describe, Command.bind_apply, Command.state_apply, Command.ask_apply]
  rcases service.describe x.calls ix.schema.name with e | _ | ⟨status, rest⟩ <;> rfl

/-- The index once it has been told a status: this is all that it knows. -/
def told (ix : Index) (status : DomainStatus) : Index := { ix with cache := { status := some status } }

theorem describe_eq_look (ix : Index) (x : Exchange) : describe service ix x =
    match service.look x.calls ix.schema.name with
    | .error e => ⟨.error e, ix, { x with calls := x.calls ++ [.describe ix.schema.name] }⟩
    | .ok status => ⟨.ok status, ix.told status, { x with calls := x.calls ++ [.describe ix.schema.name] }⟩ := by
  rw [describe_apply, Service.look]
  rcases service.describe x.calls ix.schema.name with e | _ | ⟨status, rest⟩ <;> rfl

/-- Asking for the status only describes; the schema stays. -/
theorem status_spec (service : Service) (ix : Index) (force : Bool) (x : Exchange) :
    ∃ new, (status force service ix x).exchange = { x with calls := x.calls ++ new } ∧ AreDescribes new ∧
      (status force service ix x).state.schema = ix.schema := by
  have fresh : ∃ new, (describe service ix x).exchange = { x with calls := x.calls ++ new } ∧ AreDescribes new ∧
      (describe service ix x).state.schema = ix.schema := by
    refine ⟨[.describe ix.schema.name], ?_, by simp [AreDescribes], ?_⟩ <;> rw [describe_apply] <;> split <;> rfl
  simp only [status, Command.bind_apply, Command.state_apply]
  rcases ix.cache.status with _ | known <;> cases force
  case some.false => exact ⟨[], by simp, by simp [AreDescribes], rfl⟩
  all_goals exact fresh

theorem endpoint_spec (service : Service) (ix : Index) (channel : Channel) (x : Exchange) :
    ∃ new, (endpoint channel service ix x).exchange = { x with calls := x.calls ++ new } ∧ AreDescribes new := by
  obtain ⟨new, hx, hnew, -⟩ := status_spec service ix false x
  simp only [endpoint, Command.bind_apply, Command.state_apply]
  rcases ix.cache.endpoint? channel with _ | kept
  · refine ⟨new, ?_, hnew⟩
    rcases h : status false service ix x with ⟨_ | known, ix', x'⟩ <;> rw [h] at hx
    · simpa [Command.bind_apply, h] using hx
    · rcases he : known.endpoint? channel with _ | e <;> simpa [Command.bind_apply, h, he] using hx
  · exact ⟨[], by simp, by simp [AreDescribes]⟩

end Index

end SearchIndex
