import Mathlib.Data.List.Forall2

/-!
# Results of several computations

A computation done for each element of a list succeeds if it does for every element, and then the
results stand in the order of the elements.
-/

namespace SearchIndex

variable {ε α β : Type}

theorem map_eq_ok {γ : Type} {r : Except ε α} {g : α → γ} {c : γ} :
    r.map g = .ok c ↔ ∃ a, r = .ok a ∧ g a = c := by
  cases r <;> simp [Except.map]

theorem map_eq_error {γ : Type} {r : Except ε α} {g : α → γ} {e : ε} : r.map g = .error e ↔ r = .error e := by
  cases r <;> simp [Except.map]

theorem mapError_eq_ok {ε' : Type} {r : Except ε α} {g : ε → ε'} {a : α} : r.mapError g = .ok a ↔ r = .ok a := by
  cases r with
  | error e => exact iff_of_false nofun nofun
  | ok b => exact ⟨by rintro ⟨⟩; rfl, by rintro ⟨⟩; rfl⟩

theorem mapError_ok {ε' : Type} (a : α) (g : ε → ε') : (Except.ok a : Except ε α).mapError g = .ok a := rfl

theorem forall₂_of_mapM {f : α → Except ε β} {l : List α} {r : List β} (h : l.mapM f = .ok r) :
    List.Forall₂ (fun a b => f a = .ok b) l r := by
  induction l generalizing r with
  | nil => cases h; exact .nil
  | cons a l ih =>
    rw [List.mapM_cons] at h
    cases ha : f a with
    | error e => rw [ha] at h; cases h
    | ok b =>
      cases hl : l.mapM f with
      | error e => rw [ha, hl] at h; cases h
      | ok bs => rw [ha, hl] at h; cases h; exact .cons ha (ih hl)

theorem mapM_of_forall₂ {f : α → Except ε β} {l : List α} {r : List β} (h : List.Forall₂ (fun a b => f a = .ok b) l r) :
    l.mapM f = .ok r := by
  induction h with
  | nil => rfl
  | cons hab _ ih =>
    rw [List.mapM_cons, hab, ih]
    rfl

theorem exists_forall₂_iff {R : α → β → Prop} {l : List α} : (∃ r, List.Forall₂ R l r) ↔ ∀ a ∈ l, ∃ b, R a b := by
  induction l with
  | nil => exact iff_of_true ⟨[], .nil⟩ (by simp)
  | cons a l ih =>
    rw [List.forall_mem_cons, ← ih]
    constructor
    · rintro ⟨_, hr⟩
      cases hr with
      | cons hab hlr => exact ⟨⟨_, hab⟩, _, hlr⟩
    · rintro ⟨⟨b, hab⟩, r, hlr⟩
      exact ⟨b :: r, .cons hab hlr⟩

theorem mapM_eq_ok_iff {f : α → Except ε β} {l : List α} {r : List β} :
    l.mapM f = .ok r ↔ List.Forall₂ (fun a b => f a = .ok b) l r :=
  ⟨forall₂_of_mapM, mapM_of_forall₂⟩

theorem mapM_eq_some_iff {f : α → Option β} {l : List α} {r : List β} :
    l.mapM f = some r ↔ List.Forall₂ (fun a b => f a = some b) l r := by
  induction l generalizing r with
  | nil =>
    rw [List.mapM_nil, Option.pure_def, Option.some.injEq, List.forall₂_nil_left_iff, eq_comm]
  | cons a l ih =>
    simp only [List.mapM_cons, Option.bind_eq_bind, Option.bind_eq_some_iff, ih, Option.pure_def, Option.some.injEq,
      List.forall₂_cons_left_iff]
    constructor
    · rintro ⟨b, hab, bs, hbs, rfl⟩
      exact ⟨b, bs, hab, hbs, rfl⟩
    · rintro ⟨b, bs, hab, hbs, rfl⟩
      exact ⟨b, hab, bs, hbs, rfl⟩

theorem exists_mapM_iff {f : α → Except ε β} {l : List α} :
    (∃ r, l.mapM f = .ok r) ↔ ∀ a ∈ l, ∃ b, f a = .ok b := by
  simp only [mapM_eq_ok_iff, exists_forall₂_iff]

theorem mapM_append_eq_ok_iff {f : α → Except ε β} {l l' : List α} {r : List β} : (l ++ l').mapM f = .ok r ↔
    ∃ r₁ r₂, l.mapM f = .ok r₁ ∧ l'.mapM f = .ok r₂ ∧ r = r₁ ++ r₂ := by
  rw [List.mapM_append]
  constructor
  · intro h
    cases h₁ : l.mapM f with
    | error e => rw [h₁] at h; cases h
    | ok r₁ =>
      cases h₂ : l'.mapM f with
      | error e => rw [h₁, h₂] at h; cases h
      | ok r₂ => rw [h₁, h₂] at h; cases h; exact ⟨r₁, r₂, rfl, rfl, rfl⟩
  · rintro ⟨r₁, r₂, h₁, h₂, rfl⟩
    rw [h₁, h₂]
    rfl

/-- It fails with the error of the first element for which it does. -/
theorem mapM_eq_error_iff {f : α → Except ε β} {l : List α} {e : ε} : l.mapM f = .error e ↔
    ∃ before a after, l = before ++ a :: after ∧ (∀ a' ∈ before, ∃ b, f a' = .ok b) ∧ f a = .error e := by
  constructor
  · intro h
    induction l with
    | nil => cases h
    | cons a l ih =>
      rw [List.mapM_cons] at h
      cases ha : f a with
      | error e' =>
        rw [ha] at h
        cases h
        exact ⟨[], a, l, rfl, by simp, ha⟩
      | ok b =>
        cases hl : l.mapM f with
        | ok bs => rw [ha, hl] at h; cases h
        | error e' =>
          rw [ha, hl] at h
          cases h
          obtain ⟨before, a', after, rfl, hbefore, hfails⟩ := ih hl
          exact ⟨a :: before, a', after, rfl, List.forall_mem_cons.2 ⟨⟨b, ha⟩, hbefore⟩, hfails⟩
  · rintro ⟨before, a, after, rfl, hbefore, hfails⟩
    induction before with
    | nil =>
      rw [List.nil_append, List.mapM_cons, hfails]
      rfl
    | cons a' before ih =>
      obtain ⟨⟨b, hb⟩, hbefore⟩ := List.forall_mem_cons.1 hbefore
      rw [List.cons_append, List.mapM_cons, hb, ih hbefore]
      rfl

/-- What is true of all errors is true of the error it fails with. -/
theorem mapM_error {f : α → Except ε β} {P : ε → Prop} {l : List α} {e : ε}
    (hf : ∀ a e, f a = .error e → P e) (h : l.mapM f = .error e) : P e := by
  obtain ⟨before, a, after, -, -, hfails⟩ := mapM_eq_error_iff.1 h
  exact hf a e hfails

theorem forall₂_exists {R : α → β → Prop} {P : α → Prop} {Q : β → Prop} {l : List α} {r : List β}
    (h : List.Forall₂ R l r) (hPQ : ∀ a ∈ l, ∀ b, R a b → (P a ↔ Q b)) : (∃ a ∈ l, P a) ↔ ∃ b ∈ r, Q b := by
  induction h with
  | nil => simp
  | @cons a b l r hab hlr ih => simp [hPQ a (by simp) b hab, ih fun a ha => hPQ a (by simp [ha])]

theorem forall₂_forall {R : α → β → Prop} {P : α → Prop} {Q : β → Prop} {l : List α} {r : List β}
    (h : List.Forall₂ R l r) (hPQ : ∀ a ∈ l, ∀ b, R a b → (P a ↔ Q b)) : (∀ a ∈ l, P a) ↔ ∀ b ∈ r, Q b := by
  induction h with
  | nil => simp
  | @cons a b l r hab hlr ih => simp [hPQ a (by simp) b hab, ih fun a ha => hPQ a (by simp [ha])]

theorem forall₂_flatMap {γ : Type} {R : α → β → Prop} {f : α → List γ} {g : β → List γ} {l : List α} {r : List β}
    (h : List.Forall₂ R l r) (hfg : ∀ a b, R a b → f a = g b) : l.flatMap f = r.flatMap g := by
  induction h with
  | nil => rfl
  | @cons a b l r hab hlr ih => rw [List.flatMap_cons, List.flatMap_cons, hfg a b hab, ih]

end SearchIndex
