/-!
# Histories

What each element of a list keeps to, given the elements before it.
-/

namespace SearchIndex

/-- Every element of the list is as `P` says after the elements before it. -/
def EachAfter {α : Type} (P : List α → α → Prop) (l : List α) : Prop :=
  ∀ before e after, l = before ++ e :: after → P before e

variable {α : Type} {P : List α → α → Prop} {a : α} {l l' : List α}

theorem eachAfter_nil (P : List α → α → Prop) : EachAfter P [] := by
  intro before e after h
  simp at h

theorem eachAfter_cons (ha : P [] a)
    (hl : EachAfter (fun before => P (a :: before)) l) : EachAfter P (a :: l) := by
  intro before e after h
  cases before with
  | nil => cases h; exact ha
  | cons b before => cases h; exact hl before e after rfl

theorem eachAfter_append (hl : EachAfter P l)
    (hl' : EachAfter (fun before => P (l ++ before)) l') : EachAfter P (l ++ l') := by
  intro before e after h
  rcases List.append_eq_append_iff.1 h with ⟨mid, rfl, hm⟩ | ⟨mid, rfl, hm⟩
  · exact hl' mid e after hm
  · cases mid with
    | nil => simpa using hl' [] e after (by simpa using hm.symm)
    | cons b mid => cases hm; exact hl before e mid rfl

theorem EachAfter.mono {Q : List α → α → Prop} (h : EachAfter P l)
    (hPQ : ∀ before, ∀ e ∈ l, P before e → Q before e) : EachAfter Q l := by
  intro before e after hl
  exact hPQ before e (by simp [hl]) (h before e after hl)

end SearchIndex
