import SearchIndex.Proofs.Sorted
import SearchIndex.Proofs.Text.Utf8Order
import SearchIndex.Registry

/-!
# The order of qualifiers

Qualifiers are in a strict order, so an owner has one entry for each of them. The entry without a qualifier
comes first, and the others follow by the bytes of their qualifiers.
-/

namespace SearchIndex

section

variable {α : Type} [LT α]

instance optionAsymm [Std.Asymm (fun a b : α => a < b)] : Std.Asymm (fun a b : Option α => a < b) where
  asymm a b h h' := by
    cases a <;> cases b
    case some.some a b => exact Std.Asymm.asymm a b (Option.some_lt_some.1 h) (Option.some_lt_some.1 h')
    all_goals first | exact Option.not_lt_none h | exact Option.not_lt_none h'

instance optionTrans [Trans (fun a b : α => a < b) (fun a b : α => a < b) (fun a b : α => a < b)] :
    Trans (fun a b : Option α => a < b) (fun a b : Option α => a < b) (fun a b : Option α => a < b) where
  trans {a b c} h h' := by
    cases a <;> cases b <;> cases c
    case some.some.some => exact Option.some_lt_some.2 (Std.lt_trans (Option.some_lt_some.1 h) (Option.some_lt_some.1 h'))
    case none.some.some => exact Option.none_lt_some
    all_goals first | exact (Option.not_lt_none h).elim | exact (Option.not_lt_none h').elim

instance optionTrichotomous [Std.Trichotomous (fun a b : α => a < b)] : Std.Trichotomous (fun a b : Option α => a < b) where
  trichotomous a b h h' := by
    cases a <;> cases b
    case none.none => rfl
    case none.some => exact (h Option.none_lt_some).elim
    case some.none => exact (h' Option.none_lt_some).elim
    case some.some a b =>
      rw [Std.Trichotomous.trichotomous a b (mt Option.some_lt_some.2 h) (mt Option.some_lt_some.2 h')]

end

/-- Which of two qualifiers comes first: none, then the one with the smaller bytes. -/
def QualifierPrecedes : Option String → Option String → Prop
  | none, some _ => True
  | some a, some b => Text.bytes a < Text.bytes b
  | _, none => False

theorem qualifierPrecedes_iff (p q : Option String) : QualifierPrecedes p q ↔ p < q := by
  rcases p with _ | p <;> rcases q with _ | q
  · exact iff_of_false id Option.not_lt_none
  · exact iff_of_true trivial Option.none_lt_some
  · exact iff_of_false id Option.not_lt_none
  · rw [QualifierPrecedes, ← Text.lt_iff_bytes_lt, Option.some_lt_some]

end SearchIndex
