import SearchIndex.CommandLine.Program
import SearchIndex.Proofs.CommandLine.Condition
import SearchIndex.Proofs.Search.Compile
import SearchIndex.Proofs.Text.UsualNotation

/-!
# Texts typed without quotes

On the command line a condition may compare a text field with a value that has no quotes around it. It then
looks for the text that was typed, as it would with the quotes, unless that reads as an integer: an integer is
looked for in its usual notation, however it was typed.
-/

namespace SearchIndex

open Condition

variable {schema : Schema}

/-! ## Clauses of equality -/

/-- The clause of an equality or an inequality. -/
def Operator.equalityClause (op : Operator) (f : String) (v : Scalar) : Clause :=
  if op = .notEquals then .differs f v else .equals f v

theorem render_equalityClause_inj (op : Operator) {f : String} {v w : Scalar} :
    (op.equalityClause f v).render = (op.equalityClause f w).render ↔ v = w := by
  have hterm : Clause.term f v.render = Clause.term f w.render ↔ v = w := Clause.term_inj.trans Scalar.render_inj
  unfold Operator.equalityClause
  split
  · refine ⟨fun h => hterm.1 ?_, fun h => by rw [h]⟩
    have hlists := congrArg String.toList h
    simp only [Clause.render, String.toList_append] at hlists
    exact String.toList_inj.1 (List.append_cancel_left (List.append_cancel_right hlists))
  · exact hterm

/-! ## Conditions of the command line -/

/-- The text that a value typed without quotes is looked for as. -/
def soughtText (typed : String) : String :=
  match Text.signed64? typed.toList with
  | some n => toString n.toInt
  | none => typed

theorem soughtText_eq_iff (typed : String) :
    soughtText typed = typed ↔ Text.signed64? typed.toList = none ∨ Text.IsUsualInteger typed.toList := by
  unfold soughtText
  split
  · rename_i n hn
    have hread := Text.toString_eq_iff (Text.signed64?_eq_some_iff.1 hn)
    rw [← String.toList_inj, hread]
    simp [hn]
  · rename_i hn
    simp [hn]

theorem addConditions_of_clause {line : String} {c : Condition} {cl : Clause} {q : Query} (hq : q.response = none)
    (hc : Condition.parse line = .ok c) (hcl : Query.clause schema c.field c.op c.operand = .ok cl) :
    CommandLine.addConditions schema [line] q = pure { q with clauses := q.clauses ++ [cl] } := by
  have hchange : Query.addCondition schema c.field c.op c.operand q = (.ok (), { q with clauses := q.clauses ++ [cl] }) := by
    simp only [Query.addCondition, ifOpen_of_open hq, hcl]
  simp only [CommandLine.addConditions, hc, CommandLine.apply, hchange]
  rfl

theorem clause_of_equality {name : String} {f : Field} {op : Operator} {x : Operand} {v : Scalar}
    (hf : schema.field? name = some f) (hop : op = .equals ∨ op = .notEquals) (hv : Scalar.ofOperand f.type x = .ok v) :
    Query.clause schema name op x = .ok (op.equalityClause name v) := by
  simp only [Query.clause, hf]
  rcases hop with rfl | rfl <;> simp only [Clause.ofCondition, Clause.scalar, hv] <;> rfl

theorem operandFor_of_equality {op : Operator} (hop : op = .equals ∨ op = .notEquals) (cs : List Char) :
    operandFor op cs = scalar cs := by
  rcases hop with rfl | rfl <;> rfl

theorem ofOperand_quoted {type : FieldType} (ht : type ≠ .uint) (s : String) :
    Scalar.ofOperand type (scalar (Condition.quoted s).toList) = .ok (.quoted s) := by
  rw [scalar_quoted]
  cases type with
  | uint => exact absurd rfl ht
  | literal | text => rfl

theorem ofOperand_typed {type : FieldType} (ht : type ≠ .uint) {typed : String} (hq : typed.toList.head? ≠ some '\'') :
    Scalar.ofOperand type (scalar typed.toList) = .ok (.quoted (soughtText typed)) := by
  rw [scalar_of_head_ne hq, soughtText, String.ofList_toList]
  cases type with
  | uint => exact absurd rfl ht
  | literal | text => cases Text.signed64? typed.toList <;> rfl

/-- A condition in words that compares a text field with a value for equality. -/
theorem addConditions_equality {q : Query} {name value : String} {f : Field} {op : Operator} {v : Scalar}
    (hq : q.response = none) (hf : schema.field? name = some f) (hop : op = .equals ∨ op = .notEquals)
    (hname : Text.IsUnbroken name.toList) (hne : value.toList ≠ []) (hvalue : Text.IsTight value.toList)
    (hv : Scalar.ofOperand f.type (scalar value.toList) = .ok v) :
    CommandLine.addConditions schema [name ++ " " ++ op.symbol ++ " " ++ value] q =
      pure { q with clauses := q.clauses ++ [op.equalityClause name v] } := by
  refine addConditions_of_clause hq (parse_spaced op hname hne hvalue) ?_
  rw [operandFor_of_equality hop]
  exact clause_of_equality hf hop hv

/-- On a text field the command line takes a value without quotes just as it takes what the value is looked
for as in quotes. Its clause is that of the value in quotes if and only if the value does not read as an
integer or is the usual notation of one. -/
theorem typed_text_sought_iff (schema : Schema) (q : Query) (name typed : String) (f : Field) (op : Operator)
    (hq : q.response = none) (hf : schema.field? name = some f) (ht : f.type ≠ .uint)
    (hop : op = .equals ∨ op = .notEquals) (hname : Text.IsUnbroken name.toList) (hne : typed ≠ "")
    (htight : Text.IsTight typed.toList) (hquote : typed.toList.head? ≠ some '\'') :
    let adds (value : String) (c : Clause) : Prop :=
      CommandLine.addConditions schema [name ++ " " ++ op.symbol ++ " " ++ value] q =
        pure { q with clauses := q.clauses ++ [c] }
    ∃ bare written : Clause, adds typed bare ∧ adds (quoted typed) written ∧
      (bare.render = written.render ↔ Text.signed64? typed.toList = none ∨ Text.IsUsualInteger typed.toList) ∧
      ∀ n, Text.signed64? typed.toList = some n → adds (quoted (toString n.toInt)) bare := by
  have hchars : typed.toList ≠ [] := fun h => hne (String.toList_inj.1 h)
  have inQuotes (s : String) : CommandLine.addConditions schema [name ++ " " ++ op.symbol ++ " " ++ quoted s] q =
      pure { q with clauses := q.clauses ++ [op.equalityClause name (.quoted s)] } :=
    addConditions_equality hq hf hop hname (by simp [toList_quoted]) (isTight_quoted s) (ofOperand_quoted ht s)
  refine ⟨op.equalityClause name (.quoted (soughtText typed)), op.equalityClause name (.quoted typed),
    addConditions_equality hq hf hop hname hchars htight (ofOperand_typed ht hquote), inQuotes typed, ?_, ?_⟩
  · rw [render_equalityClause_inj, Scalar.quoted.injEq, soughtText_eq_iff]
  · intro n hn
    rw [show soughtText typed = toString n.toInt by rw [soughtText, hn]]
    exact inQuotes _

/-- Digits that make no integer of 64 bits are looked for as they were typed. -/
theorem typed_text_sought_iff_long :
    let schema : Schema := { name := "offices", fields := [.new "phone" .literal {}] }
    let adds (line : String) (c : Clause) : Prop :=
      CommandLine.addConditions schema [line] {} = pure { clauses := [c] }
    ∃ bare written : Clause, adds "phone != 00099999999999999999999" bare ∧
      adds "phone != '00099999999999999999999'" written ∧ bare.render = written.render := by
  intro schema adds
  obtain ⟨bare, written, hbare, hwritten, hiff, -⟩ := typed_text_sought_iff schema {} "phone" "00099999999999999999999"
    (.new "phone" .literal {}) .notEquals rfl rfl (by decide) (.inr rfl) (by decide) (by decide)
    (by decide) (by decide)
  exact ⟨bare, written, hbare, hwritten, hiff.2 (.inl (by decide))⟩

/-- The zeros before a smaller number are lost without quotes. -/
theorem typed_zeros_are_lost :
    let schema : Schema := { name := "offices", fields := [.new "zip" .literal {}] }
    let adds (line : String) (c : Clause) : Prop :=
      CommandLine.addConditions schema [line] {} = pure { clauses := [c] }
    ∃ bare written : Clause, adds "zip == 007" bare ∧ adds "zip == '007'" written ∧
      bare.render = "zip:'7'" ∧ written.render = "zip:'007'" ∧ bare.render ≠ written.render := by
  intro schema adds
  exact ⟨.equals "zip" (.quoted "7"), .equals "zip" (.quoted "007"), rfl, rfl, rfl, rfl, by decide⟩

end SearchIndex
