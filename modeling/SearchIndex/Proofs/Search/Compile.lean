import SearchIndex.Proofs.Query.Meaning
import SearchIndex.Search.Query

/-!
# A compiled query says what its conditions say

A query that has taken a list of conditions compiles to one text, and that text has one reading as a
formula: it is true of just the documents that satisfy every condition.
-/

namespace SearchIndex

/-- The query after some changes, if none of them is refused. -/
def Query.after (q : Query) : List Query.Change → Except SearchError Query
  | [] => .ok q
  | change :: rest =>
    match change q with
    | (.ok _, q) => q.after rest
    | (.error e, _) => .error e

/-- A document holds a value of the right kind in every field of the schema. -/
def Document.Conforms (schema : Schema) (doc : Document) : Prop :=
  ∀ name f, schema.field? name = some f → ∃ v ∈ doc name, f.type.Admits v

namespace Condition

/-- The change of a query that adds the condition. -/
def change (schema : Schema) (c : Condition) : Query.Change :=
  Query.addCondition schema c.field c.op c.operand

/-- A condition on a plain name, where orders and ranges are on unsigned fields and a range is given
by its bounds. -/
structure Plain (schema : Schema) (c : Condition) : Prop where
  word : IsWord c.field.toList
  numeric : c.op.IsOrder → ∃ f, schema.field? c.field = some f ∧ f.type = .uint
  bounds : ∀ s, c.op = .withinRange → c.operand ≠ .text s

end Condition

variable {schema : Schema}

theorem clause_eq_ok {c : Condition} {cl : Clause} (h : Query.clause schema c.field c.op c.operand = .ok cl) :
    ∃ f, schema.field? c.field = some f ∧ ClauseOf c.field f.type c.op c.operand cl := by
  unfold Query.clause at h
  split at h
  · cases h
  · rename_i f hf
    exact ⟨f, hf, clauseOf_of_ok (mapError_eq_ok.1 h)⟩

theorem ifOpen_of_open {q : Query} (h : q.response = none) (change : Query.Change) : Query.ifOpen change q = change q := by
  simp [Query.ifOpen, Query.isExecuted, h]

namespace Query

/-- The clauses of several conditions, if each of them is accepted. -/
def clausesOf (schema : Schema) (conds : List Condition) : Except SearchError (List Clause) :=
  conds.mapM fun c => clause schema c.field c.op c.operand

theorem after_cons (q : Query) (change : Change) (changes : List Change) : q.after (change :: changes) =
    ((change q).1.map fun _ => (change q).2).bind fun q => q.after changes := by
  rw [after]
  rcases change q with ⟨⟨⟩ | ⟨⟩, q⟩ <;> rfl

theorem addCondition_of_open {q : Query} (hq : q.response = none) (field : String) (op : Operator) (operand : Operand) :
    addCondition schema field op operand q = match clause schema field op operand with
      | .ok c => (.ok (), { q with clauses := q.clauses ++ [c] })
      | .error e => (.error e, q) :=
  ifOpen_of_open hq _

/-- Conditions that are added one by one: the first that is refused ends it, and otherwise their clauses stand
in the query, in order. -/
theorem after_conditions_eq {q : Query} (hq : q.response = none) (conds : List Condition) :
    q.after (conds.map (Condition.change schema)) =
      (clausesOf schema conds).map fun cs => { q with clauses := q.clauses ++ cs } := by
  induction conds generalizing q with
  | nil => simp [after, clausesOf, Except.map, pure, Except.pure]
  | cons c conds ih =>
    rw [List.map_cons, after_cons, Condition.change, addCondition_of_open hq, clausesOf, List.mapM_cons]
    cases hc : clause schema c.field c.op c.operand with
    | error e => rfl
    | ok cl =>
      have hrest := ih (q := { q with clauses := q.clauses ++ [cl] }) hq
      rw [clausesOf] at hrest
      simp only [Except.map, Except.bind, hrest]
      cases conds.mapM fun c => clause schema c.field c.op c.operand with
      | error e => rfl
      | ok cs => simp [bind, Except.bind, pure, Except.pure]

end Query

/-- Accepted conditions stand in the query as their clauses, in order. -/
theorem after_conditions {q q' : Query} {conds : List Condition} (hq : q.response = none)
    (h : q.after (conds.map (Condition.change schema)) = .ok q') :
    ∃ cs, List.Forall₂ (fun c cl => Query.clause schema c.field c.op c.operand = .ok cl) conds cs ∧
      q' = { q with clauses := q.clauses ++ cs } := by
  rw [Query.after_conditions_eq hq, map_eq_ok] at h
  obtain ⟨cs, hcs, rfl⟩ := h
  exact ⟨cs, forall₂_of_mapM hcs, rfl⟩

theorem compile_booleanQuery {q : Query} {text : String} (h : joinClauses (q.clauses.map Clause.render) = some text) :
    ∃ request, q.compile = .ok request ∧ request.booleanQuery = some text := by
  have hne : q.clauses.map Clause.render ≠ [] := by intro e; rw [e] at h; cases h
  refine ⟨_, by rw [Query.compile, SearchRequest.ofParts, if_neg (fun e => hne e.2)]; rfl, h⟩

theorem formula_holds_iff {doc : Document} {c : Condition} {cl : Clause} (hp : c.Plain schema) (hdoc : doc.Conforms schema)
    (h : Query.clause schema c.field c.op c.operand = .ok cl) : cl.formula.Holds doc ↔ c.Holds doc := by
  obtain ⟨f, hf, hcl⟩ := clause_eq_ok h
  obtain ⟨v, hv, hadm⟩ := hdoc _ f hf
  have hn : c.op.IsOrder → f.type = .uint := by
    intro ho
    obtain ⟨g, hg, ht⟩ := hp.numeric ho
    rw [hf] at hg
    cases hg
    exact ht
  rw [hcl.holds hp.bounds hn hv hadm, Condition.Holds]
  simp [Option.mem_def.1 hv]

/-- The boolean query of a compiled query has one reading, and it is true of a document just when the
document satisfies every condition that the query has taken. -/
theorem compiled_query_means_conditions (schema : Schema) (conds : List Condition) (q : Query) (hne : conds ≠ [])
    (hplain : ∀ c ∈ conds, c.Plain schema) (h : Query.after {} (conds.map (Condition.change schema)) = .ok q) :
    ∃ request text formula, q.compile = .ok request ∧ request.booleanQuery = some text ∧
      (∀ g : Formula, g.Spelled text.toList ↔ g = formula) ∧
      ∀ doc : Document, doc.Conforms schema → (formula.Holds doc ↔ ∀ c ∈ conds, c.Holds doc) := by
  obtain ⟨cs, hcs, rfl⟩ := after_conditions rfl h
  have hmade : ∀ cl ∈ cs, cl.IsMade ∧ IsWord cl.field.toList := by
    refine (forall₂_forall hcs (P := fun c => c.Plain schema) fun c hc cl hcl => ?_).1 hplain
    obtain ⟨f, hf, hof⟩ := clause_eq_ok hcl
    obtain ⟨hm, hfield⟩ := hof.isMade (hplain c hc).bounds
    simp [hm, hfield, hplain c hc, (hplain c hc).word]
  have hne' : cs ≠ [] := fun e => hne (List.forall₂_nil_right_iff.1 (e ▸ hcs))
  obtain ⟨text, htext, hsp⟩ := joinClauses_spelled hne' (fun c h => (hmade c h).1) (fun c h => (hmade c h).2)
  obtain ⟨request, hreq, hbq⟩ := compile_booleanQuery (q := { clauses := cs }) htext
  refine ⟨request, text, _, hreq, hbq, fun g => ⟨fun hg => ?_, fun e => e ▸ hsp⟩, fun doc hdoc => ?_⟩
  · have hend : Ends [] := by simp [Ends]
    exact (Formula.spelled_unique hg hsp hend hend rfl).1
  · rw [conjunction_holds, forall₂_forall hcs (Q := fun cl => cl.formula.Holds doc)
      fun c hc cl hcl => (formula_holds_iff (hplain c hc) hdoc hcl).symm]
    simp

/-- Quotes, backslashes and parentheses in a text, a number written as a text, a strict bound. -/
theorem compiled_query_means_conditions_reviews :
    let schema : Schema := { name := "reviews", fields := [.new "body" .text {}, .new "stars_5" .uint {}] }
    let conds : List Condition := [⟨"body", .notEquals, .text "it's \\' (or stars_5:1)"⟩,
      ⟨"stars_5", .any, .list [.text " +07 ", .int 0]⟩, ⟨"stars_5", .less, .int (-3)⟩]
    ∃ q, Query.after {} (conds.map (Condition.change schema)) = .ok q ∧
      ∃ request text formula, q.compile = .ok request ∧ request.booleanQuery = some text ∧
        (∀ g : Formula, g.Spelled text.toList ↔ g = formula) ∧
        ∀ doc : Document, doc.Conforms schema → (formula.Holds doc ↔ ∀ c ∈ conds, c.Holds doc) := by
  intro schema conds
  have h : Query.after {} (conds.map (Condition.change schema)) = .ok
      { clauses := [.differs "body" (.quoted "it's \\' (or stars_5:1)"), .oneOf "stars_5" [.number 7, .number 0],
          .atMost "stars_5" (-4)] } := rfl
  refine ⟨_, h, compiled_query_means_conditions schema conds _ (by simp [conds]) ?_ h⟩
  intro c hc
  simp only [conds, List.mem_cons, List.not_mem_nil, or_false] at hc
  rcases hc with rfl | rfl | rfl
  · exact ⟨by simp [IsWord]; decide, by simp [Operator.IsOrder], by simp⟩
  · exact ⟨by simp [IsWord]; decide, by simp [Operator.IsOrder], by simp⟩
  · exact ⟨by simp [IsWord]; decide, fun _ => ⟨_, rfl, rfl⟩, by simp⟩

end SearchIndex
