import SearchIndex.Proofs.Query.TopLevel
import SearchIndex.Proofs.Search.Compile

/-!
# Ranges that are written out

A range that the caller writes out is taken as it is, whatever it says. If it consists of bounds it stays one
term, as all other clauses do, and a query has one term for each condition that it has taken. Any other text
goes into the query just as well, and there it may be several terms.
-/

namespace SearchIndex

variable {schema : Schema}

namespace Condition

/-- A condition that cannot be cut: its field's name is bare, and a range that is written out consists of
bounds. -/
structure Uncut (c : Condition) : Prop where
  field : ∀ ch ∈ c.field.toList, IsBare ch
  range : ∀ s, c.op = .withinRange → c.operand = .text s → IsRangeText s

end Condition

theorem ClauseOf.stands {f : String} {type : FieldType} {op : Operator} {x : Operand} {cl : Clause}
    (h : ClauseOf f type op x cl) (hf : ∀ ch ∈ f.toList, IsBare ch)
    (hr : ∀ s, op = .withinRange → x = .text s → IsRangeText s) : cl.Stands := by
  refine ⟨h.field_eq ▸ hf, ?_⟩
  intro s hs
  rw [hs] at h
  exact hr s h.of_within.1 h.of_within.2

/-- The text of a term is a range just if the term is a field with two bounds, each of which may be left out. -/
theorem isRangeText_iff_term (f s : String) : IsRangeText s ↔ ∃ lo hi a b, BoundSpelled lo a ∧ BoundSpelled hi b ∧
    (Clause.term f s).toList = f.toList ++ ':' :: (a ++ '.' :: '.' :: b) := by
  simp [IsRangeText, Clause.term]

/-- Every text is taken as a range, on fields of all types, and stands in the clause as it is. -/
theorem addCondition_rangeText {q : Query} {name : String} {f : Field} (hq : q.response = none)
    (hf : schema.field? name = some f) (s : String) :
    Query.addCondition schema name .withinRange (.text s) q =
      (.ok (), { q with clauses := q.clauses ++ [.within name s] }) := by
  have hc : Query.clause schema name .withinRange (.text s) = .ok (.within name s) := by
    rw [Query.clause, hf]
    rfl
  simp only [Query.addCondition, ifOpen_of_open hq, hc]

/-- A written-out range is taken whatever it says, and its clause is a field with two bounds just if the text
consists of bounds. If all of them do, and no field's name can be cut, then the terms of the boolean query are
the clauses of the conditions, one for each. -/
theorem range_texts_keep_structure (schema : Schema) :
    (∀ (q : Query) (name : String) (f : Field) (s : String), q.response = none → schema.field? name = some f →
      ∃ cl : Clause, Query.addCondition schema name .withinRange (.text s) q =
          (.ok (), { q with clauses := q.clauses ++ [cl] }) ∧
        cl.render = name ++ ":" ++ s ∧
        (IsRangeText s ↔ ∃ lo hi a b, BoundSpelled lo a ∧ BoundSpelled hi b ∧
          cl.render.toList = name.toList ++ ':' :: (a ++ '.' :: '.' :: b))) ∧
    ∀ (q q' : Query) (conds : List Condition), q.response = none → q.clauses = [] → conds ≠ [] →
      (∀ c ∈ conds, c.Uncut) →
      q.after (conds.map (Condition.change schema)) = .ok q' →
      ∃ request text terms, q'.compile = .ok request ∧ request.booleanQuery = some text ∧
        topTerms? text.toList = some terms ∧
        List.Forall₂ (fun c term => ∃ cl, Query.clause schema c.field c.op c.operand = .ok cl ∧
          term = cl.render.toList) conds terms := by
  constructor
  · intro q name f s hq hf
    exact ⟨.within name s, addCondition_rangeText hq hf s, rfl, isRangeText_iff_term name s⟩
  · intro q q' conds hq hnone hne huncut h
    obtain ⟨cls, hcls, rfl⟩ := after_conditions hq h
    have hstands : ∀ cl ∈ cls, cl.Stands := by
      refine (forall₂_forall hcls (P := fun c => c.Uncut) fun c hc cl hcl => ?_).1 huncut
      obtain ⟨f, -, hof⟩ := clause_eq_ok hcl
      exact iff_of_true (huncut c hc) (hof.stands (huncut c hc).field (huncut c hc).range)
    have hne' : cls ≠ [] := fun e => hne (List.forall₂_nil_right_iff.1 (e ▸ hcls))
    obtain ⟨text, htext, hterms⟩ := topTerms?_joinClauses hne' hstands
    have hclauses : q.clauses ++ cls = cls := by rw [hnone, List.nil_append]
    obtain ⟨request, hreq, hbq⟩ := compile_booleanQuery (q := { q with clauses := q.clauses ++ cls })
      (by rw [hclauses]; exact htext)
    refine ⟨request, text, _, hreq, hbq, hterms, ?_⟩
    exact List.forall₂_map_right_iff.2 (hcls.imp fun c cl hcl => ⟨cl, hcl, rfl⟩)

/-- A range without an end, after a text that holds all that cuts. -/
theorem range_texts_keep_structure_reviews :
    let schema : Schema := { name := "reviews", fields := [.new "body" .text {}, .new "stars" .uint {}] }
    let conds : List Condition := [⟨"body", .notEquals, .text "a 'b' (c"⟩, ⟨"stars", .withinRange, .text "+3.."⟩]
    ∃ q, Query.after {} (conds.map (Condition.change schema)) = .ok q ∧
      ∃ request text terms, q.compile = .ok request ∧ request.booleanQuery = some text ∧
        topTerms? text.toList = some terms ∧
        List.Forall₂ (fun c term => ∃ cl, Query.clause schema c.field c.op c.operand = .ok cl ∧
          term = cl.render.toList) conds terms := by
  intro schema conds
  have h : Query.after {} (conds.map (Condition.change schema)) = .ok
      { clauses := [.differs "body" (.quoted "a 'b' (c"), .within "stars" "+3.."] } := rfl
  refine ⟨_, h, (range_texts_keep_structure schema).2 {} _ conds rfl rfl (by simp [conds]) ?_ h⟩
  intro c hc
  simp only [conds, List.mem_cons, List.not_mem_nil, or_false] at hc
  rcases hc with rfl | rfl
  · exact ⟨by simp [IsBare], nofun⟩
  · refine ⟨by simp [IsBare], ?_⟩
    rintro s - ⟨⟩
    exact ⟨some 3, none, ['+', '3'], [], rfl, rfl, rfl⟩

/-- A text with a blank is taken as a range and makes two terms of one condition, and so does a name with a
blank, though its range consists of bounds. -/
theorem range_text_adds_term :
    let schema : Schema := { name := "reviews", fields := [.new "stars" .uint {}, .new "stars given" .uint {}] }
    let terms (conds : List Condition) : Option (List String) := do
      let q ← (Query.after {} (conds.map (Condition.change schema))).toOption
      let request ← q.compile.toOption
      return (← topTerms? (← request.booleanQuery).toList).map String.ofList
    ¬ IsRangeText "1..2 body:'x'" ∧
    terms [⟨"stars", .withinRange, .text "1..2 body:'x'"⟩, ⟨"stars", .greaterOrEqual, .int 3⟩] =
      some ["stars:1..2", "body:'x'", "stars:3.."] ∧
    IsRangeText "1..2" ∧
    terms [⟨"stars given", .withinRange, .text "1..2"⟩, ⟨"stars given", .greaterOrEqual, .int 3⟩] =
      some ["stars", "given:1..2", "stars", "given:3.."] := by
  intro schema terms
  refine ⟨fun h => ?_, by decide +kernel, ⟨some 1, some 2, ['1'], ['2'], rfl, rfl, rfl⟩, by decide +kernel⟩
  exact absurd (h.bare ' ' (by decide)) (by decide)

end SearchIndex
