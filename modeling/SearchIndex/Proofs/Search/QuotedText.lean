import SearchIndex.Proofs.Query.Acceptance
import SearchIndex.Proofs.Query.QuotedText
import SearchIndex.Proofs.Search.Compile

/-!
# Texts stay between their quotes

A text that is written between quotes ends at its closing quote: not before, whatever quotes and backslashes it
holds, and not behind it. So a reader that knows nothing but quotes and backslashes finds in a boolean query just
the texts that its conditions ask for.
-/

namespace SearchIndex

variable {type : FieldType} {op : Operator} {x : Operand}

/-- The text that a single value is compared with on a field of the given type; there is none on unsigned
fields. -/
def Operand.texts : FieldType → Operand → List String
  | .uint, _ => []
  | _, .text s => [s]
  | _, .int n => [toString n.toInt]
  | _, _ => []

namespace Condition

/-- The texts that an operator asks for on a field of the given type: ranges and orders ask for none. -/
def textsOn (type : FieldType) : Operator → Operand → List String
  | .equals, x | .notEquals, x => x.texts type
  | .any, .list xs => xs.flatMap (Operand.texts type)
  | _, _ => []

/-- The texts that a condition asks for. -/
def texts (schema : Schema) (c : Condition) : List String :=
  match schema.field? c.field with
  | none => []
  | some f => textsOn f.type c.op c.operand

/-- A condition that brings no quotes of its own: there are none in the field's name, nor in a range that is
written out. -/
structure QuoteFree (c : Condition) : Prop where
  field : '\'' ∉ c.field.toList
  range : ∀ s, c.op = .withinRange → c.operand = .text s → '\'' ∉ s.toList

end Condition

/-! ## The texts of clauses are those of conditions -/

theorem Scalar.ofOperand_texts {v : Scalar} (h : ofOperand type x = .ok v) : v.texts = x.texts type := by
  cases type with
  | uint =>
    rcases ofOperand_uint x with ⟨n, hn⟩ | hfault
    · rw [hn] at h
      cases h
      rfl
    · rw [hfault] at h
      cases h
  | literal | text =>
    cases x with
    | text s | int n => cases h; rfl
    | list xs | range lo hi => cases h

theorem ClauseOf.texts_eq {f : String} {cl : Clause} (h : ClauseOf f type op x cl) :
    Condition.textsOn type op x = cl.texts := by
  cases h with
  | equals hs | differs hs => exact (Scalar.ofOperand_texts hs).symm
  | oneOf _ hs =>
    exact forall₂_flatMap (forall₂_of_mapM hs) fun x v hv => (Scalar.ofOperand_texts (scalar_eq_ok.1 hv)).symm
  | _ => rfl

theorem clause_texts {schema : Schema} {c : Condition} {cl : Clause}
    (h : Query.clause schema c.field c.op c.operand = .ok cl) : c.texts schema = cl.texts := by
  obtain ⟨f, hf, hof⟩ := clause_eq_ok h
  rw [Condition.texts, hf]
  exact hof.texts_eq

theorem clause_quoteFree {schema : Schema} {c : Condition} {cl : Clause}
    (h : Query.clause schema c.field c.op c.operand = .ok cl) (hc : c.QuoteFree) : cl.QuoteFree := by
  obtain ⟨f, -, hof⟩ := clause_eq_ok h
  refine ⟨hof.field_eq ▸ hc.field, ?_⟩
  intro s hs
  rw [hs] at hof
  exact hc.range s hof.of_within.1 hof.of_within.2

/-! ## Texts between quotes end at their closing quotes -/

/-- A reader finds in a compiled query the texts that the conditions ask for, in their order. -/
theorem quotedTexts?_of_conditions {schema : Schema} {q q' : Query} {conds : List Condition} (hq : q.response = none)
    (hnone : q.clauses = []) (hne : conds ≠ []) (hfree : ∀ c ∈ conds, c.QuoteFree)
    (h : q.after (conds.map (Condition.change schema)) = .ok q') :
    ∃ request text, q'.compile = .ok request ∧ request.booleanQuery = some text ∧
      quotedTexts? text.toList = some (conds.flatMap (Condition.texts schema)) := by
  obtain ⟨cls, hcls, rfl⟩ := after_conditions hq h
  have hclauses : ∀ cl ∈ cls, cl.QuoteFree := by
    refine (forall₂_forall hcls (P := fun c => c.QuoteFree) fun c hc cl hcl => ?_).1 hfree
    exact iff_of_true (hfree c hc) (clause_quoteFree hcl (hfree c hc))
  have hne' : cls ≠ [] := fun e => hne (List.forall₂_nil_right_iff.1 (e ▸ hcls))
  obtain ⟨text, htext, hfinds⟩ := finds_joinClauses hne' hclauses
  have happ : q.clauses ++ cls = cls := by rw [hnone, List.nil_append]
  obtain ⟨request, hreq, hbq⟩ := compile_booleanQuery (q := { q with clauses := q.clauses ++ cls })
    (by rw [happ]; exact htext)
  have htexts : conds.flatMap (Condition.texts schema) = cls.flatMap Clause.texts :=
    forall₂_flatMap hcls fun c cl hcl => clause_texts hcl
  exact ⟨request, text, hreq, hbq, by rw [htexts]; exact hfinds.whole⟩

/-- Behind the opening quote of a text stand the text, with a backslash before each of its backslashes and then
before each of its quotes, and the closing quote. A reader that starts there reads the text and leaves what
follows, and has no text before the closing quote; so no two texts are written alike, whatever comes after them.
In a boolean query such a reader finds the texts that the conditions ask for, one after the other. -/
theorem quoted_text_ends_at_its_quote :
    (∀ s : String, ∃ literal, (Scalar.quoted s).render.toList = '\'' :: literal ∧
      literal = backslashBefore '\'' (backslashBefore '\\' s.toList) ++ ['\''] ∧
      (∀ t, readQuoted? (literal ++ t) = some (s.toList, t)) ∧
      ∀ early, early <+: literal → early ≠ literal → readQuoted? early = none) ∧
    (Function.Injective fun s => (Scalar.quoted s).render) ∧
    (∀ s s' t t' : String, (Scalar.quoted s).render ++ t = (Scalar.quoted s').render ++ t' → s = s' ∧ t = t') ∧
    ∀ (schema : Schema) (q q' : Query) (conds : List Condition), q.response = none → q.clauses = [] → conds ≠ [] →
      (∀ c ∈ conds, c.QuoteFree) → q.after (conds.map (Condition.change schema)) = .ok q' →
      ∃ request text, q'.compile = .ok request ∧ request.booleanQuery = some text ∧
        quotedTexts? text.toList = some (conds.flatMap (Condition.texts schema)) := by
  refine ⟨?_, ?_, fun s s' t t' => Scalar.render_quoted_append_inj, ?_⟩
  · intro s
    have hread : ∀ t, readQuoted? (quoteChars s.toList ++ ['\''] ++ t) = some (s.toList, t) := by
      intro t
      rw [List.append_assoc]
      exact readQuoted?_quoteChars s.toList t
    refine ⟨quoteChars s.toList ++ ['\''], ?_, ?_, hread, fun early => readQuoted?_of_early hread⟩
    · rw [Scalar.render, String.toList_ofList]
      rfl
    · rw [quoteChars_eq]
  · intro s s' h
    cases Scalar.render_inj.1 h
    rfl
  · intro schema q q' conds hq hnone hne hfree h
    exact quotedTexts?_of_conditions hq hnone hne hfree h

/-- A text that ends with a backslash, a text that looks like the rest of a clause, and values without quotes. -/
theorem quoted_text_ends_at_its_quote_reviews :
    let schema : Schema :=
      { name := "reviews", fields := [.new "body" .text {}, .new "title" .literal {}, .new "stars" .uint {}] }
    let conds : List Condition := [⟨"body", .notEquals, .text "C:\\"⟩,
      ⟨"title", .any, .list [.text "\\' title:'x", .int (-3)]⟩, ⟨"stars", .equals, .text "5"⟩,
      ⟨"stars", .withinRange, .text "+3.."⟩]
    ∃ q, Query.after {} (conds.map (Condition.change schema)) = .ok q ∧
      ∃ request text, q.compile = .ok request ∧ request.booleanQuery = some text ∧
        quotedTexts? text.toList = some ["C:\\", "\\' title:'x", "-3"] := by
  intro schema conds
  have h : Query.after {} (conds.map (Condition.change schema)) = .ok
      { clauses := [.differs "body" (.quoted "C:\\"), .oneOf "title" [.quoted "\\' title:'x", .quoted "-3"],
          .equals "stars" (.number 5), .within "stars" "+3.."] } := rfl
  refine ⟨_, h, quoted_text_ends_at_its_quote.2.2.2 schema {} _ conds rfl rfl (by simp [conds]) ?_ h⟩
  intro c hc
  simp only [conds, List.mem_cons, List.not_mem_nil, or_false] at hc
  rcases hc with rfl | rfl | rfl | rfl
  · exact ⟨by decide, nofun⟩
  · exact ⟨by decide, nofun⟩
  · exact ⟨by decide, nofun⟩
  · refine ⟨by decide, ?_⟩
    rintro s - ⟨⟩
    decide

end SearchIndex
