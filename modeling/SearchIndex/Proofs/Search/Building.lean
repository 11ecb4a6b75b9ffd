import Mathlib.Data.List.TakeWhile
import SearchIndex.Proofs.Search.Rejection

/-!
# What a query is built up to

Equalities that are added in one go are added as they would be one by one, or not at all. A query that has
taken some calls is a request that is told by looking at each part alone: conditions and return fields gather,
and of all else the last call counts. So only the order of the calls for one part matters, and for the return
fields not even that.
-/

namespace SearchIndex.Query

variable {schema : Schema} {q q' : Query}

/-! ## Several equalities at once -/

/-- The condition that a field equals a value. -/
def equalityOf (p : String × Operand) : Condition := ⟨p.1, .equals, p.2⟩

theorem addEqualities_of_open (hq : q.response = none) (pairs : List (String × Operand)) :
    addEqualities schema pairs q = match clausesOf schema (pairs.map equalityOf) with
      | .ok cs => (.ok (), { q with clauses := q.clauses ++ cs })
      | .error e => (.error e, q) := by
  rw [clausesOf, List.mapM_map]
  exact ifOpen_of_open hq _

theorem addEquality_eq_ok_iff (hq : q.response = none) (p : String × Operand) :
    (addEquality schema p.1 p.2 q).1 = .ok () ↔ ∃ c, clause schema p.1 .equals p.2 = .ok c := by
  rw [addEquality, addCondition_of_open hq]
  cases clause schema p.1 .equals p.2 <;> simp

theorem addEquality_eq_error_iff (hq : q.response = none) (p : String × Operand) (e : SearchError) :
    (addEquality schema p.1 p.2 q).1 = .error e ↔ clause schema p.1 .equals p.2 = .error e := by
  rw [addEquality, addCondition_of_open hq]
  cases clause schema p.1 .equals p.2 <;> simp

theorem isExecuted_eq_false_iff : q.isExecuted = false ↔ q.response = none := by simp [isExecuted]

/-- Several equalities are added to an open query if each of them is accepted by itself, and otherwise they are
refused for the first that is not. In both cases the outcome is that of adding them one by one, but for one
thing: where some are refused the query keeps none of them. -/
theorem equalities_all_or_nothing (schema : Schema) (pairs : List (String × Operand)) (q : Query)
    (hopen : q.isExecuted = false) :
    let batch := addEqualities schema pairs q
    let single (p : String × Operand) := addEquality schema p.1 p.2 q
    (batch.1 = .ok () ↔ ∀ p ∈ pairs, (single p).1 = .ok ()) ∧
    (∀ error, batch.1 = .error error ↔ ∃ before p after, pairs = before ++ p :: after ∧
      (∀ p' ∈ before, (single p').1 = .ok ()) ∧ (single p).1 = .error error) ∧
    q.after (pairs.map fun p => addEquality schema p.1 p.2) = batch.1.map (fun _ => batch.2) ∧
    ∀ error, batch.1 = .error error → batch.2 = q := by
  intro batch single
  have hq : q.response = none := isExecuted_eq_false_iff.1 hopen
  have hbatch : batch = _ := addEqualities_of_open hq pairs
  have hclauses : clausesOf schema (pairs.map equalityOf) = pairs.mapM fun p => clause schema p.1 .equals p.2 := by
    rw [clausesOf, List.mapM_map]
    rfl
  have hresult : batch.1 = (pairs.mapM fun p => clause schema p.1 .equals p.2).map fun _ => () := by
    rw [hbatch, hclauses]
    cases pairs.mapM fun p => clause schema p.1 .equals p.2 <;> rfl
  refine ⟨?_, fun error => ?_, ?_, fun error he => ?_⟩
  · simp only [single, addEquality_eq_ok_iff hq, ← exists_mapM_iff, hresult, map_eq_ok, and_true]
  · simp only [single, addEquality_eq_ok_iff hq, addEquality_eq_error_iff hq, hresult, map_eq_error, mapM_eq_error_iff]
  · have hchanges : (pairs.map fun p => addEquality schema p.1 p.2) =
        (pairs.map equalityOf).map (Condition.change schema) := by
      rw [List.map_map]
      rfl
    rw [hchanges, after_conditions_eq hq, hbatch]
    cases clausesOf schema (pairs.map equalityOf) <;> rfl
  · rw [hresult, map_eq_error, ← hclauses] at he
    rw [hbatch, he]

/-- A field that is not there comes before a value that is no number, so it is what the refusal names. -/
theorem equalities_all_or_nothing_reviews :
    let schema : Schema := { name := "reviews", fields := [.new "body" .text {}, .new "stars" .uint {}] }
    let q : Query := { clauses := [.equals "body" (.quoted "great")] }
    let pairs : List (String × Operand) := [("stars", .int 5), ("rating", .int 5), ("stars", .text "five")]
    q.isExecuted = false ∧ (addEqualities schema pairs q).1 = .error (.unknownField "reviews" "rating") ∧
      (addEqualities schema pairs q).2 = q := by
  intro schema q pairs
  have hopen : q.isExecuted = false := rfl
  obtain ⟨-, hfirst, -, hkept⟩ := equalities_all_or_nothing schema pairs q hopen
  have herror := (hfirst (.unknownField "reviews" "rating")).2
    ⟨[("stars", .int 5)], ("rating", .int 5), [("stars", .text "five")], rfl, by simp; rfl, rfl⟩
  exact ⟨hopen, herror, hkept _ herror⟩

/-! ## What calls say -/

/-- The parts of a query that a call can set or add to. -/
inductive Part where
  | warnings
  | clauses
  | text
  | rank
  | limit
  | offset
  | returnFields
  deriving DecidableEq

namespace Amendment

def part : Amendment → Part
  | fatalWarnings _ => .warnings
  | condition _ _ _ | equality _ _ | equalities _ => .clauses
  | text _ => .text
  | rank _ => .rank
  | limit _ => .limit
  | offset _ => .offset
  | returnFields _ => .returnFields

def conditions : Amendment → List Condition
  | condition field op operand => [⟨field, op, operand⟩]
  | equality field operand => [equalityOf (field, operand)]
  | equalities pairs => pairs.map equalityOf
  | _ => []

def strictness : Amendment → List Bool
  | fatalWarnings fatal => [fatal]
  | _ => []

def texts : Amendment → List String
  | text phrase => [phrase]
  | _ => []

def ranks : Amendment → List String
  | rank expression => [expression]
  | _ => []

def limits : Amendment → List Nat
  | limit count => [count]
  | _ => []

def offsets : Amendment → List Nat
  | offset count => [count]
  | _ => []

def names : Amendment → List String
  | returnFields names => names
  | _ => []

/-- The rank expressions and the names of return fields are not blank. -/
def Written (a : Amendment) : Prop := ∀ s ∈ a.ranks ++ a.names, Text.isAllBlank s = false

end Amendment

open Amendment

/-- The query with what some calls say, where `cs` are the clauses of their conditions. -/
def withCalls (q : Query) (calls : List Amendment) (cs : List Clause) : Query :=
  { q with
    clauses := q.clauses ++ cs
    freeText := (calls.flatMap texts).getLast?.or q.freeText
    rank := (calls.flatMap ranks).getLast?.or q.rank
    limit := (calls.flatMap limits).getLast?.getD q.limit
    offset := (calls.flatMap offsets).getLast?.or q.offset
    returnFields := (calls.flatMap names).foldl (fun s name => Sorted.add name s) q.returnFields
    fatalWarnings := (calls.flatMap strictness).getLast?.getD q.fatalWarnings }

theorem withCalls_nil (q : Query) : q.withCalls [] [] = q := by simp [withCalls]

theorem withCalls_cons (q : Query) (a : Amendment) (calls : List Amendment) (cs cs' : List Clause) :
    (q.withCalls [a] cs).withCalls calls cs' = q.withCalls (a :: calls) (cs ++ cs') := by
  simp [withCalls, List.getLast?_append, Option.or_assoc, Option.getD_or]

/-! ## One call -/

theorem addNames_eq_ok_iff (names : List String) (q : Query) :
    (addNames names q).1 = .ok () ↔ ∀ s ∈ names, Text.isAllBlank s = false := by
  induction names generalizing q with
  | nil => simp [addNames]
  | cons name names ih =>
    rw [addNames, List.forall_mem_cons]
    cases hblank : Text.isAllBlank name with
    | true => simp
    | false => simp [ih]

theorem addNames_of_written {names : List String} (h : ∀ s ∈ names, Text.isAllBlank s = false) (q : Query) :
    addNames names q =
      (.ok (), { q with returnFields := names.foldl (fun s name => Sorted.add name s) q.returnFields }) := by
  have hbefore : namesBeforeBlank names = names := List.takeWhile_eq_self_iff.2 (by simpa using h)
  refine Prod.ext ((addNames_eq_ok_iff names q).2 h) ?_
  rw [addNames_query, hbefore]

theorem clausesOf_singleton_eq_ok_iff {c : Condition} {cs : List Clause} : clausesOf schema [c] = .ok cs ↔
    ∃ cl, clause schema c.field c.op c.operand = .ok cl ∧ cs = [cl] := by
  rw [clausesOf, mapM_eq_ok_iff]
  constructor
  · intro h
    cases h with
    | cons hcl hrest =>
      cases hrest
      exact ⟨_, hcl, rfl⟩
  · rintro ⟨cl, hcl, rfl⟩
    exact .cons hcl .nil

/-- A call with conditions that are accepted and with no blank words does what it says. -/
theorem change_of_clauses {a : Amendment} {cs : List Clause} (hq : q.response = none)
    (hcs : clausesOf schema a.conditions = .ok cs) (hwritten : a.Written) :
    a.change schema q = (.ok (), q.withCalls [a] cs) := by
  have addition (c : Condition) (h : clausesOf schema [c] = .ok cs) :
      addCondition schema c.field c.op c.operand q = (.ok (), { q with clauses := q.clauses ++ cs }) := by
    obtain ⟨cl, hcl, rfl⟩ := clausesOf_singleton_eq_ok_iff.1 h
    simp only [addCondition_of_open hq, hcl]
  cases a with
  | condition field op operand =>
    rw [Amendment.change, addition ⟨field, op, operand⟩ hcs]
    simp [withCalls, texts, ranks, limits, offsets, names, strictness]
  | equality field operand =>
    rw [Amendment.change, addEquality, addition ⟨field, .equals, operand⟩ hcs]
    simp [withCalls, texts, ranks, limits, offsets, names, strictness]
  | equalities pairs =>
    rw [conditions] at hcs
    rw [Amendment.change, addEqualities_of_open hq, hcs]
    simp [withCalls, texts, ranks, limits, offsets, names, strictness]
  | rank expression =>
    cases hcs
    have hblank : Text.isAllBlank expression = false := hwritten expression (by simp [ranks])
    rw [Amendment.change, setRank, ifOpen_of_open hq, hblank]
    simp [withCalls, texts, ranks, limits, offsets, names, strictness]
  | returnFields ns =>
    cases hcs
    have hnames : ∀ s ∈ ns, Text.isAllBlank s = false := fun s hs => hwritten s (by simpa [ranks, names] using hs)
    rw [Amendment.change, addReturnFields, ifOpen_of_open hq, addNames_of_written hnames]
    simp [withCalls, texts, ranks, limits, offsets, names, strictness]
  | fatalWarnings | text | limit | offset =>
    cases hcs
    simp [Amendment.change, setFatalWarnings, setText, setLimit, setOffset, ifOpen_of_open hq, withCalls, texts, ranks,
      limits, offsets, names, strictness]

/-- A call that is not refused has conditions that are accepted and no blank words. -/
theorem clauses_of_change {a : Amendment} (hq : q.response = none) (h : a.change schema q = (.ok (), q')) :
    (∃ cs, clausesOf schema a.conditions = .ok cs) ∧ a.Written := by
  have addition (c : Condition) (h : addCondition schema c.field c.op c.operand q = (.ok (), q')) :
      ∃ cs, clausesOf schema [c] = .ok cs := by
    rw [addCondition_of_open hq] at h
    cases hcl : clause schema c.field c.op c.operand with
    | error e => simp [hcl] at h
    | ok cl => exact ⟨[cl], clausesOf_singleton_eq_ok_iff.2 ⟨cl, hcl, rfl⟩⟩
  cases a with
  | condition field op operand => exact ⟨addition ⟨field, op, operand⟩ h, by simp [Written, ranks, names]⟩
  | equality field operand => exact ⟨addition ⟨field, .equals, operand⟩ h, by simp [Written, ranks, names]⟩
  | equalities pairs =>
    rw [Amendment.change, addEqualities_of_open hq] at h
    cases hcs : clausesOf schema (pairs.map equalityOf) with
    | error e => simp [hcs] at h
    | ok cs => exact ⟨⟨cs, hcs⟩, by simp [Written, ranks, names]⟩
  | rank expression =>
    rw [Amendment.change, setRank, ifOpen_of_open hq] at h
    split at h
    · cases h
    · rename_i hblank
      exact ⟨⟨[], rfl⟩, by simpa [Written, ranks, names] using hblank⟩
  | returnFields ns =>
    rw [Amendment.change, addReturnFields, ifOpen_of_open hq] at h
    have hnames := (addNames_eq_ok_iff ns q).1 (congrArg Prod.fst h)
    exact ⟨⟨[], rfl⟩, by simpa [Written, ranks, names] using hnames⟩
  | fatalWarnings | text | limit | offset => exact ⟨⟨[], rfl⟩, by simp [Written, ranks, names]⟩

/-! ## Many calls -/

/-- The outcome of calls that are not refused is told by what they say. -/
theorem after_eq_ok_iff (hq : q.response = none) (calls : List Amendment) :
    q.after (calls.map (·.change schema)) = .ok q' ↔
      ∃ cs, clausesOf schema (calls.flatMap conditions) = .ok cs ∧ (∀ a ∈ calls, a.Written) ∧ q' = q.withCalls calls cs := by
  induction calls generalizing q with
  | nil =>
    constructor
    · intro h
      cases h
      exact ⟨[], rfl, by simp, (withCalls_nil _).symm⟩
    · rintro ⟨cs, hcs, -, rfl⟩
      cases hcs
      exact congrArg Except.ok (withCalls_nil q).symm
  | cons a calls ih =>
    rw [List.map_cons, after_cons, List.flatMap_cons, clausesOf]
    simp only [mapM_append_eq_ok_iff, List.forall_mem_cons]
    constructor
    · intro h
      rcases hc : a.change schema q with ⟨e | u, q₁⟩
      · rw [hc] at h
        cases h
      · obtain ⟨⟨cs, hcs⟩, hwritten⟩ := clauses_of_change hq hc
        rw [change_of_clauses hq hcs hwritten] at h
        obtain ⟨cs', hcs', hrest, rfl⟩ := (ih (q := q.withCalls [a] cs) hq).1 h
        exact ⟨cs ++ cs', ⟨cs, cs', hcs, hcs', rfl⟩, ⟨hwritten, hrest⟩, withCalls_cons q a calls cs cs'⟩
    · rintro ⟨_, ⟨cs, cs', hcs, hcs', rfl⟩, ⟨hwritten, hrest⟩, rfl⟩
      rw [change_of_clauses hq hcs hwritten]
      exact (ih (q := q.withCalls [a] cs) hq).2 ⟨cs', hcs', hrest, (withCalls_cons q a calls cs cs').symm⟩

/-! ## Calls that say the same -/

/-- Calls that say the same: for each part the same in the same order, but of the return fields the names
alone. -/
structure SayTheSame (calls calls' : List Amendment) : Prop where
  conditions : calls'.flatMap conditions = calls.flatMap conditions
  texts : calls'.flatMap texts = calls.flatMap texts
  ranks : calls'.flatMap ranks = calls.flatMap ranks
  limits : calls'.flatMap limits = calls.flatMap limits
  offsets : calls'.flatMap offsets = calls.flatMap offsets
  strictness : calls'.flatMap strictness = calls.flatMap strictness
  names : ∀ name, name ∈ calls'.flatMap names ↔ name ∈ calls.flatMap names

theorem written_iff (calls : List Amendment) : (∀ a ∈ calls, a.Written) ↔
    ∀ s, s ∈ calls.flatMap ranks ∨ s ∈ calls.flatMap names → Text.isAllBlank s = false := by
  simp only [Written, List.mem_append, List.mem_flatMap]
  constructor
  · rintro h s (⟨a, ha, hs⟩ | ⟨a, ha, hs⟩)
    · exact h a ha s (.inl hs)
    · exact h a ha s (.inr hs)
  · rintro h a ha s (hs | hs)
    · exact h s (.inl ⟨a, ha, hs⟩)
    · exact h s (.inr ⟨a, ha, hs⟩)

/-- A new query is the same after calls that say the same. -/
theorem SayTheSame.after_eq {calls calls' : List Amendment} (h : SayTheSame calls calls')
    (hafter : after {} (calls.map (·.change schema)) = .ok q) : after {} (calls'.map (·.change schema)) = .ok q := by
  obtain ⟨cs, hcs, hwritten, rfl⟩ := (after_eq_ok_iff rfl calls).1 hafter
  have hnames : Sorted.ofElements (calls'.flatMap Amendment.names) = Sorted.ofElements (calls.flatMap Amendment.names) :=
    Sorted.ofElements_eq_of_mem_iff h.names
  refine (after_eq_ok_iff rfl calls').2 ⟨cs, h.conditions ▸ hcs, ?_, ?_⟩
  · simp only [written_iff, h.ranks, h.names] at hwritten ⊢
    exact hwritten
  · simp only [Sorted.ofElements] at hnames
    simp only [withCalls, h.texts, h.ranks, h.limits, h.offsets, h.strictness, hnames]

/-- A call says nothing about the parts that it is not for. -/
structure Amendment.Unsaid (a : Amendment) : Prop where
  conditions : a.part ≠ .clauses → a.conditions = []
  texts : a.part ≠ .text → a.texts = []
  ranks : a.part ≠ .rank → a.ranks = []
  limits : a.part ≠ .limit → a.limits = []
  offsets : a.part ≠ .offset → a.offsets = []
  strictness : a.part ≠ .warnings → a.strictness = []

theorem Amendment.unsaid (a : Amendment) : a.Unsaid := by
  cases a <;> constructor <;> first | exact fun _ => rfl | exact fun h => absurd rfl h

theorem flatMap_swap {α : Type} {f : Amendment → List α} {p : Part} (hf : ∀ a, a.part ≠ p → f a = []) {a b : Amendment}
    (h : a.part ≠ b.part) (before rest : List Amendment) :
    (before ++ b :: a :: rest).flatMap f = (before ++ a :: b :: rest).flatMap f := by
  simp only [List.flatMap_append, List.flatMap_cons]
  by_cases ha : a.part = p
  · rw [hf b (ha ▸ h.symm), List.nil_append, List.nil_append]
  · rw [hf a ha, List.nil_append, List.nil_append]

/-- Two calls for different parts may be exchanged. -/
theorem sayTheSame_swap {a b : Amendment} (h : a.part ≠ b.part) (before rest : List Amendment) :
    SayTheSame (before ++ a :: b :: rest) (before ++ b :: a :: rest) where
  conditions := flatMap_swap (fun a => a.unsaid.conditions) h before rest
  texts := flatMap_swap (fun a => a.unsaid.texts) h before rest
  ranks := flatMap_swap (fun a => a.unsaid.ranks) h before rest
  limits := flatMap_swap (fun a => a.unsaid.limits) h before rest
  offsets := flatMap_swap (fun a => a.unsaid.offsets) h before rest
  strictness := flatMap_swap (fun a => a.unsaid.strictness) h before rest
  names name := by
    simp only [List.flatMap_append, List.flatMap_cons, List.mem_append]
    grind

/-! ## The request -/

/-- Clauses as they stand in a boolean query: none, one as it is, and several under one `and`. -/
inductive Joined : List Clause → Option String → Prop
  | none : Joined [] none
  | one (c : Clause) : Joined [c] (some c.render)
  | several {cs : List Clause} : 2 ≤ cs.length →
      Joined cs (some ("(and " ++ " ".intercalate (cs.map Clause.render) ++ ")"))

/-- The request that calls amount to whose conditions have the clauses `cs`. -/
structure SumsUp (calls : List Amendment) (cs : List Clause) (r : SearchRequest) : Prop where
  booleanQuery : Joined cs r.booleanQuery
  freeText : r.freeText = (calls.flatMap texts).getLast?.filter (· ≠ "")
  rank : r.rank = (calls.flatMap ranks).getLast?
  limit : r.limit = (calls.flatMap limits).getLast?.getD 100000
  offset : r.offset = (calls.flatMap offsets).getLast?
  ordered : r.returnFields.Pairwise (· < ·)
  returnFields : ∀ name, name ∈ r.returnFields ↔ name ∈ calls.flatMap names
  terms : ∃ terms, ("q", terms) ∈ r.params ∨ ("bq", terms) ∈ r.params

theorem joined_joinClauses (cs : List Clause) : Joined cs (joinClauses (cs.map Clause.render)) := by
  match cs with
  | [] => exact .none
  | [c] => exact .one c
  | c :: c' :: cs => exact .several (by simp)

theorem compile_eq_error_iff {e : SearchError} : q.compile = .error e ↔
    e = .query .noClauses ∧ q.clauses = [] ∧ ∀ text ∈ q.freeText, text = "" := by
  have hnone : (q.freeText.filter (· ≠ "") = none ∧ q.clauses.map Clause.render = []) ↔
      q.clauses = [] ∧ ∀ text ∈ q.freeText, text = "" := by
    simp [and_comm, Option.filter_eq_none_iff]
  rw [← hnone, compile, SearchRequest.ofParts]
  split
  · rename_i h
    simp only [Except.mapError, Except.map, Except.error.injEq, h, and_self, and_true]
    exact eq_comm
  · rename_i h
    refine iff_of_false (fun he => ?_) fun h' => h h'.2
    cases he

theorem eq_of_compile {r : SearchRequest} (h : q.compile = .ok r) : r =
    { freeText := q.freeText.filter (· ≠ ""), booleanQuery := joinClauses (q.clauses.map Clause.render), rank := q.rank,
      limit := q.limit, offset := q.offset, returnFields := q.returnFields } := by
  rw [compile, SearchRequest.ofParts] at h
  split at h
  · cases h
  · cases h
    rfl

/-- A request that compiles has free text or a boolean query among its parameters. -/
theorem exists_terms_of_compile {r : SearchRequest} (h : q.compile = .ok r) :
    ∃ terms, ("q", terms) ∈ r.params ∨ ("bq", terms) ∈ r.params := by
  have hr : r = _ := eq_of_compile h
  by_cases hclauses : q.clauses = []
  · have htext : ¬ ∀ text ∈ q.freeText, text = "" := by
      intro hempty
      rw [compile_eq_error_iff.2 ⟨rfl, hclauses, hempty⟩] at h
      cases h
    obtain ⟨text, htext, hne⟩ : ∃ text, q.freeText = some text ∧ text ≠ "" := by simpa using htext
    refine ⟨text, .inl ?_⟩
    simp [hr, SearchRequest.params, htext, hne]
  · obtain ⟨bq, hbq⟩ : ∃ bq, joinClauses (q.clauses.map Clause.render) = some bq := by
      match hcs : q.clauses with
      | [] => exact absurd hcs hclauses
      | [_] | _ :: _ :: _ => exact ⟨_, rfl⟩
    refine ⟨bq, .inr ?_⟩
    simp [hr, SearchRequest.params, hbq]

/-- A new query that has taken some calls has the clauses of their conditions, in order. It does not compile
just if there are none and the last text was empty; otherwise it compiles to the request that the calls sum
up to. It is the same query after any calls that say the same, so calls for different parts may be exchanged
and those for the return fields may come in any order, together and repeatedly. -/
theorem request_sums_up_calls (schema : Schema) (calls : List Amendment) (q : Query)
    (h : Query.after {} (calls.map (·.change schema)) = .ok q) :
    ∃ cs, List.Forall₂ (fun c cl => clause schema c.field c.op c.operand = .ok cl) (calls.flatMap conditions) cs ∧
      (∀ error, q.compile = .error error ↔
        error = .query .noClauses ∧ cs = [] ∧ ∀ text ∈ (calls.flatMap texts).getLast?, text = "") ∧
      (∀ r, q.compile = .ok r → SumsUp calls cs r) ∧
      (∀ calls', SayTheSame calls calls' → Query.after {} (calls'.map (·.change schema)) = .ok q) ∧
      ∀ before a b rest, calls = before ++ a :: b :: rest → a.part ≠ b.part →
        Query.after {} ((before ++ b :: a :: rest).map (·.change schema)) = .ok q := by
  obtain ⟨cs, hcs, -, rfl⟩ := (after_eq_ok_iff rfl calls).1 h
  refine ⟨cs, forall₂_of_mapM hcs, fun error => ?_, fun r hr => ?_, fun calls' hsame => hsame.after_eq h, ?_⟩
  · simp [compile_eq_error_iff, withCalls]
  · have hterms := exists_terms_of_compile hr
    obtain rfl := eq_of_compile hr
    exact {
      booleanQuery := joined_joinClauses cs
      freeText := by simp [withCalls]
      rank := by simp [withCalls]
      limit := rfl
      offset := by simp [withCalls]
      ordered := Sorted.pairwise_foldl_add .nil _
      returnFields := fun name => by simp [withCalls, Sorted.mem_foldl_add]
      terms := hterms }
  · rintro before a b rest rfl hparts
    exact (sayTheSame_swap hparts before rest).after_eq h

/-- Empty text at the end counts as none, and the names are asked for once each, whichever calls named them. -/
theorem request_sums_up_calls_reviews :
    let schema : Schema := { name := "reviews", fields := [.new "body" .text {}, .new "stars" .uint {}] }
    let calls : List Amendment := [.text "old", .limit 5, .equality "stars" (.int 5), .returnFields ["stars"], .text "",
      .rank "-stars", .equalities [("body", .text "good")], .limit 10, .returnFields ["body", "stars"]]
    let calls' : List Amendment := [.returnFields ["body"], .returnFields ["stars", "body"], .rank "-stars", .limit 5,
      .equalities [("stars", .int 5), ("body", .text "good")], .limit 10, .text "old", .text ""]
    ∃ q, Query.after {} (calls.map (·.change schema)) = .ok q ∧ Query.after {} (calls'.map (·.change schema)) = .ok q ∧
      ∃ r cs, q.compile = .ok r ∧ SumsUp calls cs r ∧
        r.params = [("bq", "(and stars:5 body:'good')"), ("rank", "-stars"), ("size", "10"), ("return-fields", "body,stars")] := by
  intro schema calls calls'
  have h : Query.after {} (calls.map (·.change schema)) = .ok
      { clauses := [.equals "stars" (.number 5), .equals "body" (.quoted "good")], freeText := some "",
        rank := some "-stars", limit := 10, returnFields := ["body", "stars"] } := rfl
  obtain ⟨cs, -, -, hsum, hsame, -⟩ := request_sums_up_calls schema calls _ h
  have hcalls : SayTheSame calls calls' := ⟨rfl, rfl, rfl, rfl, rfl, rfl, by simp [calls, calls', names]; grind⟩
  exact ⟨_, h, hsame calls' hcalls, _, cs, rfl, hsum _ rfl, rfl⟩

end SearchIndex.Query
