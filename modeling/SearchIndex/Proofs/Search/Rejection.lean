import SearchIndex.Proofs.Search.Compile
import SearchIndex.Proofs.Search.Frozen
import SearchIndex.Proofs.Sorted

/-!
# Refused changes

A change that is refused leaves the query as it is, with one exception: names for the return fields are
added one by one, so the names before a blank one stay although the whole call is refused.
-/

namespace SearchIndex.Query

variable {schema : Schema} {q : Query} {error : SearchError}

/-- The names before the first blank one. -/
def namesBeforeBlank (names : List String) : List String := names.takeWhile fun name => !Text.isAllBlank name

/-- The names that a change adds before anything can refuse it. -/
def Amendment.leadingNames : Amendment → List String
  | .returnFields names => namesBeforeBlank names
  | _ => []

/-! ## What a refused change leaves -/

theorem addNames_query (names : List String) (q : Query) : (addNames names q).2 =
    { q with returnFields := (namesBeforeBlank names).foldl (fun s name => Sorted.add name s) q.returnFields } := by
  induction names generalizing q with
  | nil => rfl
  | cons name names ih =>
    rw [addNames, namesBeforeBlank, List.takeWhile_cons]
    cases hb : Text.isAllBlank name with
    | true => rfl
    | false => exact ih _

theorem ifOpen_done_or_same {change : Change} (h : ∀ q, (change q).1 = .ok () ∨ (change q).2 = q) (q : Query) :
    (ifOpen change q).1 = .ok () ∨ (ifOpen change q).2 = q :=
  ifOpen_cases (P := fun o => o.1 = .ok () ∨ o.2 = q) (.inr rfl) (h q)

/-- All changes but one are done or leave the query as it is. -/
theorem change_done_or_same {a : Amendment} (ha : ∀ names, a ≠ .returnFields names) (schema : Schema) (q : Query) :
    (a.change schema q).1 = .ok () ∨ (a.change schema q).2 = q := by
  have condition (field : String) (op : Operator) (operand : Operand) :
      (addCondition schema field op operand q).1 = .ok () ∨ (addCondition schema field op operand q).2 = q := by
    refine ifOpen_done_or_same (fun q => ?_) q
    cases clause schema field op operand with
    | ok c => exact .inl rfl
    | error e => exact .inr rfl
  cases a with
  | returnFields names => exact (ha names rfl).elim
  | fatalWarnings | text | limit | offset => exact ifOpen_done_or_same (fun _ => .inl rfl) q
  | condition field op operand => exact condition field op operand
  | equality field operand => exact condition field .equals operand
  | equalities pairs =>
    refine ifOpen_done_or_same (fun q => ?_) q
    cases pairs.mapM fun p => clause schema p.1 .equals p.2 with
    | ok cs => exact .inl rfl
    | error e => exact .inr rfl
  | rank expression =>
    refine ifOpen_done_or_same (fun q => ?_) q
    split
    · exact .inr rfl
    · exact .inl rfl

/-- A refused change keeps all but the return fields, and adds to these the names that it added before. -/
theorem change_refused {a : Amendment} (h : (a.change schema q).1 = .error error) : (a.change schema q).2 =
    { q with returnFields := if q.isExecuted then q.returnFields
        else a.leadingNames.foldl (fun s name => Sorted.add name s) q.returnFields } := by
  cases hx : q.isExecuted with
  | true => rw [change_of_executed hx]; rfl
  | false =>
    have same (hn : a.leadingNames = []) (ha : ∀ names, a ≠ .returnFields names) : (a.change schema q).2 =
        { q with returnFields := a.leadingNames.foldl (fun s name => Sorted.add name s) q.returnFields } := by
      rcases change_done_or_same ha schema q with hok | hq
      · rw [hok] at h
        cases h
      · rw [hq, hn]
        rfl
    cases a with
    | returnFields names =>
      rw [Amendment.change, addReturnFields, ifOpen_of_open (by simpa [isExecuted] using hx), addNames_query]
      rfl
    | _ => exact same rfl (by simp)

/-- A refused change leaves the query as it is just if it had no new name to add before a blank one, or the
query was answered. Otherwise nothing but the return fields has changed: they have the names before the blank
one in addition. -/
theorem rejected_change_keeps_query_iff (schema : Schema) (q : Query) (a : Amendment) (error : SearchError)
    (hset : q.returnFields.Pairwise (· < ·)) (h : (a.change schema q).1 = .error error) :
    let q' := (a.change schema q).2
    (q' = q ↔ q.isExecuted ∨ ∀ name ∈ a.leadingNames, name ∈ q.returnFields) ∧
    q' = { q with returnFields := q'.returnFields } ∧ q'.returnFields.Pairwise (· < ·) ∧
    ∀ name, name ∈ q'.returnFields ↔ name ∈ q.returnFields ∨ q.isExecuted = false ∧ name ∈ a.leadingNames := by
  intro q'
  have hq' : q' = _ := change_refused h
  have hmem (name : String) :
      name ∈ q'.returnFields ↔ name ∈ q.returnFields ∨ q.isExecuted = false ∧ name ∈ a.leadingNames := by
    rw [hq']
    cases q.isExecuted with
    | true => simp
    | false => simpa [Sorted.mem_foldl_add] using or_comm
  refine ⟨⟨fun heq => ?_, fun hold => ?_⟩, ?_, ?_, hmem⟩
  · by_cases hx : q.isExecuted
    · exact .inl hx
    · refine .inr fun name hname => ?_
      rw [← heq]
      exact (hmem name).2 (.inr ⟨by simpa using hx, hname⟩)
  · rw [hq']
    rcases hold with hx | hnames
    · rw [if_pos hx]
    · rw [Sorted.foldl_add_of_mem hset hnames, ite_self]
  · rw [hq']
  · rw [hq']
    cases q.isExecuted with
    | true => exact hset
    | false => exact Sorted.pairwise_foldl_add hset _

/-- Names that are all there do no harm, though a blank one follows. -/
theorem rejected_change_keeps_query_iff_reviews :
    let q : Query := { freeText := some "great", returnFields := ["body", "stars"] }
    let a : Amendment := .returnFields ["stars", "body", " ", "author"]
    q.returnFields.Pairwise (· < ·) ∧
    (a.change { name := "reviews" } q).1 = .error (.query (.emptyReturnField " ")) ∧
    (a.change { name := "reviews" } q).2 = q := by
  intro q a
  have hset : q.returnFields.Pairwise (· < ·) := by decide
  have h : (a.change { name := "reviews" } q).1 = .error (.query (.emptyReturnField " ")) := rfl
  have hnames : a.leadingNames = ["stars", "body"] := rfl
  refine ⟨hset, h, (rejected_change_keeps_query_iff { name := "reviews" } q a _ hset h).1.2 (.inr ?_)⟩
  rw [hnames]
  decide

/-- A name before a blank one stays although the call is refused, and it is asked for from then on. -/
theorem refused_name_stays :
    let q : Query := { freeText := some "great" }
    let a : Amendment := .returnFields ["body", ""]
    let q' := (a.change { name := "reviews" } q).2
    (a.change { name := "reviews" } q).1 = .error (.query (.emptyReturnField "")) ∧
    q.compile = .ok { freeText := some "great" } ∧
    q'.compile = .ok { freeText := some "great", returnFields := ["body"] } ∧
    q'.compile ≠ q.compile ∧ q' ≠ q := by
  intro q a q'
  have hc : q.compile = .ok { freeText := some "great" } := rfl
  have hc' : q'.compile = .ok { freeText := some "great", returnFields := ["body"] } := rfl
  have hne : q'.compile ≠ q.compile := by
    rw [hc, hc']
    simp
  exact ⟨rfl, hc, hc', hne, fun h => hne (congrArg compile h)⟩

end SearchIndex.Query
