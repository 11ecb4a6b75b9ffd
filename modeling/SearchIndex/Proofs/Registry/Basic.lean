import SearchIndex.Proofs.Registry.Order
import SearchIndex.Proofs.Results
import SearchIndex.Proofs.Schema.Name
import SearchIndex.Proofs.Schema.Table

/-!
# What is found in a registry

Every operation on a registry is told by what is found at each key afterwards. Making an index fails only if
its domain has no name, and a registry in which an owner was merely entered answers as before.
-/

namespace SearchIndex

/-- The index that is made for an owner under the name of its domain. -/
def newIndex (settings : Settings) (owner name : String) : Index where
  schema := { name, fields := [Registry.identity owner], initialBackoff := settings.initialBackoff, lang := settings.lang }

namespace Registry

variable {r : Registry} {key k : IndexKey} {ix : Index} {owner : String} {f : Field}

/-! ## Putting and entering -/

theorem ofOwner_put (r : Registry) (key : IndexKey) (ix : Index) (owner : String) : (r.put key ix).ofOwner owner =
    if owner = key.owner then Sorted.put key.qualifier ix (r.ofOwner owner) else r.ofOwner owner := by
  split
  · rename_i h
    subst h
    simp [put, ofOwner, Sorted.lookup_put_self]
  · rename_i h
    simp [put, ofOwner, Sorted.lookup_put_of_ne h]

theorem get?_put (r : Registry) (key k : IndexKey) (ix : Index) :
    (r.put key ix).get? k = if k = key then some ix else r.get? k := by
  obtain ⟨owner, qualifier⟩ := key
  obtain ⟨o, q⟩ := k
  simp only [get?, ofOwner_put, IndexKey.mk.injEq]
  by_cases ho : o = owner
  · by_cases hq : q = qualifier
    · simp [ho, hq, Sorted.lookup_put_self]
    · simp [ho, hq, Sorted.lookup_put_of_ne]
  · simp [ho]

@[simp] theorem ofOwner_enter (r : Registry) (o owner : String) : (r.enter o).ofOwner owner = r.ofOwner owner := by
  by_cases h : owner = o
  · subst h
    simp [enter, ofOwner, Sorted.lookup_put_self]
  · simp [enter, ofOwner, Sorted.lookup_put_of_ne h]

@[simp] theorem get?_enter (r : Registry) (o : String) (key : IndexKey) : (r.enter o).get? key = r.get? key := by
  rw [get?, ofOwner_enter, get?]

@[simp] theorem enter_settings (r : Registry) (o : String) : (r.enter o).settings = r.settings := rfl

/-! ## Making and opening an index -/

/-- Only the domain can have no name: with a name it makes a schema, and the first field is never refused. -/
theorem make_eq (r : Registry) (key : IndexKey) :
    r.make key = (r.domain key).map (newIndex r.settings key.owner) := by
  cases h : r.domain key with
  | error e => simp only [make, h, bind, Except.bind, Except.map]
  | ok name =>
    have hnew : Schema.new name = .ok { name } := by
      unfold domain domainName at h
      exact Schema.new_of_normalized h
    simp only [make, h, hnew, bind, Except.bind, pure, Except.pure, Schema.addField_of_no_fields, Except.map, newIndex]

/-- What asking for an index gives, by what is found at its key. -/
def opened (settings : Settings) (key : IndexKey) : Option Index → Except SearchError Index
  | some ix => .ok ix
  | none => (domainName settings.domainPrefix key.owner key.qualifier).map (newIndex settings key.owner)

theorem openIndex_eq (r : Registry) (key : IndexKey) : r.openIndex key =
    match r.get? key, r.domain key with
    | some ix, _ => (.ok ix, r.enter key.owner)
    | none, .ok name => (.ok (newIndex r.settings key.owner name),
        (r.enter key.owner).put key (newIndex r.settings key.owner name))
    | none, .error e => (.error e, r.enter key.owner) := by
  have hdomain : (r.enter key.owner).domain key = r.domain key := rfl
  rw [openIndex]
  simp only [get?_enter, make_eq, enter_settings, hdomain]
  cases r.get? key with
  | some ix => rfl
  | none => cases r.domain key <;> rfl

theorem openIndex_result (r : Registry) (key : IndexKey) :
    (r.openIndex key).1 = opened r.settings key (r.get? key) := by
  rw [openIndex_eq]
  cases r.get? key with
  | some ix => rfl
  | none =>
    rw [opened, ← domain]
    cases r.domain key <;> rfl

/-- At most the new index is put into the registry. -/
theorem openIndex_registry (r : Registry) (key : IndexKey) : (r.openIndex key).2 = r.enter key.owner ∨
    ∃ ix, (r.openIndex key).2 = (r.enter key.owner).put key ix := by
  rw [openIndex_eq]
  cases r.get? key with
  | some ix => exact .inl rfl
  | none =>
    cases r.domain key with
    | ok name => exact .inr ⟨_, rfl⟩
    | error e => exact .inl rfl

theorem get?_openIndex (r : Registry) (key k : IndexKey) : (r.openIndex key).2.get? k =
    if k = key then (opened r.settings key (r.get? key)).toOption else r.get? k := by
  by_cases hk : k = key
  · subst hk
    rw [if_pos rfl, ← openIndex_result, openIndex_eq]
    cases h : r.get? k with
    | some ix => simp [h, Except.toOption]
    | none => cases r.domain k <;> simp [h, get?_put, Except.toOption]
  · rw [if_neg hk]
    rcases openIndex_registry r key with h | ⟨ix, h⟩ <;> simp [h, get?_put, hk]

@[simp] theorem openIndex_settings (r : Registry) (key : IndexKey) : (r.openIndex key).2.settings = r.settings := by
  rcases openIndex_registry r key with h | ⟨ix, h⟩ <;> rw [h] <;> rfl

theorem index_eq (r : Registry) (key : IndexKey) :
    r.index key = (r.openIndex key).1.map fun ix => (ix, (r.openIndex key).2) := by
  rw [index]
  rcases r.openIndex key with ⟨_ | ix, r'⟩ <;> rfl

/-! ## Adding a field -/

theorem addField_eq (r : Registry) (key : IndexKey) (f : Field) : (r.addField key f).2 =
    match (r.openIndex key).1 with
    | .error _ => (r.openIndex key).2
    | .ok ix => match ix.schema.addField f with
      | .error _ => (r.openIndex key).2
      | .ok schema => (r.openIndex key).2.put key { ix with schema } := by
  rw [addField]
  rcases r.openIndex key with ⟨e | ix, r'⟩
  · rfl
  · simp only
    cases ix.schema.addField f <;> rfl

theorem get?_addField (r : Registry) (key k : IndexKey) (f : Field) : (r.addField key f).2.get? k =
    if k = key then
      (opened r.settings key (r.get? key)).toOption.map fun ix => { ix with schema := ix.schema.withField f }
    else r.get? k := by
  have hget := get?_openIndex r key k
  rw [addField_eq, openIndex_result]
  cases ho : opened r.settings key (r.get? key) with
  | error e =>
    rw [ho] at hget
    exact hget
  | ok ix =>
    rw [ho] at hget
    simp only [Except.toOption, Option.map_some, Schema.withField] at hget ⊢
    cases ix.schema.addField f with
    | error e => exact hget
    | ok schema =>
      rw [get?_put, hget]
      split <;> rfl

/-- At most the index with the new field is put into the registry. -/
theorem addField_registry (r : Registry) (key : IndexKey) (f : Field) :
    (r.addField key f).2 = (r.openIndex key).2 ∨ ∃ ix, (r.addField key f).2 = (r.openIndex key).2.put key ix := by
  rw [addField_eq]
  cases (r.openIndex key).1 with
  | error e => exact .inl rfl
  | ok ix =>
    simp only
    split
    · exact .inl rfl
    · exact .inr ⟨_, rfl⟩

@[simp] theorem addField_settings (r : Registry) (key : IndexKey) (f : Field) :
    (r.addField key f).2.settings = r.settings := by
  rcases addField_registry r key f with h | ⟨ix, h⟩ <;> rw [h]
  · exact openIndex_settings r key
  · exact openIndex_settings r key

/-! ## The order within an owner -/

/-- The indexes of every owner are in the order of their qualifiers. -/
def Ordered (r : Registry) : Prop := ∀ owner, (r.ofOwner owner).Pairwise fun a b => a.1 < b.1

theorem Ordered.enter (h : r.Ordered) (o : String) : (r.enter o).Ordered := by
  intro owner
  rw [ofOwner_enter]
  exact h owner

theorem Ordered.put (h : r.Ordered) (key : IndexKey) (ix : Index) : (r.put key ix).Ordered := by
  intro owner
  rw [ofOwner_put]
  split
  · exact Sorted.pairwise_put (h owner)
  · exact h owner

theorem Ordered.openIndex (h : r.Ordered) (key : IndexKey) : (r.openIndex key).2.Ordered := by
  rcases openIndex_registry r key with h' | ⟨ix, h'⟩ <;> rw [h']
  · exact h.enter _
  · exact (h.enter _).put _ _

theorem Ordered.addField (h : r.Ordered) (key : IndexKey) (f : Field) : (r.addField key f).2.Ordered := by
  rcases addField_registry r key f with h' | ⟨ix, h'⟩ <;> rw [h']
  · exact h.openIndex key
  · exact (h.openIndex key).put _ _

/-! ## Queries -/

theorem search_eq (r : Registry) (key : IndexKey) : r.search key =
    match r.get? key with
    | some _ => .ok { fatalWarnings := r.settings.fatalWarnings }
    | none => .error (match r.domain key with
      | .ok name => .domainNotFound name
      | .error e => e) := by
  rw [search, require]
  cases r.get? key with
  | some ix => rfl
  | none => cases r.domain key <;> rfl

theorem identityField_not_blank (owner : String) : Text.isAllBlank (identityField owner) = false := by
  rw [identityField, Text.isAllBlank, String.toList_append, List.all_append]
  exact Bool.and_eq_false_imp.2 fun _ => by decide

/-- The identity field is no blank name, so nothing but the search can fail. -/
theorem materializer_eq {α : Type} (r : Registry) (key : IndexKey) (loader : Loader α) : r.materializer key loader =
    (r.search key).map fun q =>
      { query := { q with returnFields := [identityField key.owner] }, identityField := identityField key.owner, loader } := by
  rw [materializer, search_eq]
  cases r.get? key with
  | none => rfl
  | some ix =>
    simp only [bind, Except.bind, Except.map, Materializer.new, Query.addReturnFields, Query.ifOpen, Query.isExecuted,
      Query.addNames, identityField_not_blank]
    rfl

/-- It reads the ids of hits from the identity field of the owner. -/
theorem materializer_of_found {α : Type} (h : r.get? key = some ix) (loader : Loader α) :
    ∃ m, r.materializer key loader = .ok m ∧ m.identityField = identityField key.owner := by
  rw [materializer_eq, search_eq, h]
  exact ⟨_, rfl, rfl⟩

end Registry

end SearchIndex
