import SearchIndex.Proofs.Index.Coherence
import SearchIndex.Proofs.Registry.Basic

/-!
# Registries at work

Indexes are asked for, fields are added to them and they are worked with, in any order and over any service. What
a step does to the index of a key hangs on what is found there before, and on no other key. So an index that was
made stays: it keeps its name and its fields, and only work on it changes what it knows of its domain.
-/

namespace SearchIndex

/-- What holds of the index of a key in a registry with these settings. -/
structure Index.BelongsTo (settings : Settings) (key : IndexKey) (ix : Index) : Prop where
  /-- It has the name of its domain. -/
  name : domainName settings.domainPrefix key.owner key.qualifier = .ok ix.schema.name
  /-- Its first field is the identity field of the owner, which reads the member `id`. -/
  identity : ix.schema.fields.head? = some {
    name := identityField key.owner, type := .literal, source := .accessor "id",
    options := { searchEnabled := some true, resultEnabled := some true } }
  /-- No two of its fields have one name. -/
  distinct : (ix.schema.fields.map (·.name)).Nodup
  lang : ix.schema.lang = settings.lang
  initialBackoff : ix.schema.initialBackoff = settings.initialBackoff

namespace Registry

/-- What can be done with a registry and its indexes. -/
inductive Step where
  /-- Asks for the index of a key. -/
  | index (key : IndexKey)
  /-- Adds a field to the index of a key, which is asked for. -/
  | addField (key : IndexKey) (f : Field)
  /-- Works with the index of a key, if there is one. -/
  | work (key : IndexKey) (op : Operation)

namespace Step

/-- Whether the step asks for the index of a key. -/
def Asks (key : IndexKey) : Step → Prop
  | index k | addField k _ => k = key
  | work .. => False

/-- Whether the step works with the index of a key. -/
def WorksOn (key : IndexKey) : Step → Prop
  | work k _ => k = key
  | _ => False

/-- The field that the step would add to the index of a key. -/
def field? (key : IndexKey) : Step → Option Field
  | addField k f => if k = key then some f else none
  | _ => none

end Step

/-- A registry and the exchange after a step. -/
def step (service : Service) (s : Registry × Exchange) : Step → Registry × Exchange
  | .index key => ((s.1.openIndex key).2, s.2)
  | .addField key f => ((s.1.addField key f).2, s.2)
  | .work key op =>
    match s.1.get? key with
    | none => s
    | some ix => (s.1.put key (op.perform service ix s.2).1, (op.perform service ix s.2).2)

/-- The registry and the exchange after some steps. -/
def after (service : Service) (s : Registry × Exchange) (steps : List Step) : Registry × Exchange :=
  steps.foldl (step service) s

/-! ## What a step does to the index of a key -/

/-- What becomes of the index of `key` in a step, if it is `found` before. -/
def Step.turn (service : Service) (settings : Settings) (x : Exchange) (key : IndexKey) (found : Option Index) :
    Step → Option Index
  | .index k => if k = key then (opened settings key found).toOption else found
  | .addField k f =>
    if k = key then (opened settings key found).toOption.map fun ix => { ix with schema := ix.schema.withField f }
    else found
  | .work k op => if k = key then found.map fun ix => (op.perform service ix x).1 else found

variable {service : Service} {settings : Settings} {x : Exchange} {key : IndexKey} {s : Registry × Exchange}

theorem get?_step (service : Service) (s : Registry × Exchange) (st : Step) (key : IndexKey) :
    (step service s st).1.get? key = st.turn service s.1.settings s.2 key (s.1.get? key) := by
  cases st with
  | index k =>
    rw [step, get?_openIndex, Step.turn]
    by_cases h : k = key
    · simp [h]
    · simp [h, Ne.symm h]
  | addField k f =>
    rw [step, get?_addField, Step.turn]
    by_cases h : k = key
    · simp [h]
    · simp [h, Ne.symm h]
  | work k op =>
    rw [step, Step.turn]
    by_cases h : k = key
    · subst h
      cases hk : s.1.get? k with
      | none => simp [hk]
      | some ix => simp [get?_put]
    · cases s.1.get? k with
      | none => simp [h]
      | some ix => simp [get?_put, h, Ne.symm h]

@[simp] theorem step_settings (service : Service) (s : Registry × Exchange) (st : Step) :
    (step service s st).1.settings = s.1.settings := by
  cases st with
  | index k => exact openIndex_settings _ _
  | addField k f => exact addField_settings _ _ _
  | work k op =>
    rw [step]
    cases s.1.get? k <;> rfl

theorem Ordered.step (h : s.1.Ordered) (service : Service) (st : Step) : (step service s st).1.Ordered := by
  cases st with
  | index k => exact h.openIndex k
  | addField k f => exact h.addField k f
  | work k op =>
    rw [Registry.step]
    cases s.1.get? k with
    | none => exact h
    | some ix => exact h.put _ _

/-! ## What every index keeps -/

theorem newIndex_belongsTo {name : String} (h : domainName settings.domainPrefix key.owner key.qualifier = .ok name) :
    (newIndex settings key.owner name).BelongsTo settings key where
  name := h
  identity := rfl
  distinct := List.pairwise_singleton _ _
  lang := rfl
  initialBackoff := rfl

theorem opened_belongsTo {found : Option Index} {ix : Index} (h : ∀ ix, found = some ix → ix.BelongsTo settings key)
    (hix : (opened settings key found).toOption = some ix) : ix.BelongsTo settings key := by
  cases found with
  | some found => exact h ix hix
  | none =>
    rw [opened] at hix
    cases hname : domainName settings.domainPrefix key.owner key.qualifier with
    | error e => simp [hname, Except.map, Except.toOption] at hix
    | ok name =>
      rw [hname] at hix
      obtain rfl := Option.some.inj hix
      exact newIndex_belongsTo hname

theorem belongsTo_withField {ix : Index} (h : ix.BelongsTo settings key) (f : Field) :
    Index.BelongsTo settings key { ix with schema := ix.schema.withField f } := by
  have distinct : (ix.schema.withField f).Distinct := Schema.Distinct.withField h.distinct f
  rw [Schema.withField_eq] at distinct ⊢
  split at distinct
  · rename_i hf
    rw [if_pos hf]
    exact h
  · rename_i hf
    rw [if_neg hf]
    exact {
      name := h.name
      identity := by simp [List.head?_append, h.identity]
      distinct
      lang := h.lang
      initialBackoff := h.initialBackoff }

theorem belongsTo_withFields {ix : Index} (h : ix.BelongsTo settings key) (fs : List Field) :
    Index.BelongsTo settings key { ix with schema := fs.foldl Schema.withField ix.schema } := by
  induction fs generalizing ix with
  | nil => exact h
  | cons f fs ih => exact ih (belongsTo_withField h f)

/-- Only the schema counts. -/
theorem belongsTo_of_schema_eq {ix ix' : Index} (h : ix.BelongsTo settings key) (hs : ix'.schema = ix.schema) :
    ix'.BelongsTo settings key := by
  obtain ⟨schema, cache⟩ := ix'
  subst hs
  exact ⟨h.name, h.identity, h.distinct, h.lang, h.initialBackoff⟩

theorem turn_belongsTo {found : Option Index} {ix : Index} (h : ∀ ix, found = some ix → ix.BelongsTo settings key)
    (st : Step) (hix : st.turn service settings x key found = some ix) : ix.BelongsTo settings key := by
  cases st with
  | index k =>
    rw [Step.turn] at hix
    split at hix
    · exact opened_belongsTo h hix
    · exact h ix hix
  | addField k f =>
    rw [Step.turn] at hix
    split at hix
    · obtain ⟨ix₀, hix₀, rfl⟩ := Option.map_eq_some_iff.1 hix
      exact belongsTo_withField (opened_belongsTo h hix₀) f
    · exact h ix hix
  | work k op =>
    rw [Step.turn] at hix
    split at hix
    · obtain ⟨ix₀, hix₀, rfl⟩ := Option.map_eq_some_iff.1 hix
      exact belongsTo_of_schema_eq (h ix₀ hix₀) (op.schema_perform service ix₀ x)
    · exact h ix hix

/-- What holds of a registry after any run with these settings. -/
structure Sound (settings : Settings) (r : Registry) : Prop where
  configured : r.settings = settings
  ordered : r.Ordered
  belongs : ∀ key ix, r.get? key = some ix → ix.BelongsTo settings key

theorem sound_start (settings : Settings) : Sound settings { settings } :=
  ⟨rfl, fun _ => .nil, fun _ _ h => by cases h⟩

theorem Sound.step (h : s.1.Sound settings) (service : Service) (st : Step) :
    (step service s st).1.Sound settings where
  configured := by rw [step_settings, h.configured]
  ordered := h.ordered.step service st
  belongs key ix hix := by
    rw [get?_step, h.configured] at hix
    exact turn_belongsTo (h.belongs key) st hix

theorem Sound.after (h : s.1.Sound settings) (service : Service) (steps : List Step) :
    (after service s steps).1.Sound settings := by
  induction steps generalizing s with
  | nil => exact h
  | cons st steps ih => exact ih (h.step service st)

/-- So it is after any run from the empty registry. -/
theorem sound_after (service : Service) (settings : Settings) (x : Exchange) (steps : List Step) :
    (after service ({ settings }, x) steps).1.Sound settings :=
  (sound_start settings).after service steps

/-! ## Which indexes there are -/

/-- An index of the key was asked for in some step, and was given. -/
def Given (service : Service) (s : Registry × Exchange) (steps : List Step) (key : IndexKey) : Prop :=
  ∃ before st rest, steps = before ++ st :: rest ∧ st.Asks key ∧
    ∃ ix, ((after service s before).1.openIndex key).1 = .ok ix

variable {r : Registry}

/-- Asking for an index fails exactly if its domain has no name. -/
theorem Sound.openIndex_error_iff (h : r.Sound settings) (key : IndexKey) (e : SearchError) :
    (r.openIndex key).1 = .error e ↔ domainName settings.domainPrefix key.owner key.qualifier = .error e := by
  rw [openIndex_result, h.configured]
  cases hix : r.get? key with
  | some ix => simp [opened, (h.belongs key ix hix).name]
  | none => rw [opened, map_eq_error]

theorem Sound.openIndex_ok_iff (h : r.Sound settings) (key : IndexKey) :
    (∃ ix, (r.openIndex key).1 = .ok ix) ↔
      ∃ name, domainName settings.domainPrefix key.owner key.qualifier = .ok name := by
  have herror := h.openIndex_error_iff key
  cases hr : (r.openIndex key).1 with
  | error e => simp [(herror e).1 hr]
  | ok ix =>
    cases hd : domainName settings.domainPrefix key.owner key.qualifier with
    | error e => simp [(herror e).2 hd] at hr
    | ok name => simp

theorem Sound.opened_belongsTo (h : r.Sound settings) (hix : (r.openIndex key).1 = .ok ix) : ix.BelongsTo settings key := by
  rw [openIndex_result, h.configured] at hix
  exact Registry.opened_belongsTo (h.belongs key) (by rw [hix]; rfl)

theorem Sound.openIndex (h : r.Sound settings) (key : IndexKey) : (r.openIndex key).2.Sound settings where
  configured := by rw [openIndex_settings, h.configured]
  ordered := h.ordered.openIndex key
  belongs k ix hix := by
    rw [get?_openIndex, h.configured] at hix
    split at hix
    · rename_i hk
      subst hk
      exact Registry.opened_belongsTo (h.belongs k) hix
    · exact h.belongs k ix hix

theorem Sound.put (h : r.Sound settings) (hix : ix.BelongsTo settings key) : (r.put key ix).Sound settings where
  configured := h.configured
  ordered := h.ordered.put key ix
  belongs k ix' hix' := by
    rw [get?_put] at hix'
    split at hix'
    · rename_i hk
      cases hix'
      rw [hk]
      exact hix
    · exact h.belongs k ix' hix'

/-- What has become of the index of a key after some steps: it has the fields that it had, and those of the
steps that it did not refuse. Without work on it, it knows what it knew of its domain. -/
structure Survives (key : IndexKey) (steps : List Step) (ix ix' : Index) : Prop where
  schema : ix'.schema = (steps.filterMap (Step.field? key)).foldl Schema.withField ix.schema
  fields : ix.schema.fields <+: ix'.schema.fields
  cache : (∀ st ∈ steps, ¬ st.WorksOn key) → ix'.cache = ix.cache

theorem Survives.refl (key : IndexKey) (ix : Index) : Survives key [] ix ix :=
  ⟨rfl, List.prefix_rfl, fun _ => rfl⟩

theorem Survives.append {steps steps' : List Step} {ix ix' ix'' : Index} (h : Survives key steps ix ix')
    (h' : Survives key steps' ix' ix'') : Survives key (steps ++ steps') ix ix'' where
  schema := by rw [h'.schema, h.schema, List.filterMap_append, List.foldl_append]
  fields := h.fields.trans h'.fields
  cache hno := by
    rw [h'.cache fun st hst => hno st (List.mem_append_right _ hst),
      h.cache fun st hst => hno st (List.mem_append_left _ hst)]

/-- Every answer of the second registry is that of the first. -/
structure SameAnswers (r r' : Registry) : Prop where
  get? : ∀ key, r'.get? key = r.get? key
  search : ∀ key, r'.search key = r.search key
  indexesOf : ∀ owner, r'.indexesOf owner = r.indexesOf owner

theorem sameAnswers_enter (r : Registry) (owner : String) : SameAnswers r (r.enter owner) where
  get? := get?_enter r owner
  search key := by
    have hdomain : (r.enter owner).domain key = r.domain key := rfl
    rw [search_eq, search_eq, get?_enter, enter_settings, hdomain]
  indexesOf o := by rw [Registry.indexesOf, ofOwner_enter, Registry.indexesOf]

/-- Unless it makes an index, asking for one changes no answer. -/
theorem sameAnswers_openIndex {r : Registry} (key : IndexKey)
    (h : (∃ ix, r.get? key = some ix) ∨ ∃ e, (r.openIndex key).1 = .error e) :
    SameAnswers r (r.openIndex key).2 := by
  have entered : (r.openIndex key).2 = r.enter key.owner := by
    rw [openIndex_eq] at h ⊢
    cases hix : r.get? key with
    | some ix => rfl
    | none =>
      cases hd : r.domain key with
      | error e => rfl
      | ok name => simp [hix, hd] at h
  rw [entered]
  exact sameAnswers_enter r key.owner

/-- Putting an index where it is changes no answer. -/
theorem sameAnswers_put {r : Registry} {ix : Index} (h : r.Ordered) (hix : r.get? key = some ix) : SameAnswers r (r.put key ix) := by
  have get? (k : IndexKey) : (r.put key ix).get? k = r.get? k := by
    rw [get?_put]
    split
    · rename_i hk
      rw [hk, hix]
    · rfl
  refine ⟨get?, fun k => ?_, fun owner => ?_⟩
  · have hdomain : (r.put key ix).domain k = r.domain k := rfl
    have hsettings : (r.put key ix).settings = r.settings := rfl
    rw [search_eq, search_eq, get?, hdomain, hsettings]
  · rw [indexesOf, ofOwner_put, indexesOf]
    split
    · rename_i ho
      rw [Sorted.put_of_lookup (h owner) (by rw [ho]; exact hix)]
    · rfl

theorem SameAnswers.trans {r r' r'' : Registry} (h : SameAnswers r r') (h' : SameAnswers r' r'') : SameAnswers r r'' where
  get? key := (h'.get? key).trans (h.get? key)
  search key := (h'.search key).trans (h.search key)
  indexesOf owner := (h'.indexesOf owner).trans (h.indexesOf owner)

/-- The indexes of an owner by their qualifiers: none comes first, the others follow by their bytes, and each stands
once. -/
def Lists (r : Registry) (owner : String) (indexes : List Index) : Prop :=
  ∃ l : List (Option String × Index), indexes = l.map (·.2) ∧ l.Pairwise (fun a b => QualifierPrecedes a.1 b.1) ∧
    ∀ qualifier ix, (qualifier, ix) ∈ l ↔ r.get? { owner, qualifier } = some ix

end Registry

end SearchIndex
