import Mathlib.Data.List.Induction
import Mathlib.Data.List.Nodup
import SearchIndex.Proofs.Schema.Definition
import SearchIndex.Proofs.Schema.Table

/-!
# Fields are found by their names

Of the declarations of one name the first counts: the later ones are refused and change nothing. So the fields stand in
the order in which their names first came, and a name finds the field that was first declared under it. A table that
keeps the place of each name beside the fields answers the same and never points beside them.
-/

namespace SearchIndex

namespace Schema

variable {s : Schema} {f : Field} {ds : List Declaration} {name : String} {e : SearchError}

/-! ## Adding a field -/

theorem hasField_eq_true_iff : s.hasField name ↔ ∃ f, s.field? name = some f := by
  rw [hasField, Option.isSome_iff_exists]

theorem addField_eq_error_iff :
    s.addField f = .error e ↔ s.hasField f.name ∧ e = .duplicateField s.name f.name := by
  rw [addField]
  by_cases h : s.hasField f.name
  · rw [if_pos h, Except.error.injEq, and_iff_right h, eq_comm]
  · rw [if_neg h]
    exact iff_of_false (by simp) fun h' => h h'.1

theorem exists_addField_iff : (∃ s', s.addField f = .ok s') ↔ ¬ s.hasField f.name := by
  rw [addField]
  by_cases h : s.hasField f.name
  · rw [if_pos h]
    exact iff_of_false (by simp) fun h' => h' h
  · rw [if_neg h]
    exact iff_of_true ⟨_, rfl⟩ h

theorem withField_of_hasField (h : s.hasField f.name) : s.withField f = s := by
  rw [withField_eq, if_pos (hasField_iff.1 h)]

@[simp] theorem name_withField (s : Schema) (f : Field) : (s.withField f).name = s.name := by
  rw [withField_eq]
  split <;> rfl

/-- A new field is found under a name under which none was found before. -/
theorem field?_withField (s : Schema) (f : Field) (name : String) :
    (s.withField f).field? name = (s.field? name).or (if f.name = name then some f else none) := by
  by_cases h : s.hasField f.name
  · rw [withField_of_hasField h]
    split
    · rename_i hname
      subst hname
      obtain ⟨g, hg⟩ := hasField_eq_true_iff.1 h
      rw [hg, Option.some_or]
    · rw [Option.or_none]
  · rw [withField_eq, if_neg (mt hasField_iff.2 h), field?, List.find?_append, ← field?, List.find?_singleton]
    simp only [decide_eq_true_eq]

/-- Where names differ, each finds its field. -/
theorem Distinct.field?_of_mem (h : s.Distinct) (hf : f ∈ s.fields) : s.field? f.name = some f := by
  obtain ⟨g, hg⟩ := hasField_eq_true_iff.1 (hasField_iff.2 (List.mem_map_of_mem hf))
  have hname : g.name = f.name := by simpa using List.find?_some hg
  rw [hg, List.inj_on_of_nodup_map h (List.mem_of_find?_eq_some hg) hf hname]

/-! ## Many declarations -/

/-- The schema after some declarations, without those that it refused. -/
def declared (s : Schema) (ds : List Declaration) : Schema := (ds.map Declaration.field).foldl withField s

theorem declared_concat (s : Schema) (ds : List Declaration) (d : Declaration) :
    s.declared (ds ++ [d]) = (s.declared ds).withField d.field := by
  rw [declared, List.map_append, List.foldl_append]
  rfl

theorem distinct_declared (hs : s.fields = []) (ds : List Declaration) : (s.declared ds).Distinct :=
  (distinct_of_no_fields hs).withFields _

@[simp] theorem name_declared (s : Schema) (ds : List Declaration) : (s.declared ds).name = s.name := by
  induction ds using List.reverseRecOn with
  | nil => rfl
  | append_singleton ds d ih => rw [declared_concat, name_withField, ih]

/-- The first declaration of a name counts. -/
theorem field?_declared (hs : s.fields = []) (ds : List Declaration) (name : String) :
    (s.declared ds).field? name = (ds.find? (·.name = name)).map Declaration.field := by
  induction ds using List.reverseRecOn with
  | nil => simp [declared, field?, hs]
  | append_singleton ds d ih =>
    have hname : d.field.name = d.name := rfl
    rw [declared_concat, field?_withField, ih, List.find?_append, List.find?_singleton, hname]
    by_cases h : d.name = name
    · cases ds.find? (·.name = name) <;> simp [h]
    · simp [h]

theorem hasField_declared_iff (hs : s.fields = []) : (s.declared ds).hasField name ↔ ∃ d ∈ ds, d.name = name := by
  rw [hasField, field?_declared hs, Option.isSome_map, List.find?_isSome]
  simp

theorem names_declared (hs : s.fields = []) (ds : List Declaration) :
    (s.declared ds).fields.map (·.name) = (ds.map (·.name)).eraseDups := by
  induction ds using List.reverseRecOn with
  | nil => simp [declared, hs]
  | append_singleton ds d ih =>
    have hmem : d.field.name ∈ (s.declared ds).fields.map (·.name) ↔ d.name ∈ ds.map (·.name) := by
      rw [ih, List.mem_eraseDups]
      rfl
    rw [declared_concat, withField_eq, List.map_append, List.eraseDups_append, List.map_singleton]
    by_cases h : d.name ∈ ds.map (·.name)
    · have hnone : [d.name].removeAll (ds.map (·.name)) = [] := by simpa [List.removeAll] using h
      rw [if_pos (hmem.2 h), ih, hnone, List.eraseDups_nil, List.append_nil]
    · have hnew : [d.name].removeAll (ds.map (·.name)) = [d.name] := by simpa [List.removeAll] using h
      rw [if_neg (mt hmem.1 h), List.map_append, ih, hnew]
      rfl

end Schema

/-! ## Fields with their places -/

/-- Fields in their order, and where the field of each name stands. -/
structure FieldTable where
  fields : List Field := []
  places : List (String × Nat) := []

namespace FieldTable

/-- The field of a name, taken from its place. -/
def field? (t : FieldTable) (name : String) : Option Field := (t.places.lookup name).bind (t.fields[·]?)

/-- Adds a field at the end and writes down its place. -/
def addField (t : FieldTable) (domain : String) (f : Field) : Except SearchError FieldTable :=
  if (t.places.lookup f.name).isSome then .error (.duplicateField domain f.name)
  else .ok { fields := t.fields ++ [f], places := Sorted.put f.name t.fields.length t.places }

/-- The table with a field more, unless it is refused. -/
def withField (domain : String) (t : FieldTable) (f : Field) : FieldTable :=
  match t.addField domain f with
  | .ok t => t
  | .error _ => t

/-- The table has the fields of the schema, and each name has the place of the first field that has it. -/
structure InStep (t : FieldTable) (s : Schema) : Prop where
  fields : t.fields = s.fields
  places : ∀ name, t.places.lookup name = s.fields.findIdx? (·.name = name)

variable {t : FieldTable} {s : Schema} {f : Field}

theorem InStep.field?_eq (h : t.InStep s) (name : String) : t.field? name = s.field? name := by
  rw [field?, h.places, h.fields, Schema.field?, List.find?_eq_bind_findIdx?_getElem?]

/-- At every place that is written down stands a field of that name. -/
theorem InStep.exists_getElem? (h : t.InStep s) {name : String} {i : Nat} (hi : t.places.lookup name = some i) :
    ∃ f, t.fields[i]? = some f ∧ f.name = name := by
  rw [h.places] at hi
  obtain ⟨hlt, hname, -⟩ := List.findIdx?_eq_some_iff_getElem.1 hi
  exact ⟨s.fields[i], by rw [h.fields, List.getElem?_eq_getElem hlt], by simpa using hname⟩

theorem InStep.isSome_lookup (h : t.InStep s) (name : String) : (t.places.lookup name).isSome = s.hasField name := by
  rw [h.places, List.findIdx?_isSome, Schema.hasField, Schema.field?, List.isSome_find?]

theorem InStep.addField_error_iff (h : t.InStep s) {e : SearchError} :
    t.addField s.name f = .error e ↔ s.addField f = .error e := by
  rw [addField, Schema.addField, h.isSome_lookup]
  split
  · rw [Except.error.injEq, Except.error.injEq]
  · exact iff_of_false (by simp) (by simp)

theorem InStep.withField (h : t.InStep s) (f : Field) : (t.withField s.name f).InStep (s.withField f) := by
  unfold FieldTable.withField addField
  rw [h.isSome_lookup]
  by_cases hf : s.hasField f.name
  · rw [if_pos hf, Schema.withField_of_hasField hf]
    exact h
  · rw [if_neg hf, Schema.withField_eq, if_neg (mt Schema.hasField_iff.2 hf)]
    refine ⟨congrArg (· ++ [f]) h.fields, fun name => ?_⟩
    rw [List.findIdx?_append, ← h.places]
    by_cases hname : name = f.name
    · subst hname
      have hnone : t.places.lookup f.name = none := by
        rw [← Option.not_isSome_iff_eq_none, h.isSome_lookup]
        exact hf
      rw [Sorted.lookup_put_self, hnone, h.fields]
      simp
    · rw [Sorted.lookup_put_of_ne hname]
      simp [Ne.symm hname]

/-- Whatever is added, the places stay in step with the fields. -/
theorem InStep.withFields (h : t.InStep s) (fs : List Field) :
    (fs.foldl (FieldTable.withField s.name) t).InStep (fs.foldl Schema.withField s) := by
  induction fs generalizing t s with
  | nil => exact h
  | cons f fs ih =>
    have ih := ih (h.withField f)
    rw [Schema.name_withField] at ih
    exact ih

theorem inStep_of_no_fields (hs : s.fields = []) : InStep {} s :=
  ⟨hs.symm, fun name => by rw [hs]; rfl⟩

end FieldTable

namespace Schema

/-- However fields are declared for a schema that has none yet, their names differ and stand in the order in which they
first came, and so do their definitions. A name finds a field exactly if a declaration of it was taken, and then what
was first declared under it. A declaration is refused exactly if its name is there, and then nothing changes. Every
field has the options that were given and that its type allows, with their values, and no others. All this is so too if
the place of each name is kept beside the fields: the places are those of the fields, and every answer is the same. -/
theorem first_declarations_kept (s : Schema) (hs : s.fields = []) (ds : List Declaration) :
    let built := s.declared ds
    let table (ds : List Declaration) : FieldTable := (ds.map Declaration.field).foldl (FieldTable.withField s.name) {}
    ((built.fields.map (·.name)).Nodup ∧ built.fields.map (·.name) = (ds.map (·.name)).eraseDups ∧
      built.definitions.map (·.name) = (ds.map (·.name)).eraseDups) ∧
    (∀ name f, built.field? name = some f ↔ ∃ before d rest, ds = before ++ d :: rest ∧ d.name = name ∧ d.field = f ∧
      (∃ s', (s.declared before).addField d.field = .ok s') ∧ ∀ d' ∈ before, d'.name ≠ name) ∧
    (∀ name, built.hasField name ↔ ∃ before d rest, ds = before ++ d :: rest ∧ d.name = name ∧
      ∃ s', (s.declared before).addField d.field = .ok s') ∧
    (∀ before d rest, ds = before ++ d :: rest →
      (∀ e, (s.declared before).addField d.field = .error e ↔
        (s.declared before).hasField d.name ∧ e = .duplicateField s.name d.name) ∧
      ((s.declared before).hasField d.name → s.declared (before ++ [d]) = s.declared before) ∧
      ∀ e, (table before).addField s.name d.field = .error e ↔ (s.declared before).addField d.field = .error e) ∧
    (∀ f ∈ built.fields, built.field? f.name = some f ∧ ∃ d ∈ ds, d.field = f ∧ f.name = d.name ∧ f.type = d.type ∧
      ∀ option, f.options.value? option = if option ∈ f.type.allowed then d.options.value? option else none) ∧
    (table ds).fields = built.fields ∧ (∀ name, (table ds).field? name = built.field? name) ∧
    ∀ name i, (table ds).places.lookup name = some i → ∃ f, (table ds).fields[i]? = some f ∧ f.name = name := by
  intro built table
  have distinct : built.Distinct := distinct_declared hs ds
  have names : built.fields.map (·.name) = (ds.map (·.name)).eraseDups := names_declared hs ds
  have inStep (ds : List Declaration) : (table ds).InStep (s.declared ds) :=
    (FieldTable.inStep_of_no_fields hs).withFields _
  have taken_iff (before : List Declaration) (d : Declaration) :
      (∃ s', (s.declared before).addField d.field = .ok s') ↔ ∀ d' ∈ before, d'.name ≠ d.name := by
    rw [exists_addField_iff, hasField_declared_iff hs]
    exact ⟨fun h d' hd' hname => h ⟨d', hd', hname⟩, fun h ⟨d', hd', hname⟩ => h d' hd' hname⟩
  have found_iff (name : String) (f : Field) : built.field? name = some f ↔
      ∃ before d rest, ds = before ++ d :: rest ∧ d.name = name ∧ d.field = f ∧
        (∃ s', (s.declared before).addField d.field = .ok s') ∧ ∀ d' ∈ before, d'.name ≠ name := by
    rw [field?_declared hs, Option.map_eq_some_iff]
    simp only [List.find?_eq_some_iff_append, decide_eq_true_eq, Bool.not_eq_true', decide_eq_false_iff_not, taken_iff]
    constructor
    · rintro ⟨d, ⟨rfl, before, rest, hds, hbefore⟩, rfl⟩
      exact ⟨before, d, rest, hds, rfl, rfl, hbefore, hbefore⟩
    · rintro ⟨before, d, rest, hds, rfl, rfl, hbefore, -⟩
      exact ⟨d, ⟨rfl, before, rest, hds, hbefore⟩, rfl⟩
  refine ⟨⟨distinct, names, ?_⟩, found_iff, fun name => ?_, fun before d rest hds => ⟨fun e => ?_, fun h => ?_, fun e => ?_⟩,
    fun f hf => ?_, (inStep ds).fields, (inStep ds).field?_eq, fun name i => (inStep ds).exists_getElem?⟩
  · rw [← names, definitions, List.map_map]
    rfl
  · rw [hasField_eq_true_iff]
    constructor
    · rintro ⟨f, hf⟩
      obtain ⟨before, d, rest, hds, hname, -, htaken, -⟩ := (found_iff name f).1 hf
      exact ⟨before, d, rest, hds, hname, htaken⟩
    · rintro ⟨before, d, rest, hds, rfl, htaken⟩
      exact ⟨d.field, (found_iff _ _).2 ⟨before, d, rest, hds, rfl, rfl, htaken, (taken_iff before d).1 htaken⟩⟩
  · rw [addField_eq_error_iff, name_declared]
    rfl
  · rw [declared_concat, withField_of_hasField h]
  · have h := (inStep before).addField_error_iff (f := d.field) (e := e)
    rwa [name_declared] at h
  · have hfound := distinct.field?_of_mem hf
    obtain ⟨before, d, rest, hds, -, rfl, -⟩ := (found_iff _ _).1 hfound
    exact ⟨hfound, d, by simp [hds], rfl, rfl, rfl, d.options.value?_restrictedTo d.type⟩

/-- The second field `stars` is refused, and the option of the first that its type does not allow is left out. -/
theorem first_declarations_kept_reviews :
    let ds : List Declaration := [{ name := "stars", type := .uint, options := { defaultValue := some "0", facetEnabled := some true } },
      { name := "body", type := .text }, { name := "stars", type := .literal }]
    let built := declared { name := "reviews" } ds
    built.fields.map (·.name) = ["stars", "body"] ∧ ∃ f, built.field? "stars" = some f ∧ f.type = .uint ∧
      f.options.value? "default_value" = some (.string "0") ∧ f.options.value? "facet_enabled" = none := by
  intro ds built
  obtain ⟨⟨-, names, -⟩, found, -, -, kept, -⟩ := first_declarations_kept { name := "reviews" } rfl ds
  have hfound : built.field? "stars" = some (Declaration.field ds[0]) :=
    (found _ _).2 ⟨[], ds[0], ds.tail, rfl, rfl, rfl, ⟨_, rfl⟩, by simp⟩
  obtain ⟨-, d, -, hd, -, -, options⟩ := kept _ (List.mem_of_find?_eq_some hfound)
  refine ⟨names, _, hfound, rfl, ?_, ?_⟩
  · rfl
  · exact options "facet_enabled"

end Schema

end SearchIndex
