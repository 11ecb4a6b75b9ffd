import SearchIndex.Proofs.Sorted
import SearchIndex.Schema.Field

/-!
# Definitions of fields are read back

Of the options that it is given a field keeps those that its type allows. Its definition names the field and its type
and has these options under the key of the type. Whatever a definition says is read back from it, in whichever order
the members come, and a field that is made again of what was read has the same definition.
-/

namespace SearchIndex

/-! ## Options -/

/-- The options that a field of the type may have. -/
def FieldType.allowed : FieldType → List String
  | literal => ["default_value", "facet_enabled", "search_enabled", "result_enabled"]
  | uint => ["default_value"]
  | text => ["default_value", "facet_enabled", "result_enabled"]

namespace FieldOptions

/-- The value of the option of a name, if it is set. -/
def value? (o : FieldOptions) : String → Option Json
  | "default_value" => o.defaultValue.map .string
  | "facet_enabled" => o.facetEnabled.map .bool
  | "search_enabled" => o.searchEnabled.map .bool
  | "result_enabled" => o.resultEnabled.map .bool
  | _ => none

/-- Those of the options of some names that are set, each with its value. -/
def listed (o : FieldOptions) (names : List String) : List (String × Json) :=
  names.filterMap fun name => (o.value? name).map (name, ·)

theorem toJson_eq (o : FieldOptions) : o.toJson = .object (o.listed members) := by
  obtain ⟨_ | _, _ | _, _ | _, _ | _⟩ := o <;> rfl

/-- A type takes away what it does not allow and leaves the rest as it is. -/
theorem value?_restrictedTo (o : FieldOptions) (type : FieldType) (name : String) :
    (o.restrictedTo type).value? name = if name ∈ type.allowed then o.value? name else none := by
  cases type <;> unfold value? restrictedTo FieldType.allowed <;> split <;> simp_all

/-- Options are told by their values. -/
theorem ext_value? {o o' : FieldOptions} (h : ∀ name, o.value? name = o'.value? name) : o = o' := by
  have string_inj : Function.Injective Json.string := fun _ _ => Json.string.inj
  have bool_inj : Function.Injective Json.bool := fun _ _ => Json.bool.inj
  obtain ⟨_, _, _, _⟩ := o
  obtain ⟨_, _, _, _⟩ := o'
  rw [mk.injEq]
  exact ⟨Option.map_injective string_inj (h "default_value"), Option.map_injective bool_inj (h "facet_enabled"),
    Option.map_injective bool_inj (h "search_enabled"), Option.map_injective bool_inj (h "result_enabled")⟩

theorem toJson_restrictedTo (o : FieldOptions) (type : FieldType) :
    (o.restrictedTo type).toJson = .object (o.listed type.allowed) := by
  obtain ⟨_ | _, _ | _, _ | _, _ | _⟩ := o <;> cases type <;> rfl

@[simp] theorem restrictedTo_restrictedTo (o : FieldOptions) (type : FieldType) :
    (o.restrictedTo type).restrictedTo type = o.restrictedTo type := by
  cases type <;> rfl

end FieldOptions

/-- What is left out if it is not set, and never null, is read back. -/
theorem Json.optional?_map {α : Type} {read : Json → Option α} {write : α → Json} (h : ∀ a, read (write a) = some a)
    (hnull : ∀ a, write a ≠ .null) (v : Option α) : optional? read (v.map write) = some v := by
  cases v with
  | none => rfl
  | some a =>
    rw [Option.map_some, optional?, h, Option.map_some]
    exact hnull a

namespace FieldOptions

variable {o : FieldOptions} {ms : List (String × Json)}

theorem nodup_listed (o : FieldOptions) {names : List String} (h : names.Nodup) : ((o.listed names).map (·.1)).Nodup := by
  rw [← List.map_id names] at h
  exact Sorted.nodup_filterMap h o.value?

theorem lookup_listed (o : FieldOptions) {names : List String} (h : names.Nodup) {name : String} (hn : name ∈ names) :
    (o.listed names).lookup name = o.value? name := by
  rw [← List.map_id names] at h
  exact Sorted.lookup_filterMap h hn

/-- Options are read back from their members, in whichever order these come. -/
theorem ofJson?_of_perm (hp : ms.Perm (o.listed members)) : ofJson? (.object ms) = some o := by
  have nodup : members.Nodup := by decide
  have found (name : String) (hn : name ∈ members) : ms.lookup name = o.value? name := by
    rw [Sorted.lookup_eq_of_perm (o.nodup_listed nodup) hp, o.lookup_listed nodup hn]
  have text (v : Option String) : Json.optional? Json.asString? (v.map .string) = some v :=
    Json.optional?_map (by intro; rfl) (by intro _ h; cases h) v
  have flag (v : Option Bool) : Json.optional? Json.asBool? (v.map .bool) = some v :=
    Json.optional?_map (by intro; rfl) (by intro _ h; cases h) v
  simp only [ofJson?, Json.record?, Option.bind_eq_bind, Option.bind_some, found _ (by decide : "default_value" ∈ members),
    found _ (by decide : "facet_enabled" ∈ members), found _ (by decide : "search_enabled" ∈ members),
    found _ (by decide : "result_enabled" ∈ members), value?, text, flag]
  rfl

end FieldOptions

/-! ## Definitions -/

theorem FieldType.named?_name (type : FieldType) : named? type.name = some type := by
  cases type <;> rfl

namespace FieldDefinition

/-- The members of a definition, the options with theirs in a given order. -/
def layout (d : FieldDefinition) (options : List (String × Json)) : List (String × Json) :=
  [("index_field_name", .string d.name), ("index_field_type", .string d.type.name),
    (d.optionsType.optionsKey, .object options)]

/-- `d.Written j`: the object `j` has the members of the definition, and the options theirs, in any order. -/
inductive Written (d : FieldDefinition) : Json → Prop
  | intro {options members} : options.Perm (d.options.listed FieldOptions.members) →
      members.Perm (d.layout options) → Written d (.object members)

theorem written_toJson (d : FieldDefinition) : d.Written d.toJson := by
  rw [toJson, FieldOptions.toJson_eq]
  exact .intro (.refl _) (.refl _)

/-- The three members have different names. -/
theorem nodup_layout (d : FieldDefinition) (options : List (String × Json)) : ((d.layout options).map (·.1)).Nodup := by
  obtain ⟨_, _, optionsType, _⟩ := d
  cases optionsType <;> simp [layout, FieldType.optionsKey]

/-- Of the keys of options only the one of the definition is there. -/
theorem lookup_optionsKey (d : FieldDefinition) (options : List (String × Json)) (type : FieldType) :
    (d.layout options).lookup type.optionsKey = if type = d.optionsType then some (.object options) else none := by
  obtain ⟨_, _, optionsType, _⟩ := d
  cases optionsType <;> cases type <;> rfl

theorem ofJson?_of_written {d : FieldDefinition} {j : Json} (h : d.Written j) : ofJson? j = some d := by
  obtain @⟨options, members, hp, hm⟩ := h
  have found (name : String) : members.lookup name = (d.layout options).lookup name :=
    Sorted.lookup_eq_of_perm (d.nodup_layout options) hm name
  have name : (d.layout options).lookup "index_field_name" = some (.string d.name) := rfl
  have type : (d.layout options).lookup "index_field_type" = some (.string d.type.name) := rfl
  have options : ([.literal, .text, .uint].findSome? fun type =>
      ((d.layout options).lookup type.optionsKey).map (type, ·)) = some (d.optionsType, .object options) := by
    simp only [lookup_optionsKey]
    cases d.optionsType <;> rfl
  simp only [ofJson?, found, name, type, options, Json.required?, Option.bind_some, Json.asString?, typeOfJson?,
    FieldType.named?_name]
  show ((FieldOptions.ofJson? _).bind fun options => some { d with options }) = some d
  rw [FieldOptions.ofJson?_of_perm hp, Option.bind_some]

end FieldDefinition

/-! ## Fields -/

/-- What a field is made of. Without a source it reads the member of its own name. -/
structure Declaration where
  name : String
  type : FieldType
  options : FieldOptions := {}
  source : Option Source := none

/-- The field that is declared. -/
def Declaration.field (d : Declaration) : Field :=
  { Field.new d.name d.type d.options with source := d.source.getD (.accessor d.name) }

/-- Making a field again of what its definition says gives this definition. -/
theorem Declaration.definition_new (d : Declaration) :
    (Field.new d.field.definition.name d.field.definition.type d.field.definition.options).definition =
      d.field.definition := by
  simp [Field.definition, Field.new, field]

theorem Field.ofTypeName_name (name : String) (type : FieldType) (options : FieldOptions) :
    ofTypeName name type.name options = .ok (new name type options) := by
  cases type <;> rfl

namespace FieldDefinition

/-- A definition is read back from its JSON, in whichever order the members stand, whether or not the options are
those of its type. The definition of a field, whatever the field is made of, has three members: the name, the type, and
under the key of the type just those options that were given and that the type allows. What is read back makes a field
with the same definition, be the type given by itself or by its name. -/
theorem definition_read_back :
    (∀ d : FieldDefinition, d.Written d.toJson ∧ ∀ j, d.Written j → ofJson? j = some d) ∧
    ∀ d : Declaration, d.field.definition.toJson = .object [("index_field_name", .string d.name),
        ("index_field_type", .string d.type.name), (d.type.optionsKey, .object (d.options.listed d.type.allowed))] ∧
      ["index_field_name", "index_field_type", d.type.optionsKey].Nodup ∧
      ∀ j, d.field.definition.Written j → ∃ read, ofJson? j = some read ∧ read = d.field.definition ∧
        (Field.new read.name read.type read.options).definition = read ∧
        ∃ f, Field.ofTypeName read.name read.type.name read.options = .ok f ∧ f.definition = read := by
  refine ⟨fun d => ⟨d.written_toJson, fun j => ofJson?_of_written⟩, fun d => ⟨?_, ?_, fun j hj => ?_⟩⟩
  · rw [← FieldOptions.toJson_restrictedTo]
    rfl
  · exact d.field.definition.nodup_layout []
  · have again := d.definition_new
    exact ⟨_, ofJson?_of_written hj, rfl, again, _, Field.ofTypeName_name _ _ _, again⟩

end FieldDefinition

end SearchIndex
