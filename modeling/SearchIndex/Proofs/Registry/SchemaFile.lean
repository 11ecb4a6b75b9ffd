import SearchIndex.Proofs.History
import SearchIndex.Proofs.Registry.Run
import SearchIndex.Proofs.Schema.Lookup
import SearchIndex.SchemaFile
import SearchIndex.Service.Offline

/-!
# What registering a schema file does

The entries of a file are added to its index one by one, up to the first whose type is none or whose name is there. The
fields before it stay, so what is left after a failure is told by the file and the fields that were there. Nothing else
in the registry changes.
-/

namespace SearchIndex

/-! ## Entries -/

namespace FieldEntry

variable {e : FieldEntry} {f : Field} {names : List String} {before : List FieldEntry}

/-- The field is what the entry describes: it has the name, the type that is spelled, the source or else the member of
its name, and of the options those that the type allows. -/
structure Describes (e : FieldEntry) (f : Field) : Prop where
  name : f.name = e.name
  type : FieldType.parse? e.type = some f.type
  source : f.source = .accessor (e.source.getD e.name)
  options : ∀ option, f.options.value? option = if option ∈ f.type.allowed then e.options.value? option else none

/-- After the entries `before` an entry is taken into fields of these names: its type is one and its name is new. -/
def Admitted (names : List String) (before : List FieldEntry) (e : FieldEntry) : Prop :=
  (∃ type, FieldType.parse? e.type = some type) ∧ e.name ∉ names ++ before.map (·.name)

/-- Why an entry is refused. Its type is looked at first. -/
def refusal (domain : String) (e : FieldEntry) : SearchError :=
  match FieldType.parse? e.type with
  | none => .invalidFieldType e.type
  | some _ => .duplicateField domain e.name

theorem refusal_of_type {type : FieldType} (h : FieldType.parse? e.type = some type) (domain : String) :
    e.refusal domain = .duplicateField domain e.name := by
  rw [refusal, h]

/-- An entry describes no more than one field. -/
theorem Describes.unique {f' : Field} (h : e.Describes f) (h' : e.Describes f') : f = f' := by
  have htype : f.type = f'.type := Option.some.inj (h.type.symm.trans h'.type)
  have hoptions : f.options = f'.options := FieldOptions.ext_value? fun option => by
    rw [h.options, h'.options, htype]
  obtain ⟨name, type, source, options⟩ := f
  rw [Field.mk.injEq]
  exact ⟨h.name.trans h'.name.symm, htype, h.source.trans h'.source.symm, hoptions⟩

theorem describes_of_type (type : FieldType) (h : FieldType.parse? e.type = some type) :
    e.Describes ⟨e.name, type, .accessor (e.source.getD e.name), e.options.restrictedTo type⟩ :=
  ⟨rfl, h, rfl, e.options.value?_restrictedTo type⟩

theorem toField_of_type {type : FieldType} (h : FieldType.parse? e.type = some type) :
    ∃ f, e.toField = .ok f ∧ e.Describes f := by
  refine ⟨_, ?_, describes_of_type type h⟩
  simp only [toField, Field.ofTypeName, FieldType.parse, h]
  cases e.source <;> rfl

theorem toField_of_no_type (h : FieldType.parse? e.type = none) : e.toField = .error (.invalidFieldType e.type) := by
  simp only [toField, Field.ofTypeName, FieldType.parse, h]
  rfl

/-- Once a field of a name was added, the name counts as one that was there before. -/
theorem admitted_concat (names : List String) (e : FieldEntry) (before : List FieldEntry) (e' : FieldEntry) :
    Admitted (names ++ [e.name]) before e' ↔ Admitted names (e :: before) e' := by
  rw [Admitted, Admitted, List.map_cons, List.append_assoc, List.singleton_append]

end FieldEntry

/-! ## Adding entries -/

/-- The names of a schema's fields. -/
def Schema.names (s : Schema) : List String := s.fields.map (·.name)

/-- The schema with some fields more at the end. -/
def Schema.extended (s : Schema) (added : List Field) : Schema := { s with fields := s.fields ++ added }

@[simp] theorem Schema.extended_nil (s : Schema) : s.extended [] = s := by
  rw [extended, List.append_nil]

@[simp] theorem Schema.extended_extended (s : Schema) (added added' : List Field) :
    (s.extended added).extended added' = s.extended (added ++ added') := by
  simp [extended]

theorem Schema.names_extended (s : Schema) (added : List Field) :
    (s.extended added).names = s.names ++ added.map (·.name) := by
  rw [names, extended, List.map_append, names]

namespace SchemaFile

variable {s : Schema} {e : FieldEntry} {entries : List FieldEntry} {o : Except SearchError Unit × Schema}

theorem addEntries_of_ok {s' : Schema} (h : e.toField.bind s.addField = .ok s') (entries : List FieldEntry) :
    addEntries (e :: entries) s = addEntries entries s' := by
  conv =>
    lhs
    unfold addEntries
  rw [h]

theorem addEntries_of_error {err : SearchError} (h : e.toField.bind s.addField = .error err)
    (entries : List FieldEntry) : addEntries (e :: entries) s = (.error err, s) := by
  unfold addEntries
  rw [h]

theorem addEntries_of_admitted (h : e.Admitted s.names []) (entries : List FieldEntry) :
    ∃ f, e.Describes f ∧ addEntries (e :: entries) s = addEntries entries (s.extended [f]) := by
  obtain ⟨⟨type, htype⟩, hname⟩ := h
  obtain ⟨f, hf, hdescribes⟩ := FieldEntry.toField_of_type htype
  have hnew : ¬ s.hasField f.name := by
    rw [Schema.hasField_iff, hdescribes.name]
    rwa [List.map_nil, List.append_nil] at hname
  refine ⟨f, hdescribes, addEntries_of_ok ?_ entries⟩
  rw [hf, Except.bind, Schema.addField, if_neg hnew, Schema.extended]

theorem addEntries_of_not_admitted (h : ¬ e.Admitted s.names []) (entries : List FieldEntry) :
    addEntries (e :: entries) s = (.error (e.refusal s.name), s) := by
  refine addEntries_of_error ?_ entries
  unfold FieldEntry.refusal
  rcases Option.eq_none_or_eq_some (FieldType.parse? e.type) with htype | ⟨type, htype⟩
  · rw [FieldEntry.toField_of_no_type htype, htype, Except.bind]
  · obtain ⟨f, hf, hdescribes⟩ := FieldEntry.toField_of_type htype
    have hthere : s.hasField f.name := by
      rw [Schema.hasField_iff, hdescribes.name]
      by_contra hname
      exact h ⟨⟨type, htype⟩, by rwa [List.map_nil, List.append_nil]⟩
    rw [hf, htype, Except.bind, Schema.addField, if_pos hthere, hdescribes.name]

/-- How entries are added to a schema: all of them, or those before the first that is refused. -/
inductive Adds (s : Schema) (entries : List FieldEntry) (o : Except SearchError Unit × Schema) : Prop
  | all {added} : EachAfter (FieldEntry.Admitted s.names) entries → List.Forall₂ FieldEntry.Describes entries added →
      o = (.ok (), s.extended added) → Adds s entries o
  | stopped {before e after added} : entries = before ++ e :: after → EachAfter (FieldEntry.Admitted s.names) before →
      ¬ e.Admitted s.names before → List.Forall₂ FieldEntry.Describes before added →
      o = (.error (e.refusal s.name), s.extended added) → Adds s entries o

theorem addEntries_adds (entries : List FieldEntry) (s : Schema) : Adds s entries (addEntries entries s) := by
  induction entries generalizing s with
  | nil => exact .all (eachAfter_nil _) .nil (by rw [Schema.extended_nil]; rfl)
  | cons e entries ih =>
    by_cases h : e.Admitted s.names []
    · obtain ⟨f, hf, hadd⟩ := addEntries_of_admitted h entries
      have later (before : List FieldEntry) (e' : FieldEntry) :
          e'.Admitted (s.extended [f]).names before ↔ e'.Admitted s.names (e :: before) := by
        rw [Schema.names_extended, List.map_singleton, hf.name, FieldEntry.admitted_concat]
      rw [hadd]
      cases ih (s.extended [f]) with
      | all hentries hadded ho =>
        refine .all (eachAfter_cons h (hentries.mono fun before e' _ => (later before e').1)) (.cons hf hadded) ?_
        rw [ho, Schema.extended_extended, List.singleton_append]
      | @stopped before e' after added hsplit hbefore hrefused hadded ho =>
        refine .stopped (congrArg (e :: ·) hsplit) (eachAfter_cons h (hbefore.mono fun before e' _ => (later before e').1))
          (mt (later before e').2 hrefused) (.cons hf hadded) ?_
        rw [ho, Schema.extended_extended, List.singleton_append]
        rfl
    · rw [addEntries_of_not_admitted h]
      exact .stopped (List.nil_append _).symm (eachAfter_nil _) h .nil (by rw [Schema.extended_nil])

theorem Adds.ok_iff (h : Adds s entries o) : o.1 = .ok () ↔ EachAfter (FieldEntry.Admitted s.names) entries := by
  cases h with
  | all hentries _ ho => exact iff_of_true (by rw [ho]) hentries
  | stopped hsplit _ hrefused _ ho => exact iff_of_false (by rw [ho]; nofun) fun h => hrefused (h _ _ _ hsplit)

theorem Adds.of_ok (h : Adds s entries o) (hok : o.1 = .ok ()) :
    ∃ added, List.Forall₂ FieldEntry.Describes entries added ∧ o.2 = s.extended added := by
  cases h with
  | all _ hadded ho => exact ⟨_, hadded, congrArg Prod.snd ho⟩
  | stopped _ _ _ _ ho =>
    rw [ho] at hok
    cases hok

theorem Adds.of_error (h : Adds s entries o) {err : SearchError} (herr : o.1 = .error err) :
    ∃ before e after added, entries = before ++ e :: after ∧ EachAfter (FieldEntry.Admitted s.names) before ∧
      ¬ e.Admitted s.names before ∧ List.Forall₂ FieldEntry.Describes before added ∧ o.2 = s.extended added ∧
      err = e.refusal s.name := by
  cases h with
  | all _ _ ho =>
    rw [ho] at herr
    cases herr
  | stopped hsplit hbefore hrefused hadded ho =>
    rw [ho] at herr
    exact ⟨_, _, _, _, hsplit, hbefore, hrefused, hadded, congrArg Prod.snd ho, (Except.error.inj herr).symm⟩

/-- The fields are added like any others, those that are refused left out. -/
theorem addEntries_schema (entries : List FieldEntry) (s : Schema) :
    ∃ fs : List Field, (addEntries entries s).2 = fs.foldl Schema.withField s := by
  induction entries generalizing s with
  | nil => exact ⟨[], rfl⟩
  | cons e entries ih =>
    by_cases h : e.Admitted s.names []
    · obtain ⟨f, hf, hadd⟩ := addEntries_of_admitted h entries
      have hnew : f.name ∉ s.fields.map (·.name) := by
        rw [hf.name]
        have hname := h.2
        rwa [List.map_nil, List.append_nil] at hname
      obtain ⟨fs, hfs⟩ := ih (s.extended [f])
      refine ⟨f :: fs, ?_⟩
      rw [hadd, hfs, List.foldl_cons, Schema.withField_eq, if_neg hnew]
      rfl
    · exact ⟨[], by rw [addEntries_of_not_admitted h]; rfl⟩

end SchemaFile

/-! ## The fields of an index -/

namespace Registry

variable {settings : Settings} {r : Registry} {key : IndexKey} {ix : Index}

/-- The fields of the index of a key. A new index has the identity field of its owner. -/
def fieldsOf (r : Registry) (key : IndexKey) : List Field :=
  match r.get? key with
  | some ix => ix.schema.fields
  | none => [identity key.owner]

theorem fields_of_opened (h : (r.openIndex key).1 = .ok ix) : ix.schema.fields = r.fieldsOf key := by
  rw [openIndex_result] at h
  unfold fieldsOf
  cases hix : r.get? key with
  | some ix' =>
    rw [hix] at h
    cases h
    rfl
  | none =>
    rw [hix, opened, map_eq_ok] at h
    obtain ⟨name, -, rfl⟩ := h
    rfl

end Registry

/-! ## Registering a file -/

namespace SchemaFile

variable {settings : Settings} {r : Registry} {file : SchemaFile} {ix : Index} {e : SearchError}

open Registry

theorem register_of_error (h : (r.openIndex file.key).1 = .error e) :
    file.register r = (.error e, (r.openIndex file.key).2) := by
  rw [register]
  rcases ho : r.openIndex file.key with ⟨e' | ix, r'⟩ <;> rw [ho] at h <;> cases h
  rfl

theorem register_of_ok (h : (r.openIndex file.key).1 = .ok ix) :
    file.register r = ((addEntries file.fields ix.schema).1,
      (r.openIndex file.key).2.put file.key { ix with schema := (addEntries file.fields ix.schema).2 }) := by
  rw [register]
  rcases ho : r.openIndex file.key with ⟨e' | ix', r'⟩ <;> rw [ho] at h <;> cases h
  rfl

theorem get?_register (h : (r.openIndex file.key).1 = .ok ix) (key : IndexKey) : (file.register r).2.get? key =
    if key = file.key then some { ix with schema := (addEntries file.fields ix.schema).2 } else r.get? key := by
  rw [register_of_ok h, get?_put]
  split
  · rfl
  · rename_i hk
    rw [get?_openIndex, if_neg hk]

theorem get?_register_of_ne {key : IndexKey} (h : key ≠ file.key) : (file.register r).2.get? key = r.get? key := by
  cases ho : (r.openIndex file.key).1 with
  | error e => rw [register_of_error ho, get?_openIndex, if_neg h]
  | ok ix => rw [get?_register ho, if_neg h]

theorem register_sound (h : r.Sound settings) (file : SchemaFile) : (file.register r).2.Sound settings := by
  cases ho : (r.openIndex file.key).1 with
  | error e =>
    rw [register_of_error ho]
    exact h.openIndex _
  | ok ix =>
    obtain ⟨fs, hfs⟩ := addEntries_schema file.fields ix.schema
    rw [register_of_ok ho, hfs]
    exact (h.openIndex _).put (belongsTo_withFields (h.opened_belongsTo ho) fs)

/-- If the first entry is refused by an index that is there, no answer changes. -/
theorem register_of_refused (h : r.Ordered) (hix : r.get? file.key = some ix) {entry : FieldEntry}
    {rest : List FieldEntry} (hfields : file.fields = entry :: rest) (hrefused : ¬ entry.Admitted ix.schema.names []) :
    (file.register r).1 = .error (entry.refusal ix.schema.name) ∧ SameAnswers r (file.register r).2 := by
  have ho : (r.openIndex file.key).1 = .ok ix := by
    rw [openIndex_result, hix]
    rfl
  have hget : (r.openIndex file.key).2.get? file.key = some ix := by rw [get?_openIndex, if_pos rfl, hix]; rfl
  rw [register_of_ok ho, hfields, addEntries_of_not_admitted hrefused]
  exact ⟨rfl, (sameAnswers_openIndex file.key (.inl ⟨ix, hix⟩)).trans (sameAnswers_put (h.openIndex _) hget)⟩

/-- Registering a file fails and changes no answer if the domain of its index has no name. Otherwise it succeeds exactly
if each entry has a type that is one and a name that is neither among the fields that were there nor in an earlier entry;
the index has then the fields that were there and one as each entry describes, in their order. If it fails, it has
those of the entries before the first that is refused, and the error says why this one is. A file with a field that was
registered is refused from then on, and nothing changes. No other index is touched, and the registry is as sound as
before. -/
theorem register_adds_until_refused (h : r.Sound settings) (file : SchemaFile) :
    let key : IndexKey := { owner := file.owner, qualifier := file.qualifier }
    let names := (r.fieldsOf key).map (·.name)
    let o := file.register r
    (∀ e, r.domain key = .error e → o.1 = .error e ∧ SameAnswers r o.2) ∧
    (∀ domain, r.domain key = .ok domain → ∃ ix, (r.openIndex key).1 = .ok ix ∧
      ix.schema.fields = r.fieldsOf key ∧ ix.schema.name = domain ∧
      (o.1 = .ok () ↔ EachAfter (FieldEntry.Admitted names) file.fields) ∧
      (o.1 = .ok () → ∃ added, List.Forall₂ FieldEntry.Describes file.fields added ∧
        o.2.get? key = some { ix with schema := ix.schema.extended added }) ∧
      (∀ e, o.1 = .error e → ∃ before entry after added, file.fields = before ++ entry :: after ∧
        EachAfter (FieldEntry.Admitted names) before ∧ ¬ entry.Admitted names before ∧
        List.Forall₂ FieldEntry.Describes before added ∧
        o.2.get? key = some { ix with schema := ix.schema.extended added } ∧ e = entry.refusal domain) ∧
      ∀ entry rest, file.fields = entry :: rest → o.1 = .ok () →
        (file.register o.2).1 = .error (.duplicateField domain entry.name) ∧ SameAnswers o.2 (file.register o.2).2) ∧
    (∀ key', key' ≠ key → o.2.get? key' = r.get? key') ∧ o.2.Sound settings := by
  intro key names o
  have sound : o.2.Sound settings := register_sound h file
  refine ⟨fun e he => ?_, fun domain hdomain => ?_, fun key' => get?_register_of_ne, sound⟩
  · rw [domain, h.configured] at he
    have ho := (h.openIndex_error_iff key e).2 he
    refine ⟨by rw [show o = _ from register_of_error ho], ?_⟩
    rw [show o = _ from register_of_error ho]
    exact sameAnswers_openIndex key (.inr ⟨e, ho⟩)
  · rw [Registry.domain, h.configured] at hdomain
    obtain ⟨ix, ho⟩ := (h.openIndex_ok_iff key).2 ⟨domain, hdomain⟩
    have hname : ix.schema.name = domain := by
      have hix := (h.opened_belongsTo ho).name
      rw [hdomain] at hix
      exact (Except.ok.inj hix).symm
    have hnames : ix.schema.names = names := congrArg (List.map Field.name) (fields_of_opened ho)
    have result : o.1 = (addEntries file.fields ix.schema).1 := congrArg Prod.fst (register_of_ok ho)
    have found : o.2.get? key = some { ix with schema := (addEntries file.fields ix.schema).2 } :=
      (get?_register ho key).trans (if_pos rfl)
    have adds := addEntries_adds file.fields ix.schema
    refine ⟨ix, ho, fields_of_opened ho, hname, ?_, fun hok => ?_, fun e he => ?_, fun entry rest hfields hok => ?_⟩
    · rw [result, adds.ok_iff, hnames]
    · obtain ⟨added, hadded, hschema⟩ := adds.of_ok (result.symm.trans hok)
      exact ⟨added, hadded, by rw [found, hschema]⟩
    · obtain ⟨before, entry, after, added, hsplit, hbefore, hrefused, hadded, hschema, herr⟩ :=
        adds.of_error (result.symm.trans he)
      rw [hnames] at hbefore hrefused
      rw [hname] at herr
      exact ⟨before, entry, after, added, hsplit, hbefore, hrefused, hadded, by rw [found, hschema], herr⟩
    · have hok := result.symm.trans hok
      obtain ⟨⟨type, htype⟩, -⟩ := adds.ok_iff.1 hok [] entry rest hfields
      obtain ⟨added, hadded, hschema⟩ := adds.of_ok hok
      rw [hschema] at found
      rw [hfields] at hadded
      obtain ⟨f, later, hf, -, rfl⟩ := List.forall₂_cons_left_iff.1 hadded
      have hthere : ¬ entry.Admitted (ix.schema.extended (f :: later)).names [] := by
        rintro ⟨-, hnew⟩
        rw [Schema.names_extended, List.map_cons, hf.name] at hnew
        simp at hnew
      have again := register_of_refused sound.ordered found hfields hthere
      rwa [FieldEntry.refusal_of_type htype, Schema.extended, hname] at again

/-- A file with two fields of the recent reviews. The second has an option that its type does not allow. -/
def reviews : SchemaFile where
  owner := "review"
  qualifier := some "recent"
  fields := [
    { name := "author", type := "literal", source := some "login", options := { facetEnabled := some true } },
    { name := "stars", type := " Uint ", options := { defaultValue := some "3", searchEnabled := some true } }]

/-- The fields are added to the one that a new index has, and cannot be added again. The owner has no other index. -/
theorem register_adds_until_refused_reviews :
    let key : IndexKey := { owner := "review", qualifier := some "recent" }
    let o := reviews.register {}
    o.1 = .ok () ∧
    o.2.fieldsOf key = [identity "review",
      { name := "author", type := .literal, source := .accessor "login", options := { facetEnabled := some true } },
      { name := "stars", type := .uint, source := .accessor "stars", options := { defaultValue := some "3" } }] ∧
    o.2.get? { owner := "review" } = none ∧
    (reviews.register o.2).1 = .error (.duplicateField "review-recent" "author") := by
  intro key o
  obtain ⟨-, named, others, -⟩ := register_adds_until_refused (sound_start {}) reviews
  obtain ⟨ix, -, hfields, -, -, succeeded, -, again⟩ := named "review-recent" rfl
  obtain ⟨added, hadded, found⟩ := succeeded rfl
  refine ⟨rfl, ?_, others { owner := "review" } (by decide), (again _ _ rfl rfl).1⟩
  obtain ⟨_, _, author, hrest, rfl⟩ := List.forall₂_cons_left_iff.1 hadded
  obtain ⟨_, _, stars, hnil, rfl⟩ := List.forall₂_cons_left_iff.1 hrest
  cases hnil
  rw [author.unique (FieldEntry.describes_of_type .literal rfl),
    stars.unique (FieldEntry.describes_of_type .uint rfl)] at found
  rw [fieldsOf, show o.2.get? key = _ from found]
  exact congrArg (· ++ _) hfields

/-- Before an entry without a type the field is added, and after it nothing is looked at. -/
example :
    let file : SchemaFile := { owner := "review", fields :=
      [{ name := "author", type := "literal" }, { name := "stars", type := "double" }, { name := "author", type := "text" }] }
    (file.register {}).1 = .error (.invalidFieldType "double") ∧
      ((file.register {}).2.fieldsOf file.key).map (·.name) = ["review_id", "author"] :=
  ⟨rfl, rfl⟩

end SchemaFile

end SearchIndex
