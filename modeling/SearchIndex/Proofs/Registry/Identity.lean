import SearchIndex.CommandLine.Program
import SearchIndex.Proofs.Registry.Run
import SearchIndex.Proofs.Search.Identity
import SearchIndex.Service.Offline

/-!
# Documents say whose they are

The id of a record is written into its document as a field value, comes back as JSON in a hit, and is read from
there as a text. All three speak of the same id: the one that names the document.
-/

namespace SearchIndex

/-! ## Field values name what they were made of -/

/-- Making a field value of an id and writing it as JSON again may change the form, never the id. -/
theorem FieldValue.ofJson?_of_names {j : Json} {id : String} (h : j.Names id) :
    ∃ v, FieldValue.ofJson? j = some v ∧ v.isEmpty = false ∧ v.toJson.Names id := by
  cases h with
  | string => exact ⟨.text id, rfl, rfl, .string id⟩
  | bool b => exact ⟨.text (Json.boolText b), rfl, rfl, .string _⟩
  | number n =>
    match n with
    | .int (.ofNat n) => exact ⟨.uint n, rfl, rfl, .number (.int n)⟩
    -- every other number becomes a text
    | .int (.negSucc n) => exact ⟨.text (Json.Number.int (.negSucc n)).text, rfl, rfl, .string _⟩
    | .double x => exact ⟨.text (Json.Number.double x).text, rfl, rfl, .string _⟩

/-! ## Fields in the payload -/

/-- In the document of a record each field has its value for the record; one without a value is left out. -/
theorem Schema.lookup_addition {s : Schema} (h : (s.fields.map (·.name)).Nodup) (record : Json) (recordId : String)
    (version : Nat) : ∃ fields, s.addition record recordId version = .add (documentId recordId) version s.lang fields ∧
      ∀ f ∈ s.fields, fields.lookup f.name = (f.valueFor record).filter (! ·.isEmpty) := by
  refine ⟨_, rfl, fun f hf => ?_⟩
  rw [Sorted.lookup_ofEntries, ← List.filterMap_reverse]
  have hreverse : (s.fields.reverse.map (·.name)).Nodup := by
    rw [List.map_reverse, List.Nodup, List.pairwise_reverse]
    exact h.imp Ne.symm
  exact Sorted.lookup_filterMap hreverse (List.mem_reverse.2 hf)

/-! ## Whose a document is -/

/-- The id of a record, which is its member `id`. -/
theorem CommandLine.recordId?_eq {record j : Json} (hj : record.member? "id" = some j)
    (h : (∃ s, j = .string s) ∨ ∃ n, j = .number n) : ∃ id, CommandLine.recordId? record = some id ∧ j.Names id := by
  rcases h with ⟨s, rfl⟩ | ⟨n, rfl⟩
  · exact ⟨s, by rw [recordId?, hj], .string s⟩
  · exact ⟨n.text, by rw [recordId?, hj], .number n⟩

/-- In every index of an owner the identity field of a record's document has the value of its member `id`. -/
theorem Index.BelongsTo.lookup_identity {settings : Settings} {key : IndexKey} {ix : Index}
    (h : ix.BelongsTo settings key) (record : Json) (recordId : String) (version : Nat) :
    ∃ fields, ix.schema.addition record recordId version = .add (documentId recordId) version ix.schema.lang fields ∧
      fields.lookup (identityField key.owner) =
        ((record.member? "id").bind FieldValue.ofJson?).filter (! ·.isEmpty) := by
  obtain ⟨fields, hadd, hfields⟩ := Schema.lookup_addition h.distinct record recordId version
  have hfield := hfields _ (List.mem_of_head? h.identity)
  simp only [Field.valueFor, Source.value] at hfield
  exact ⟨fields, hadd, hfield⟩

namespace Registry

/-- A record whose member `id` is a text or a number is written into every index of an owner under an id that comes
back from a hit: the document, which the id names and by which it is deleted, has the identity field, and from a
hit that shows the value of this field, by itself or as the first of several, every materializer reads that id. -/
theorem written_identity_is_read_back (service : Service) (settings : Settings) (x : Exchange) (steps : List Step)
    (key : IndexKey) (ix : Index) (record j : Json) (version : Nat)
    (hix : (after service ({ settings }, x) steps).1.get? key = some ix)
    (hj : record.member? "id" = some j) (htype : (∃ s, j = .string s) ∨ ∃ n, j = .number n) :
    ∃ id fields v, CommandLine.recordId? record = some id ∧
      ix.schema.addition record id version = .add (documentId id) version ix.schema.lang fields ∧
      Schema.deletion id version = .delete (documentId id) version ∧
      fields.lookup (identityField key.owner) = some v ∧
      ∀ (α : Type) (loader : Loader α), ∃ m,
        (after service ({ settings }, x) steps).1.materializer key loader = .ok m ∧
        m.identityField = identityField key.owner ∧
        ∀ hit : Hit, (hit.data.lookup (identityField key.owner) = some v.toJson ∨
            ∃ rest, hit.data.lookup (identityField key.owner) = some (.array (v.toJson :: rest))) →
          hit.identity? m.identityField = some id := by
  have sound := sound_after service settings x steps
  obtain ⟨id, hrecord, hnames⟩ := CommandLine.recordId?_eq hj htype
  obtain ⟨v, hv, hfull, hback⟩ := FieldValue.ofJson?_of_names hnames
  obtain ⟨fields, hadd, hfield⟩ := (sound.belongs key ix hix).lookup_identity record id version
  refine ⟨id, fields, v, hrecord, hadd, by rw [Schema.deletion], by simp [hfield, hj, hv, hfull], fun α loader => ?_⟩
  obtain ⟨m, hm, hidentity⟩ := materializer_of_found hix loader
  refine ⟨m, hm, hidentity, fun hit hshows => ?_⟩
  rw [hidentity]
  rcases hshows with hval | ⟨rest, hval⟩
  · exact (Hit.Identity.value hval hback).identity?
  · exact (Hit.Identity.first hval hback).identity?

/-- A negative number, and a hit that shows it as the first of several values. -/
theorem written_identity_is_read_back_negative :
    let ix := newIndex {} "review" "review"
    let record : Json := .object [("stars", .natural 5), ("id", .number (.int (-7)))]
    ∃ id fields v, CommandLine.recordId? record = some id ∧
      ix.schema.addition record id 3 = .add (documentId id) 3 ix.schema.lang fields ∧
      fields.lookup (identityField "review") = some v ∧
      Hit.identity? { data := [(identityField "review", .array [v.toJson, .null])] } (identityField "review") = some id := by
  obtain ⟨id, fields, v, hid, hadd, -, hv, hread⟩ := written_identity_is_read_back .offline {} {}
    [.index { owner := "review" }] { owner := "review" } (newIndex {} "review" "review")
    (.object [("stars", .natural 5), ("id", .number (.int (-7)))]) (.number (.int (-7))) 3
    (by rfl) (by rfl) (.inr ⟨_, rfl⟩)
  obtain ⟨m, -, hm, hhit⟩ := hread Nat { load := fun _ _ => .ok (.many []) }
  rw [hm] at hhit
  exact ⟨id, fields, v, hid, hadd, hv, hhit _ (.inr ⟨[.null], by simp⟩)⟩

end Registry

end SearchIndex
