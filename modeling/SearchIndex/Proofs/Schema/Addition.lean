import SearchIndex.Proofs.Schema.Table
import SearchIndex.Proofs.Sorted
import SearchIndex.Proofs.Text.Utf8Order

/-!
# What the document of a record holds

The document has the value of each field that has one for the record, empty lists apart, and nothing else. As the
names of the fields differ, no value takes the place of another, and the order of the fields does not matter. Its id
is a digest, of one length and in hexadecimal digits whatever the id of the record is.
-/

namespace SearchIndex

/-! ## Ids -/

namespace Digest

theorem length_md5Bytes (bytes : List UInt8) : (md5Bytes bytes).length = 16 := by
  simp [md5Bytes, littleEndian]

theorem toList_md5 (s : String) : (md5 s).toList = (md5Bytes s.toUTF8.toList).flatMap fun b =>
    [Nat.digitChar (b.toNat / 16), Nat.digitChar (b.toNat % 16)] := by
  rw [md5, String.toList_join]
  simp [hexByte, List.flatMap_map]

theorem digitChar_mem {n : Nat} (h : n < 16) : Nat.digitChar n ∈ "0123456789abcdef".toList := by
  decide +revert

end Digest

/-- The id of a document has thirty-two hexadecimal digits in lower case. -/
theorem documentId_hexadecimal (recordId : String) :
    (documentId recordId).length = 32 ∧ ∀ c ∈ (documentId recordId).toList, c ∈ "0123456789abcdef".toList := by
  rw [documentId, ← String.length_toList, Digest.toList_md5]
  constructor
  · simp [List.length_flatMap, List.map_const', Digest.length_md5Bytes]
  · intro c hc
    obtain ⟨b, -, hc⟩ := List.mem_flatMap.1 hc
    have hb : b.toNat < 256 := b.toNat_lt
    rcases List.mem_cons.1 hc with rfl | hc
    · exact Digest.digitChar_mem (by omega)
    · rw [List.mem_singleton.1 hc]
      exact Digest.digitChar_mem (by omega)

/-- A digest that is known. -/
example : documentId "hello" = "5d41402abc4b2a76b9719d911017c592" := by cbv

/-! ## Values -/

theorem FieldValue.isEmpty_iff {value : FieldValue} : value.isEmpty ↔ value = .list [] := by
  cases value with
  | text s => simp [isEmpty]
  | uint n => simp [isEmpty]
  | list items => cases items <;> simp [isEmpty]

namespace Schema

variable {s s' : Schema} {additions additions' : List Field} {name : String} {value : FieldValue}

/-- The values that are written for a record, each with the name of its field. -/
def written (s : Schema) (record : Json) : List (String × FieldValue) :=
  s.fields.filterMap fun f => ((f.valueFor record).filter (! ·.isEmpty)).map (f.name, ·)

theorem addition_eq (s : Schema) (record : Json) (recordId : String) (version : Nat) :
    s.addition record recordId version =
      .add (documentId recordId) version s.lang (Sorted.ofEntries (s.written record)) :=
  rfl

theorem mem_written_iff (record : Json) : (name, value) ∈ s.written record ↔
    ∃ f ∈ s.fields, f.name = name ∧ f.valueFor record = some value ∧ value ≠ .list [] := by
  have kept_iff (f : Field) : (f.valueFor record).filter (! ·.isEmpty) = some value ↔
      f.valueFor record = some value ∧ value ≠ .list [] := by
    rw [Option.filter_eq_some_iff, Bool.not_eq_true', ← Bool.not_eq_true, FieldValue.isEmpty_iff]
  constructor
  · intro h
    obtain ⟨f, hf, h⟩ := List.mem_filterMap.1 h
    obtain ⟨v, hv, h⟩ := Option.map_eq_some_iff.1 h
    cases h
    exact ⟨f, hf, rfl, (kept_iff f).1 hv⟩
  · rintro ⟨f, hf, rfl, hv⟩
    exact List.mem_filterMap.2 ⟨f, hf, Option.map_eq_some_iff.2 ⟨value, (kept_iff f).2 hv, rfl⟩⟩

/-- Every name is written once at most. -/
theorem Distinct.written (h : s.Distinct) (record : Json) : ((s.written record).map (·.1)).Nodup :=
  Sorted.nodup_filterMap h _

/-- Schemas with the same fields in another order write the same document. -/
theorem Distinct.addition_eq_of_perm (h : s.Distinct) (hf : s'.fields.Perm s.fields) (hl : s'.lang = s.lang)
    (record : Json) (recordId : String) (version : Nat) :
    s'.addition record recordId version = s.addition record recordId version := by
  have hw : (s'.written record).Perm (s.written record) := hf.filterMap _
  rw [addition_eq, addition_eq, hl, Sorted.ofEntries_eq_of_perm (h.written record) hw]

/-- The document of a record has each value of its fields under the name of the field, an empty list apart, and
nothing else; it has the id and the version with which it is deleted. Of fields with different names none is
refused, and then a schema to which they were added in another order writes the same document. -/
theorem addition_holds_values (s : Schema) (hs : s.fields = []) (additions : List Field) (record : Json)
    (recordId : String) (version : Nat) :
    let built := additions.foldl withField s
    let document := built.addition record recordId version
    (∃ fields, document = .add (documentId recordId) version s.lang fields ∧ (fields.map (·.1)).Nodup ∧
      ∀ name value, (name, value) ∈ fields ↔
        ∃ f ∈ built.fields, f.name = name ∧ f.valueFor record = some value ∧ value ≠ .list []) ∧
    document.id = (deletion recordId version).id ∧ document.version = (deletion recordId version).version ∧
    ((additions.map (·.name)).Nodup → built.fields = additions ∧
      ∀ (s' : Schema) (additions' : List Field), s'.fields = [] → s'.lang = s.lang → additions'.Perm additions →
        (additions'.foldl withField s').addition record recordId version = document) := by
  intro built document
  have distinct : built.Distinct := (distinct_of_no_fields hs).withFields additions
  refine ⟨⟨Sorted.ofEntries (built.written record), ?_, ?_, fun name value => ?_⟩, rfl, rfl,
    fun h => ⟨fields_withFields hs h, ?_⟩⟩
  · rw [← lang_withFields s additions]
    rfl
  · exact Sorted.nodup_keys (Sorted.pairwise_ofEntries _)
  · rw [(Sorted.perm_ofEntries (distinct.written record)).mem_iff, mem_written_iff]
  · intro s' additions' hs' hl hp
    refine distinct.addition_eq_of_perm ?_ ?_ record recordId version
    · rw [fields_withFields hs' ((hp.map _).nodup_iff.2 h), fields_withFields hs h]
      exact hp
    · rw [lang_withFields, lang_withFields, hl]

/-- The second field `stars` is refused; a zero and an empty text are written, an empty list is not. -/
theorem addition_holds_values_reviews :
    let additions : List Field := [.new "stars" .uint {}, .new "body" .text {},
      { Field.new "stars" .literal {} with source := .computed fun _ => some (.text "none") }, .new "tags" .literal {}]
    let record : Json := .object [("stars", .natural 0), ("body", .string ""), ("tags", .array [])]
    ∃ fields,
      (additions.foldl withField { name := "reviews" }).addition record "r" 3 = .add (documentId "r") 3 "en" fields ∧
      ("stars", .uint 0) ∈ fields ∧ ("body", .text "") ∈ fields ∧ ∀ value, ("tags", value) ∉ fields := by
  intro additions record
  have built : (additions.foldl withField { name := "reviews" }).fields =
      [.new "stars" .uint {}, .new "body" .text {}, .new "tags" .literal {}] := by rfl
  obtain ⟨⟨fields, hadd, -, hmem⟩, -⟩ := addition_holds_values { name := "reviews" } rfl additions record "r" 3
  have stars : (Field.new "stars" .uint {}).valueFor record = some (.uint 0) := by rfl
  have body : (Field.new "body" .text {}).valueFor record = some (.text "") := by rfl
  have tags : (Field.new "tags" .literal {}).valueFor record = some (.list []) := by rfl
  have named (name : String) (type : FieldType) : (Field.new name type {}).name = name := rfl
  simp only [built, List.mem_cons, List.not_mem_nil, or_false, exists_eq_or_imp, exists_eq_left, named, stars, body,
    tags, Option.some.injEq] at hmem
  refine ⟨fields, hadd, (hmem _ _).2 (.inl ⟨rfl, rfl, by simp⟩), (hmem _ _).2 (.inr (.inl ⟨rfl, rfl, by simp⟩)),
    fun value h => ?_⟩
  rcases (hmem _ _).1 h with ⟨h, -⟩ | ⟨h, -⟩ | ⟨-, rfl, h⟩
  · simp at h
  · simp at h
  · exact h rfl

end Schema

end SearchIndex
