import SearchIndex.Schema.Basic

/-!
# The fields of a schema

Fields are added one by one. A field whose name is there is refused, so no two fields of a schema have one name,
and fields with different names stand in the order in which they were added.
-/

namespace SearchIndex.Schema

variable {s : Schema} {f : Field} {name : String} {additions : List Field}

theorem hasField_iff : s.hasField name ↔ name ∈ s.fields.map (·.name) := by
  simp [hasField, field?, List.find?_isSome]

/-- The schema with a field more, unless it is refused. -/
def withField (s : Schema) (f : Field) : Schema :=
  match s.addField f with
  | .ok s => s
  | .error _ => s

/-- A field is refused if one of its name is there. -/
theorem withField_eq (s : Schema) (f : Field) : s.withField f =
    if f.name ∈ s.fields.map (·.name) then s else { s with fields := s.fields ++ [f] } := by
  rw [withField, addField]
  by_cases h : s.hasField f.name
  · rw [if_pos h, if_pos (hasField_iff.1 h)]
  · rw [if_neg h, if_neg (mt hasField_iff.2 h)]

/-- The first field is never refused. -/
theorem addField_of_no_fields (s : Schema) (f : Field) (h : s.fields = []) :
    s.addField f = .ok { s with fields := [f] } := by
  simp [addField, hasField, field?, h]

/-! ## Many additions -/

/-- The names of the fields differ. -/
def Distinct (s : Schema) : Prop := (s.fields.map (·.name)).Nodup

theorem distinct_of_no_fields (h : s.fields = []) : s.Distinct := by
  rw [Distinct, h]
  exact .nil

theorem Distinct.withField (h : s.Distinct) (f : Field) : (s.withField f).Distinct := by
  rw [withField_eq]
  split
  · exact h
  · rename_i hf
    rw [Distinct, List.map_append, List.map_singleton]
    exact List.nodup_append.2 ⟨h, List.pairwise_singleton _ _, by simpa using hf⟩

theorem Distinct.withFields (h : s.Distinct) (additions : List Field) :
    (additions.foldl Schema.withField s).Distinct := by
  induction additions generalizing s with
  | nil => exact h
  | cons f additions ih => exact ih (h.withField f)

/-- Whatever is added, nothing but the fields changes. -/
theorem withFields_eq (s : Schema) (additions : List Field) :
    ∃ fields, additions.foldl withField s = { s with fields } := by
  induction additions generalizing s with
  | nil => exact ⟨s.fields, rfl⟩
  | cons f additions ih =>
    obtain ⟨fields, h⟩ := ih (s.withField f)
    refine ⟨fields, h.trans ?_⟩
    rw [withField_eq]
    split <;> rfl

theorem lang_withFields (s : Schema) (additions : List Field) : (additions.foldl withField s).lang = s.lang := by
  obtain ⟨fields, h⟩ := withFields_eq s additions
  rw [h]

/-- Of fields with different names none is refused. -/
theorem withFields_of_distinct (h : ((s.fields ++ additions).map (·.name)).Nodup) :
    additions.foldl withField s = { s with fields := s.fields ++ additions } := by
  induction additions generalizing s with
  | nil => rw [List.append_nil]; rfl
  | cons f additions ih =>
    have hf : f.name ∉ s.fields.map (·.name) := by
      intro hmem
      rw [List.map_append, List.nodup_append] at h
      exact h.2.2 _ hmem _ List.mem_cons_self rfl
    have hadded : s.withField f = { s with fields := s.fields ++ [f] } := by rw [withField_eq, if_neg hf]
    rw [List.foldl_cons, hadded, ih (by simpa using h)]
    simp

theorem fields_withFields (hs : s.fields = []) (h : (additions.map (·.name)).Nodup) :
    (additions.foldl withField s).fields = additions := by
  rw [withFields_of_distinct (by simpa [hs] using h), hs, List.nil_append]

end SearchIndex.Schema
