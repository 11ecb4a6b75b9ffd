import SearchIndex.Search.Materializer

/-!
# The ids of hits

A hit gives an id if the value of its identity field, or the first one if the value is an array, is a text, a
number or a boolean. The ids of a list of hits stand in its order, and only the hits that give none are left out.
-/

namespace SearchIndex

/-- The value says an id. -/
inductive Json.Names : Json → String → Prop
  | string (s : String) : Names (.string s) s
  | number (n : Number) : Names (.number n) n.text
  | bool (b : Bool) : Names (.bool b) (boolText b)

namespace Hit

/-- The id that a hit gives. -/
inductive Identity (h : Hit) (field : String) : String → Prop
  | value {j id} : h.data.lookup field = some j → j.Names id → Identity h field id
  | first {j rest id} : h.data.lookup field = some (.array (j :: rest)) → j.Names id → Identity h field id

/-- A hit that gives no id. -/
inductive Anonymous (h : Hit) (field : String) : Prop
  | missing : h.data.lookup field = none → Anonymous h field
  | null : h.data.lookup field = some .null → Anonymous h field
  | empty : h.data.lookup field = some (.array []) → Anonymous h field
  | object {members} : h.data.lookup field = some (.object members) → Anonymous h field
  | firstNull {rest} : h.data.lookup field = some (.array (.null :: rest)) → Anonymous h field
  | firstArray {items rest} : h.data.lookup field = some (.array (.array items :: rest)) → Anonymous h field
  | firstObject {members rest} : h.data.lookup field = some (.array (.object members :: rest)) → Anonymous h field

end Hit

/-- The ids that hits give, one after the other. -/
inductive Identified (field : String) : List Hit → List String → Prop
  | nil : Identified field [] []
  | take {h hits id ids} : h.Identity field id → Identified field hits ids → Identified field (h :: hits) (id :: ids)
  | skip {h hits ids} : h.Anonymous field → Identified field hits ids → Identified field (h :: hits) ids

namespace Hit

variable {h : Hit} {field id : String}

theorem Identity.identity? (hid : h.Identity field id) : h.identity? field = some id := by
  rcases hid with ⟨hv, hj⟩ | ⟨hv, hj⟩ <;> cases hj <;> rw [Hit.identity?, first?, hv] <;> rfl

theorem Anonymous.identity? (ha : h.Anonymous field) : h.identity? field = none := by
  rcases ha with hv | hv | hv | hv | hv | hv | hv <;> rw [Hit.identity?, first?, hv] <;> rfl

/-- Every hit either gives an id or is one of those that give none. -/
theorem identity_or_anonymous (h : Hit) (field : String) : (∃ id, h.Identity field id) ∨ h.Anonymous field := by
  match hv : h.data.lookup field with
  | none => exact .inr (.missing hv)
  | some .null => exact .inr (.null hv)
  | some (.string s) => exact .inl ⟨_, .value hv (.string s)⟩
  | some (.number n) => exact .inl ⟨_, .value hv (.number n)⟩
  | some (.bool b) => exact .inl ⟨_, .value hv (.bool b)⟩
  | some (.object _) => exact .inr (.object hv)
  | some (.array []) => exact .inr (.empty hv)
  | some (.array (.null :: _)) => exact .inr (.firstNull hv)
  | some (.array (.string s :: _)) => exact .inl ⟨_, .first hv (.string s)⟩
  | some (.array (.number n :: _)) => exact .inl ⟨_, .first hv (.number n)⟩
  | some (.array (.bool b :: _)) => exact .inl ⟨_, .first hv (.bool b)⟩
  | some (.array (.array _ :: _)) => exact .inr (.firstArray hv)
  | some (.array (.object _ :: _)) => exact .inr (.firstObject hv)

end Hit

/-- The ids of a list of hits are those that its hits give. -/
theorem identified_iff {field : String} {hits : List Hit} {ids : List String} :
    Identified field hits ids ↔ ids = hits.filterMap fun h => h.identity? field := by
  constructor
  · intro h
    induction h with
    | nil => rfl
    | take hid _ ih => simp [hid.identity?, ih]
    | skip ha _ ih => simp [ha.identity?, ih]
  · rintro rfl
    induction hits with
    | nil => exact .nil
    | cons h hits ih =>
      rcases h.identity_or_anonymous field with ⟨id, hid⟩ | ha
      · rw [List.filterMap_cons, hid.identity?]
        exact .take hid ih
      · rw [List.filterMap_cons, ha.identity?]
        exact .skip ha ih

end SearchIndex
