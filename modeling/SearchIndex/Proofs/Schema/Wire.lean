import SearchIndex.Json.Record
import SearchIndex.Proofs.Sorted
import SearchIndex.Proofs.Text.Utf8Order
import SearchIndex.Schema.Document

/-!
# Operations are read back

Values of fields are written without a mark of what they are. Texts, natural numbers and lists never look alike, so
a value is read back from what it was written as, and a posted operation is read back from its members, in
whichever order they come.
-/

namespace SearchIndex

/-! ## Values of fields -/

/-- The JSON of field values: texts, natural numbers and arrays of such, with no null, boolean or object in it. -/
inductive Json.IsFieldForm : Json → Prop
  | text (s : String) : IsFieldForm (.string s)
  | uint (n : Nat) : IsFieldForm (.natural n)
  | list {items : List Json} : (∀ j ∈ items, IsFieldForm j) → IsFieldForm (.array items)

namespace FieldValue

mutual

theorem isFieldForm_toJson : (v : FieldValue) → v.toJson.IsFieldForm
  | .text s => .text s
  | .uint n => .uint n
  | .list items => .list (isFieldForm_of_mem_toItems items)

theorem isFieldForm_of_mem_toItems : (items : List FieldValue) → ∀ j ∈ toItems items, j.IsFieldForm
  | [], _, hj => by cases hj
  | v :: rest, j, hj => by
    rcases List.mem_cons.1 hj with rfl | hj
    · exact isFieldForm_toJson v
    · exact isFieldForm_of_mem_toItems rest j hj

end

mutual

theorem ofJson?_toJson : (v : FieldValue) → ofJson? v.toJson = some v
  | .text _ => rfl
  | .uint _ => rfl
  | .list items => by rw [toJson, ofJson?, ofItems_toItems items]

/-- Every element of a written list has a value, so none is left out. -/
theorem ofItems_toItems : (items : List FieldValue) → ofItems (toItems items) = items
  | [] => rfl
  | v :: rest => by simp only [toItems, ofItems, ofJson?_toJson v, ofItems_toItems rest]

end

end FieldValue

/-! ## Operations -/

namespace DocumentOperation

/-- The fields of an added document are a map: their names increase. -/
def HasMap : DocumentOperation → Prop
  | add _ _ _ fields => fields.Pairwise fun a b => a.1 < b.1
  | delete .. => True

/-- `op.Written j`: the object `j` has the members of the operation in any order. -/
inductive Written : DocumentOperation → Json → Prop
  | add {id version lang} {fields entries : List (String × FieldValue)} {members} : entries.Perm fields →
      members.Perm [("type", .string "add"), ("id", .string id), ("version", .natural version), ("lang", .string lang),
        ("fields", .object (entries.map fun e => (e.1, e.2.toJson)))] →
      Written (.add id version lang fields) (.object members)
  | delete {id version members} :
      members.Perm [("type", .string "delete"), ("id", .string id), ("version", .natural version)] →
      Written (.delete id version) (.object members)

/-- Reads the fields of a document, each as a field value. -/
def fieldsOfJson? : Json → Option (List (String × FieldValue))
  | .object members => do
    return Sorted.ofEntries (← members.mapM fun m => (FieldValue.ofJson? m.2).map (m.1, ·))
  | _ => none

/-- Reads an operation by its type. -/
def ofJson? (j : Json) : Option DocumentOperation := do
  let type ← Json.required? Json.asString? (j.member? "type")
  let id ← Json.required? Json.asString? (j.member? "id")
  let version ← Json.required? Json.asNatural? (j.member? "version")
  match type with
  | "add" =>
    let lang ← Json.required? Json.asString? (j.member? "lang")
    let fields ← Json.required? fieldsOfJson? (j.member? "fields")
    return .add id version lang fields
  | "delete" => return .delete id version
  | _ => none

theorem written_toJson (op : DocumentOperation) : op.Written op.toJson := by
  cases op with
  | add id version lang fields => exact .add (.refl fields) (.refl _)
  | delete id version => exact .delete (.refl _)

theorem mapM_written (entries : List (String × FieldValue)) :
    (entries.map fun e => (e.1, e.2.toJson)).mapM (fun m => (FieldValue.ofJson? m.2).map (m.1, ·)) = some entries := by
  induction entries with
  | nil => rfl
  | cons e entries ih =>
    rw [List.map_cons, List.mapM_cons, FieldValue.ofJson?_toJson, ih]
    rfl

theorem fieldsOfJson?_written {entries fields : List (String × FieldValue)}
    (hm : fields.Pairwise fun a b => a.1 < b.1) (hp : entries.Perm fields) :
    fieldsOfJson? (.object (entries.map fun e => (e.1, e.2.toJson))) = some fields := by
  rw [fieldsOfJson?, mapM_written]
  show some (Sorted.ofEntries entries) = some fields
  rw [Sorted.ofEntries_eq_of_perm (Sorted.nodup_keys hm) hp, Sorted.ofEntries_of_pairwise hm]

/-- A member of an object is found, in whichever order the members come. -/
theorem member?_of_perm {members layout : List (String × Json)} (hp : members.Perm layout)
    (h : (layout.map (·.1)).Nodup) (name : String) (value : Json) (hm : (name, value) ∈ layout) :
    (Json.object members).member? name = some value :=
  (Sorted.lookup_eq_some_iff_mem ((hp.map (·.1)).nodup_iff.2 h)).2 (hp.mem_iff.2 hm)

theorem ofJson?_of_written {op : DocumentOperation} (h : op.HasMap) {j : Json} (hj : op.Written j) :
    ofJson? j = some op := by
  cases hj with
  | @add id version lang fields entries members hp hm =>
    have found := member?_of_perm hm (by simp)
    rw [ofJson?, found "type" (.string "add") (by simp), found "id" (.string id) (by simp),
      found "version" (.natural version) (by simp), found "lang" (.string lang) (by simp),
      found "fields" (.object (entries.map fun e => (e.1, e.2.toJson))) (by simp)]
    simp only [Json.required?, Option.bind_some, fieldsOfJson?_written h hp]
    rfl
  | @delete id version members hm =>
    have found := member?_of_perm hm (by simp)
    rw [ofJson?, found "type" (.string "delete") (by simp), found "id" (.string id) (by simp),
      found "version" (.natural version) (by simp)]
    rfl

/-- An operation is read back from its JSON, in whichever order the members stand, so no other operation has this
JSON. Nothing but texts, natural numbers and lists of them stands in a field, and what was read as the value of a
field is read back from its own JSON. -/
theorem written_form_read_back (op : DocumentOperation) (h : op.HasMap) :
    op.Written op.toJson ∧ (∀ j, op.Written j → ofJson? j = some op) ∧
    (∀ op' : DocumentOperation, op'.HasMap → ∀ j, op.Written j → op'.Written j → op' = op) ∧
    (∀ id version lang fields, op = .add id version lang fields → ∀ e ∈ fields, e.2.toJson.IsFieldForm) ∧
    ∀ j v, FieldValue.ofJson? j = some v → FieldValue.ofJson? v.toJson = some v := by
  refine ⟨written_toJson op, fun j => ofJson?_of_written h, fun op' h' j hj hj' => ?_,
    fun id version lang fields _ e _ => e.2.isFieldForm_toJson, fun _ v _ => v.ofJson?_toJson⟩
  have same : some op' = some op := by rw [← ofJson?_of_written h' hj', ofJson?_of_written h hj]
  exact Option.some.inj same

/-- A list in a list, and the members of both objects in the opposite order. -/
theorem written_form_read_back_nested :
    let fields : List (String × FieldValue) :=
      [("body", .text "null"), ("tags", .list [.text "", .list [.uint 0, .list []]])]
    let members : List (String × Json) := [("type", .string "add"), ("id", .string "abc"), ("version", .natural 7),
      ("lang", .string "en"), ("fields", .object (fields.reverse.map fun e => (e.1, e.2.toJson)))]
    ofJson? (.object members.reverse) = some (.add "abc" 7 "en" fields) := by
  intro fields members
  have hmap : (add "abc" 7 "en" fields).HasMap := List.pairwise_pair.2 (by decide)
  have hwritten : (add "abc" 7 "en" fields).Written (.object members.reverse) :=
    .add (List.reverse_perm fields) (List.reverse_perm members)
  exact (written_form_read_back _ hmap).2.1 _ hwritten

end DocumentOperation

end SearchIndex
