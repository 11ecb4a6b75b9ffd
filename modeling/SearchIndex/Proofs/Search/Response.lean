import SearchIndex.Proofs.Results
import SearchIndex.Search.Response

/-!
# What a body says

A body says a response member by member: a member that is absent has its default, one of another name says nothing,
and lists keep their order. This is stated apart from the reader, which then gives a response exactly if the body
says it.
-/

namespace SearchIndex

variable {α : Type} {R : α → Json → Prop} {read : Json → Option α}

/-! ## Members of records -/

namespace Json

/-- The members of a record: those of an object, or an array of them in the order of the names, which may end early. -/
inductive Members (names : List String) : Json → List (String × Json) → Prop
  | object (members : List (String × Json)) : Members names (.object members) members
  | array {items} : items.length ≤ names.length → Members names (.array items) (names.zip items)

/-- A member says a value. If it is absent this is the default. -/
inductive Member (R : α → Json → Prop) (default : α) : Option Json → α → Prop
  | absent : Member R default none default
  | present {a j} : R a j → Member R default (some j) a

/-- A member says a value, or none if it is absent or null. -/
inductive OptionalMember (R : α → Json → Prop) : Option Json → Option α → Prop
  | absent : OptionalMember R none none
  | null : OptionalMember R (some .null) none
  | present {a j} : j ≠ .null → R a j → OptionalMember R (some j) (some a)

def IsText (s : String) (j : Json) : Prop := j = .string s

def IsNatural (n : Nat) (j : Json) : Prop := j = .natural n

def IsObject (members : List (String × Json)) (j : Json) : Prop := j = .object members

/-- The array has the values one after the other. -/
inductive Lists (R : α → Json → Prop) (as : List α) : Json → Prop
  | array {items} : List.Forall₂ (fun j a => R a j) items as → Lists R as (.array items)

end Json

/-! ## Responses -/

/-- `m.Written j`: the record `j` says the remark. -/
inductive ServiceMessage.Written (m : ServiceMessage) (j : Json) : Prop
  | record {members} : j.Members ["severity", "code", "message"] members →
      Json.Member Json.IsText "" (members.lookup "severity") m.severity →
      Json.Member Json.IsText "" (members.lookup "code") m.code →
      Json.Member Json.IsText "" (members.lookup "message") m.message → Written m j

/-- `h.Written j`: the record `j` says the hit. -/
inductive Hit.Written (h : Hit) (j : Json) : Prop
  | record {members} : j.Members ["id", "data"] members →
      Json.Member Json.IsText "" (members.lookup "id") h.id →
      Json.Member Json.IsObject [] (members.lookup "data") h.data → Written h j

/-- `h.Written j`: the record `j` says how many documents match and lists hits. -/
inductive Hits.Written (h : Hits) (j : Json) : Prop
  | record {members} : j.Members ["found", "start", "hit"] members →
      Json.Member Json.IsNatural 0 (members.lookup "found") h.found →
      Json.Member Json.IsNatural 0 (members.lookup "start") h.start →
      Json.Member (Json.Lists Hit.Written) [] (members.lookup "hit") h.hit → Written h j

namespace SearchResponse

/-- The record lists the remarks of an information part. -/
inductive InfoWritten (remarks : List ServiceMessage) (j : Json) : Prop
  | record {members} : j.Members ["messages"] members →
      Json.Member (Json.Lists ServiceMessage.Written) [] (members.lookup "messages") remarks → InfoWritten remarks j

/-- `r.Written j`: the body `j` says the response. -/
inductive Written (r : SearchResponse) (j : Json) : Prop
  | record {members} : j.Members ["hits", "info", "messages"] members →
      Json.OptionalMember Hits.Written (members.lookup "hits") r.hits →
      Json.OptionalMember InfoWritten (members.lookup "info") r.info →
      Json.Member (Json.Lists ServiceMessage.Written) [] (members.lookup "messages") r.messages → Written r j

end SearchResponse

/-! ## Reading -/

namespace Json

/-- The reader gives the values that are said, and no others. -/
def Reads (read : Json → Option α) (R : α → Json → Prop) : Prop := ∀ j a, read j = some a ↔ R a j

theorem reads_asString? : Reads asString? IsText := by
  intro j s
  cases j <;> simp [asString?, IsText]

theorem reads_asNatural? : Reads asNatural? IsNatural := by
  intro j n
  unfold asNatural? IsNatural
  split
  · exact ⟨by rintro ⟨⟩; rfl, by rintro ⟨⟩; rfl⟩
  · rename_i hno
    exact iff_of_false nofun (hno n)

theorem reads_asObject? : Reads Hit.asObject? IsObject := by
  intro j members
  cases j <;> simp [Hit.asObject?, IsObject]

theorem Reads.asList? (h : Reads read R) : Reads (asList? read) (Lists R) := by
  intro j as
  cases j with
  | array items =>
    have hitems : Lists R as (.array items) ↔ List.Forall₂ (fun j a => R a j) items as :=
      ⟨fun ⟨hitems⟩ => hitems, .array⟩
    simp only [hitems, Json.asList?, mapM_eq_some_iff, h _ _]
  | _ => exact iff_of_false nofun nofun

theorem Reads.withDefault? (h : Reads read R) {default a : α} {v : Option Json} :
    withDefault? default read v = some a ↔ Member R default v a := by
  cases v with
  | none => exact ⟨by rintro ⟨⟩; exact .absent, by rintro ⟨⟩; rfl⟩
  | some j => exact (h j a).trans ⟨.present, fun | .present ha => ha⟩

theorem Reads.optional? (h : Reads read R) {v : Option Json} {a : Option α} :
    optional? read v = some a ↔ OptionalMember R v a := by
  unfold Json.optional?
  split
  · exact ⟨by rintro ⟨⟩; exact .absent, by rintro ⟨⟩; rfl⟩
  · constructor
    · rintro ⟨⟩
      exact .null
    · rintro (_ | _ | ⟨hnull, -⟩)
      · rfl
      · exact (hnull rfl).elim
  · rename_i j hnull
    simp only [Option.map_eq_some_iff, h j _]
    constructor
    · rintro ⟨a, ha, rfl⟩
      exact .present hnull ha
    · rintro (_ | _ | ⟨-, ha⟩)
      · exact (hnull rfl).elim
      · exact ⟨_, ha, rfl⟩

theorem record?_eq_some_iff {names : List String} {j : Json} {get : String → Option Json} :
    j.record? names = some get ↔ ∃ members, j.Members names members ∧ get = fun name => members.lookup name := by
  constructor
  · unfold record?
    split
    · rintro ⟨⟩
      exact ⟨_, .object _, rfl⟩
    · split
      · rename_i hlen
        rintro ⟨⟩
        exact ⟨_, .array hlen, rfl⟩
      · exact nofun
    · exact nofun
  · rintro ⟨_, hobject | hlen, rfl⟩
    · rfl
    · exact if_pos hlen

end Json

theorem ServiceMessage.reads_ofJson? : Json.Reads ofJson? Written := by
  intro j m
  simp only [ofJson?, Option.bind_eq_bind, Option.bind_eq_some_iff, Json.record?_eq_some_iff, Option.pure_def,
    Json.reads_asString?.withDefault?]
  constructor
  · rintro ⟨_, ⟨_, hmembers, rfl⟩, _, hseverity, _, hcode, _, hmessage, ⟨⟩⟩
    exact .record hmembers hseverity hcode hmessage
  · rintro ⟨hmembers, hseverity, hcode, hmessage⟩
    exact ⟨_, ⟨_, hmembers, rfl⟩, _, hseverity, _, hcode, _, hmessage, rfl⟩

theorem Hit.reads_ofJson? : Json.Reads ofJson? Written := by
  intro j h
  simp only [ofJson?, Option.bind_eq_bind, Option.bind_eq_some_iff, Json.record?_eq_some_iff, Option.pure_def,
    Json.reads_asString?.withDefault?, Json.reads_asObject?.withDefault?]
  constructor
  · rintro ⟨_, ⟨_, hmembers, rfl⟩, _, hid, _, hdata, ⟨⟩⟩
    exact .record hmembers hid hdata
  · rintro ⟨hmembers, hid, hdata⟩
    exact ⟨_, ⟨_, hmembers, rfl⟩, _, hid, _, hdata, rfl⟩

theorem Hits.reads_ofJson? : Json.Reads ofJson? Written := by
  intro j h
  simp only [ofJson?, Option.bind_eq_bind, Option.bind_eq_some_iff, Json.record?_eq_some_iff, Option.pure_def,
    Json.reads_asNatural?.withDefault?, Hit.reads_ofJson?.asList?.withDefault?]
  constructor
  · rintro ⟨_, ⟨_, hmembers, rfl⟩, _, hfound, _, hstart, _, hhit, ⟨⟩⟩
    exact .record hmembers hfound hstart hhit
  · rintro ⟨hmembers, hfound, hstart, hhit⟩
    exact ⟨_, ⟨_, hmembers, rfl⟩, _, hfound, _, hstart, _, hhit, rfl⟩

namespace SearchResponse

theorem reads_infoOfJson? : Json.Reads infoOfJson? InfoWritten := by
  intro j remarks
  simp only [infoOfJson?, Option.bind_eq_bind, Option.bind_eq_some_iff, Json.record?_eq_some_iff,
    ServiceMessage.reads_ofJson?.asList?.withDefault?]
  constructor
  · rintro ⟨_, ⟨_, hmembers, rfl⟩, hmessages⟩
    exact .record hmembers hmessages
  · rintro ⟨hmembers, hmessages⟩
    exact ⟨_, ⟨_, hmembers, rfl⟩, hmessages⟩

theorem ofJson?_eq_some_iff {body : Json} {r : SearchResponse} : ofJson? body = some r ↔ r.Written body := by
  simp only [ofJson?, Option.bind_eq_bind, Option.bind_eq_some_iff, Json.record?_eq_some_iff, Option.pure_def,
    Hits.reads_ofJson?.optional?, reads_infoOfJson?.optional?, ServiceMessage.reads_ofJson?.asList?.withDefault?]
  constructor
  · rintro ⟨_, ⟨_, hmembers, rfl⟩, _, hhits, _, hinfo, _, hmessages, ⟨⟩⟩
    exact .record hmembers hhits hinfo hmessages
  · rintro ⟨hmembers, hhits, hinfo, hmessages⟩
    exact ⟨_, ⟨_, hmembers, rfl⟩, _, hhits, _, hinfo, _, hmessages, rfl⟩

theorem ofJson_of_written {body : Json} {r : SearchResponse} (h : r.Written body) : ofJson body = .ok r := by
  rw [ofJson, ofJson?_eq_some_iff.2 h]

theorem ofJson_of_not_written {body : Json} (h : ¬ ∃ r : SearchResponse, r.Written body) :
    ofJson body = .error .unreadableResponse := by
  have hnone : ofJson? body = none := Option.eq_none_iff_forall_ne_some.2 fun r hr => h ⟨r, ofJson?_eq_some_iff.1 hr⟩
  rw [ofJson, hnone]

end SearchResponse

end SearchIndex
