import Mathlib.Logic.Function.Iterate
import SearchIndex.Index.Basic
import SearchIndex.Proofs.Results
import SearchIndex.Proofs.Schema.Table
import SearchIndex.Proofs.Service.Command
import SearchIndex.Proofs.Service.Remote
import SearchIndex.Service.Offline

/-!
# Creating a domain until it is there

A domain is created by a plan of calls, of which the first that fails is the last. It may be tried again and again:
whatever the earlier attempts have left, after one that succeeds the domain has each field as the schema defines it,
and no attempt touches a field that the schema does not name.
-/

namespace SearchIndex

/-- The call that defines a field. -/
def Field.call (domain : String) (f : Field) : Call := .define domain f.definition

/-- The calls that create the domain of a schema: that for the domain, and then one for each field. -/
def Schema.creation (s : Schema) : List Call := .create s.name :: s.fields.map (·.call s.name)

/-- The calls of a plan that are made after the calls `past`, and how this ends: the first failure stops it. -/
inductive Attempt (service : Service) : List Call → List Call → List Call → Except TransportError Unit → Prop
  | done {past} : Attempt service past [] [] (.ok ())
  | failed {past call plan e} : service.reply past call = .error e →
      Attempt service past (call :: plan) [call] (.error e)
  | next {past call plan calls result} : service.reply past call = .ok () →
      Attempt service (past ++ [call]) plan calls result → Attempt service past (call :: plan) (call :: calls) result

/-! ## What an attempt leaves -/

variable {service : Service} {domain : String} {fields : List Field} {past plan calls : List Call}
  {result : Except TransportError Unit} {r r' : Remote}

/-- Fields are defined in a domain that is there: it stays, and nothing but these fields changes. -/
theorem Attempt.redefines (h : Attempt service past (fields.map (·.call domain)) calls result)
    (he : Evolves service past calls r r') (hr : (r domain).isSome) :
    (r' domain).isSome ∧ Redefines domain fields r r' := by
  induction fields generalizing past calls r with
  | nil =>
    cases h
    cases he
    exact ⟨hr, .refl _ _ _⟩
  | cons f fields ih =>
    cases h with
    | failed _ =>
      obtain _ | ⟨hm, _ | _⟩ := he
      exact ⟨hm.define_isSome hr, (hm.define_redefines hr).mono (by simp)⟩
    | next _ hrest =>
      obtain _ | ⟨hm, he⟩ := he
      obtain ⟨hr', hred⟩ := ih hrest he (hm.define_isSome hr)
      exact ⟨hr', ((hm.define_redefines hr).mono (by simp)).trans (hred.mono (by simp))⟩

/-- If all definitions were accepted, each field has its own: no later one names the same field. -/
theorem Attempt.field?_of_ok (h : Attempt service past (fields.map (·.call domain)) calls (.ok ()))
    (he : Evolves service past calls r r') (hr : (r domain).isSome) (hd : (fields.map (·.name)).Nodup) :
    ∀ f ∈ fields, r'.field? domain f.name = some f.definition := by
  induction fields generalizing past calls r with
  | nil => exact fun _ hf => (List.not_mem_nil hf).elim
  | cons f fields ih =>
    obtain ⟨hnew, hd⟩ := List.nodup_cons.1 hd
    cases h with
    | next hok hrest =>
      obtain _ | ⟨hm, he⟩ := he
      have hr₁ := hm.define_isSome hr
      refine List.forall_mem_cons.2 ⟨?_, ih hrest he hr₁ hd⟩
      rw [(hrest.redefines he hr₁).2.field?_of_unnamed hnew]
      exact hm.define_field? hr hok

theorem Attempt.creation_redefines {s : Schema} (h : Attempt service past s.creation calls result)
    (he : Evolves service past calls r r') : Redefines s.name s.fields r r' := by
  cases h with
  | failed _ =>
    obtain _ | ⟨hm, _ | _⟩ := he
    exact hm.create_redefines.mono (List.nil_subset _)
  | next hok hrest =>
    obtain _ | ⟨hm, he⟩ := he
    exact (hm.create_redefines.mono (List.nil_subset _)).trans (hrest.redefines he (hm.create_isSome hok)).2

/-- An attempt that succeeds leaves the domain with every field of the schema, whatever was there before. -/
theorem Attempt.creation_of_ok {s : Schema} (hd : s.Distinct) (h : Attempt service past s.creation calls (.ok ()))
    (he : Evolves service past calls r r') :
    (r' s.name).isSome ∧ ∀ f ∈ s.fields, r'.field? s.name f.name = some f.definition := by
  cases h with
  | next hok hrest =>
    obtain _ | ⟨hm, he⟩ := he
    have hr := hm.create_isSome hok
    exact ⟨(hrest.redefines he hr).1, hrest.field?_of_ok he hr hd⟩

/-! ## What an index does -/

namespace Index

/-- A command makes an attempt at the calls of a plan, and changes nothing else. -/
def Attempts (service : Service) (plan : List Call) (c : Command Index Unit) : Prop :=
  ∀ ix x, ∃ calls result, Attempt service x.calls plan calls result ∧
    c service ix x = ⟨result.mapError .transport, ix, { x with calls := x.calls ++ calls }⟩

theorem Attempts.ask {call : Call} {answer : Service → List Call → Except TransportError Unit} {c : Command Index Unit}
    (hanswer : ∀ past, answer service past = service.reply past call) (h : Attempts service plan c) :
    Attempts service (call :: plan) (Command.ask call answer >>= fun _ => c) := by
  intro ix x
  rw [Command.bind_apply, Command.ask_apply, hanswer]
  cases hreply : service.reply x.calls call with
  | error e => exact ⟨[call], .error e, .failed hreply, rfl⟩
  | ok u =>
    obtain ⟨calls, result, ha, hc⟩ := h ix { x with calls := x.calls ++ [call] }
    exact ⟨call :: calls, result, .next hreply ha, by simpa [mapError_ok] using hc⟩

theorem attempts_define (service : Service) (domain : String) (fields : List Field) :
    Attempts service (fields.map (·.call domain)) (Command.forEach
      (fun d => Command.ask (.define domain d) (·.define · domain d)) (fields.map Field.definition)) := by
  induction fields with
  | nil => exact fun ix x => ⟨[], .ok (), .done, by simp [Command.forEach_nil, mapError_ok]⟩
  | cons f fields ih => exact .ask (fun _ => rfl) ih

theorem create_eq (service : Service) (ix : Index) (x : Exchange) : create service ix x =
    (Command.ask (.create ix.schema.name) (·.create · ix.schema.name) >>= fun _ =>
      Command.forEach (fun d => Command.ask (.define ix.schema.name d) (·.define · ix.schema.name d))
        ix.schema.definitions) service ix x := rfl

theorem create_attempt (service : Service) (ix : Index) (x : Exchange) :
    ∃ calls result, Attempt service x.calls ix.schema.creation calls result ∧
      create service ix x = ⟨result.mapError .transport, ix, { x with calls := x.calls ++ calls }⟩ := by
  rw [create_eq]
  exact Attempts.ask (fun _ => rfl) (attempts_define service ix.schema.name ix.schema.fields) ix x

/-- Tries to create the domain, whatever comes of it. -/
def tryCreate (service : Service) (s : Index × Exchange) : Index × Exchange :=
  let o := create service s.1 s.2
  (o.state, o.exchange)

/-- Many attempts leave all but the fields of the schema alone. -/
theorem tryCreate_redefines (service : Service) (ix : Index) (x : Exchange) (attempts : Nat) :
    ∃ calls, (tryCreate service)^[attempts] (ix, x) = (ix, { x with calls := x.calls ++ calls }) ∧
      ∀ r r', Evolves service x.calls calls r r' → Redefines ix.schema.name ix.schema.fields r r' := by
  induction attempts with
  | zero =>
    refine ⟨[], by simp, fun r r' he => ?_⟩
    cases he
    exact .refl _ _ _
  | succ attempts ih =>
    obtain ⟨calls, hreached, hred⟩ := ih
    obtain ⟨calls', result, ha, hcreate⟩ := create_attempt service ix { x with calls := x.calls ++ calls }
    refine ⟨calls ++ calls', ?_, fun r r' he => ?_⟩
    · rw [Function.iterate_succ_apply', hreached, tryCreate, hcreate, List.append_assoc]
    · obtain ⟨r₁, he, he'⟩ := evolves_append_iff.1 he
      exact (hred r r₁ he).trans (ha.creation_redefines he')

/-- However many attempts to create a domain were made, and whatever of them has taken effect: the next one calls for
the domain and for its fields in their order until a call fails, whose error is then the result. Nothing has changed
but fields of the schema, each to its own definition, and after an attempt that succeeds all of them have it. -/
theorem create_converges (service : Service) (s : Schema) (hs : s.fields = []) (additions : List Field) (cache : Cache)
    (x : Exchange) (attempts : Nat) :
    let ix : Index := { schema := additions.foldl Schema.withField s, cache }
    let reached := (tryCreate service)^[attempts] (ix, x)
    let o := create service reached.1 reached.2
    ∃ earlier calls result, reached = (ix, { x with calls := x.calls ++ earlier }) ∧
      Attempt service (x.calls ++ earlier) ix.schema.creation calls result ∧
      o = ⟨result.mapError .transport, ix, { x with calls := x.calls ++ (earlier ++ calls) }⟩ ∧
      ∀ r r', Evolves service x.calls (earlier ++ calls) r r' →
        Redefines ix.schema.name ix.schema.fields r r' ∧
        (∀ name ∉ ix.schema.fields.map (·.name), r'.field? ix.schema.name name = r.field? ix.schema.name name) ∧
        (o.result = .ok () → (r' ix.schema.name).isSome ∧
          ∀ f ∈ ix.schema.fields, r'.field? ix.schema.name f.name = some f.definition) := by
  intro ix reached o
  have distinct : ix.schema.Distinct := (Schema.distinct_of_no_fields hs).withFields additions
  obtain ⟨earlier, hreached, hred⟩ := tryCreate_redefines service ix x attempts
  obtain ⟨calls, result, ha, hcreate⟩ := create_attempt service ix { x with calls := x.calls ++ earlier }
  have ho : o = create service ix { x with calls := x.calls ++ earlier } := by
    show create service reached.1 reached.2 = _
    rw [show reached = _ from hreached]
  rw [hcreate, List.append_assoc] at ho
  refine ⟨earlier, calls, result, hreached, ha, ho, fun r r' he => ?_⟩
  obtain ⟨r₁, he, he'⟩ := evolves_append_iff.1 he
  have hall : Redefines ix.schema.name ix.schema.fields r r' := (hred r r₁ he).trans (ha.creation_redefines he')
  refine ⟨hall, fun name => hall.field?_of_unnamed, fun hok => ?_⟩
  rw [ho] at hok
  obtain rfl : result = .ok () := mapError_eq_ok.1 hok
  exact ha.creation_of_ok distinct he'

/-- The first definition of `body` fails, and the second attempt succeeds. Whatever has become of the first, `body` is
text and no literal any more, and `author` is as it was. -/
theorem create_converges_after_failure :
    let lost : TransportError := { message := "timed out" }
    let service : Service := { Service.offline with
      create := fun _ _ => .ok ()
      define := fun past _ _ => if past.length = 2 then .error lost else .ok () }
    let stars := Field.new "stars" .uint {}
    let body := Field.new "body" .text {}
    let literal (name : String) := (Field.new name .literal {}).definition
    let ix : Index := { schema := [stars, body].foldl Schema.withField { name := "reviews" } }
    let reached := tryCreate service (ix, {})
    let o := create service reached.1 reached.2
    let r : Remote := fun domain => if domain = "reviews" then
      some fun name => if name ∈ ["body", "author"] then some (literal name) else none else none
    (create service ix {}).result = .error (.transport lost) ∧ o.result = .ok () ∧
      (∃ r', Evolves service [] o.exchange.calls r r') ∧ ∀ r', Evolves service [] o.exchange.calls r r' →
        r'.field? "reviews" "stars" = some stars.definition ∧ r'.field? "reviews" "body" = some body.definition ∧
          r'.field? "reviews" "author" = some (literal "author") := by
  intro lost service stars body literal ix reached o r
  have hschema : ix.schema = { name := "reviews", fields := [stars, body] } := by rfl
  have second : o.result = .ok () := by rfl
  obtain ⟨earlier, calls, result, -, -, ho, hall⟩ :=
    create_converges service { name := "reviews" } rfl [stars, body] {} {} 1
  have hcalls : o.exchange.calls = earlier ++ calls := congrArg (·.exchange.calls) ho
  refine ⟨by rfl, second, exists_evolves service [] _ r, fun r' he => ?_⟩
  rw [hcalls] at he
  obtain ⟨-, unnamed, named⟩ := hall r r' he
  obtain ⟨-, named⟩ := named second
  rw [hschema] at unnamed named
  refine ⟨named stars (by simp), named body (by simp), (unnamed "author" (by decide)).trans ?_⟩
  rfl

end Index

end SearchIndex
