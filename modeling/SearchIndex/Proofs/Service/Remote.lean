import Mathlib.Logic.Function.Basic
import SearchIndex.Service.Basic

/-!
# The domains that a service keeps

Of a service only this is taken for granted: creating a domain that is there changes nothing, defining a field of a
domain replaces the one of its name, and a call that failed may have taken effect all the same. Nothing is told of
defining a field where the domain is missing.
-/

namespace SearchIndex

/-- The domains of a service by name, each with its fields by name. -/
def Remote : Type := String → Option (String → Option FieldDefinition)

/-- The field of a name that a domain has. A domain that is not there has none. -/
def Remote.field? (r : Remote) (domain name : String) : Option FieldDefinition := (r domain).bind (· name)

/-- What a call changes when it takes effect. -/
def Call.Effect (r r' : Remote) : Call → Prop
  | .create domain => r' domain = some ((r domain).getD fun _ => none) ∧ ∀ other ≠ domain, r' other = r other
  | .define domain d =>
    (∀ fields, r domain = some fields → r' domain = some (Function.update fields d.name (some d))) ∧
      ∀ other ≠ domain, r' other = r other
  | _ => r' = r

/-- The answer to a call that creates a domain or defines a field. -/
def Service.reply (service : Service) (past : List Call) : Call → Except TransportError Unit
  | .create domain => service.create past domain
  | .define domain d => service.define past domain d
  | _ => .ok ()

/-- What a call may change: it takes effect, or it has failed and nothing happens. -/
def Service.Moves (service : Service) (past : List Call) (call : Call) (r r' : Remote) : Prop :=
  call.Effect r r' ∨ (∃ e, service.reply past call = .error e) ∧ r' = r

/-- What the calls of a list may change, made one after the other after the calls `past`. -/
inductive Evolves (service : Service) : List Call → List Call → Remote → Remote → Prop
  | none {past r} : Evolves service past [] r r
  | next {past call calls r r' r''} : service.Moves past call r r' → Evolves service (past ++ [call]) calls r' r'' →
      Evolves service past (call :: calls) r r''

theorem evolves_append_iff {service : Service} {past calls calls' : List Call} {r r'' : Remote} :
    Evolves service past (calls ++ calls') r r'' ↔
      ∃ r', Evolves service past calls r r' ∧ Evolves service (past ++ calls) calls' r' r'' := by
  induction calls generalizing past r with
  | nil =>
    rw [List.nil_append, List.append_nil]
    constructor
    · exact fun h => ⟨r, .none, h⟩
    · rintro ⟨r', h, h'⟩
      cases h
      exact h'
  | cons call calls ih =>
    have hpast : past ++ call :: calls = past ++ [call] ++ calls := by simp
    rw [List.cons_append, hpast]
    constructor
    · intro h
      cases h with
      | next hm h =>
        obtain ⟨r', h, h'⟩ := ih.1 h
        exact ⟨r', .next hm h, h'⟩
    · rintro ⟨r', h, h'⟩
      cases h with
      | next hm h => exact .next hm (ih.2 ⟨r', h, h'⟩)

/-- Every call can take effect. -/
theorem Call.exists_effect (call : Call) (r : Remote) : ∃ r', call.Effect r r' := by
  -- any table will do for a domain that is missing where a field is defined
  have replaced (domain : String) (table : Option (String → Option FieldDefinition)) :
      ∃ r' : Remote, r' domain = table ∧ ∀ other ≠ domain, r' other = r other :=
    ⟨fun name => if name = domain then table else r name, if_pos rfl, fun _ ho => if_neg ho⟩
  cases call with
  | create domain => exact replaced domain _
  | define domain d =>
    obtain ⟨r', hd, ho⟩ := replaced domain ((r domain).map (Function.update · d.name (some d)))
    exact ⟨r', fun fields hfields => by rw [hd, hfields]; rfl, ho⟩
  | _ => exact ⟨r, rfl⟩

theorem exists_evolves (service : Service) (past calls : List Call) (r : Remote) :
    ∃ r', Evolves service past calls r r' := by
  induction calls generalizing past r with
  | nil => exact ⟨r, .none⟩
  | cons call calls ih =>
    obtain ⟨r₁, hm⟩ := call.exists_effect r
    obtain ⟨r', he⟩ := ih (past ++ [call]) r₁
    exact ⟨r', .next (.inl hm) he⟩

/-! ## What is left alone -/

/-- Nothing has changed but fields of a domain, and these to what `fields` define. -/
structure Redefines (domain : String) (fields : List Field) (r r' : Remote) : Prop where
  domains : ∀ other ≠ domain, r' other = r other
  fields : ∀ name, r'.field? domain name = r.field? domain name ∨
    ∃ f ∈ fields, f.name = name ∧ r'.field? domain name = some f.definition

namespace Redefines

variable {domain : String} {fields fields' : List Field} {r r' r'' : Remote}

theorem refl (domain : String) (fields : List Field) (r : Remote) : Redefines domain fields r r :=
  ⟨fun _ _ => rfl, fun _ => .inl rfl⟩

theorem mono (h : Redefines domain fields r r') (hsub : fields ⊆ fields') : Redefines domain fields' r r' where
  domains := h.domains
  fields name := (h.fields name).imp_right fun ⟨f, hf, hdef⟩ => ⟨f, hsub hf, hdef⟩

theorem trans (h : Redefines domain fields r r') (h' : Redefines domain fields r' r'') :
    Redefines domain fields r r'' where
  domains other ho := (h'.domains other ho).trans (h.domains other ho)
  fields name := by
    rcases h'.fields name with heq | hdef
    · rw [heq]
      exact h.fields name
    · exact .inr hdef

/-- A field that none of `fields` names is as it was. -/
theorem field?_of_unnamed (h : Redefines domain fields r r') {name : String} (hn : name ∉ fields.map (·.name)) :
    r'.field? domain name = r.field? domain name := by
  rcases h.fields name with heq | ⟨f, hf, rfl, -⟩
  · exact heq
  · exact (hn (List.mem_map_of_mem hf)).elim

end Redefines

/-! ## What a call changes -/

namespace Service.Moves

variable {service : Service} {past : List Call} {domain : String} {f : Field} {r r' : Remote}

/-- Creating a domain changes no field. -/
theorem create_redefines (h : service.Moves past (.create domain) r r') : Redefines domain [] r r' := by
  rcases h with ⟨hd, ho⟩ | ⟨-, rfl⟩
  · refine ⟨ho, fun name => .inl ?_⟩
    rw [Remote.field?, Remote.field?, hd]
    cases r domain <;> rfl
  · exact .refl _ _ _

theorem create_isSome (h : service.Moves past (.create domain) r r')
    (hok : service.reply past (.create domain) = .ok ()) : (r' domain).isSome := by
  rcases h with ⟨hd, -⟩ | ⟨⟨e, hfailed⟩, -⟩
  · rw [hd]
    rfl
  · rw [hok] at hfailed
    cases hfailed

theorem define_isSome (h : service.Moves past (.define domain f.definition) r r') (hr : (r domain).isSome) :
    (r' domain).isSome := by
  rcases h with ⟨hd, -⟩ | ⟨-, rfl⟩
  · obtain ⟨fields, hfields⟩ := Option.isSome_iff_exists.1 hr
    rw [hd fields hfields]
    rfl
  · exact hr

theorem define_redefines (h : service.Moves past (.define domain f.definition) r r') (hr : (r domain).isSome) :
    Redefines domain [f] r r' := by
  rcases h with ⟨hd, ho⟩ | ⟨-, rfl⟩
  · obtain ⟨fields, hfields⟩ := Option.isSome_iff_exists.1 hr
    refine ⟨ho, fun name => ?_⟩
    simp only [Remote.field?, hd fields hfields, hfields, Option.bind_some]
    by_cases hname : name = f.name
    · subst hname
      exact .inr ⟨f, List.mem_singleton_self f, rfl, Function.update_self ..⟩
    · exact .inl (Function.update_of_ne hname ..)
  · exact .refl _ _ _

/-- A field whose definition was accepted has it. -/
theorem define_field? (h : service.Moves past (.define domain f.definition) r r') (hr : (r domain).isSome)
    (hok : service.reply past (.define domain f.definition) = .ok ()) :
    r'.field? domain f.name = some f.definition := by
  rcases h with ⟨hd, -⟩ | ⟨⟨e, hfailed⟩, -⟩
  · obtain ⟨fields, hfields⟩ := Option.isSome_iff_exists.1 hr
    rw [Remote.field?, hd fields hfields]
    exact Function.update_self ..
  · rw [hok] at hfailed
    cases hfailed

end Service.Moves

end SearchIndex
