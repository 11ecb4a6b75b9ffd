import SearchIndex.Proofs.Query.Meaning

/-!
# The terms at the top level

A reader that knows nothing but quotes and parentheses cuts a boolean query at the blanks outside of both.
The clauses that come from values stand such a cut, and so does a range that was written out, if it consists
of bounds: the terms of a query are then its clauses.
-/

namespace SearchIndex

/-- Where a reader stands: how many parentheses are open, and whether it is between quotes, where a backslash
takes the next character with it. -/
inductive Place where
  | bare (depth : Nat)
  | quoted (depth : Nat)
  | escaped (depth : Nat)
  deriving DecidableEq, Repr

/-- The place after a character; none after a parenthesis that closes nothing. -/
def Place.next? : Place → Char → Option Place
  | bare depth, c =>
    if c = '(' then some (bare (depth + 1))
    else if c = ')' then if depth = 0 then none else some (bare (depth - 1))
    else if c = '\'' then some (quoted depth)
    else some (bare depth)
  | quoted depth, c =>
    if c = '\\' then some (escaped depth)
    else if c = '\'' then some (bare depth)
    else some (quoted depth)
  | escaped depth, _ => some (quoted depth)

/-- The terms from a place on: a blank outside of quotes and parentheses ends one. There are none if
something is left open at the end. -/
def terms? : Place → List Char → Option (List (List Char))
  | p, [] => if p = .bare 0 then some [[]] else none
  | p, c :: cs =>
    if p = .bare 0 ∧ c = ' ' then (terms? p cs).map ([] :: ·)
    else (p.next? c).bind fun p' => (terms? p' cs).map (·.modifyHead (c :: ·))

/-- What stands between the parentheses of an `and`. -/
def andBody? : List Char → Option (List Char)
  | '(' :: 'a' :: 'n' :: 'd' :: ' ' :: rest => if rest.getLast? = some ')' then some rest.dropLast else none
  | _ => none

/-- The terms of a boolean query: those of an `and`, or else of the whole text. -/
def topTerms? (cs : List Char) : Option (List (List Char)) := terms? (.bare 0) ((andBody? cs).getD cs)

/-- Neither a blank nor a parenthesis nor a quote. -/
def IsBare (c : Char) : Prop := c ≠ ' ' ∧ c ≠ '(' ∧ c ≠ ')' ∧ c ≠ '\''

instance : DecidablePred IsBare := fun c => inferInstanceAs (Decidable (c ≠ ' ' ∧ c ≠ '(' ∧ c ≠ ')' ∧ c ≠ '\''))

/-- A range as it is written out: two bounds, each of which may be left out. -/
def IsRangeText (s : String) : Prop :=
  ∃ lo hi a b, BoundSpelled lo a ∧ BoundSpelled hi b ∧ s.toList = a ++ '.' :: '.' :: b

theorem isBare_of_number {c : Char} (h : Text.isNumberChar c ∨ c = '.') : IsBare c := by
  refine ⟨?_, ?_, ?_, ?_⟩ <;> rintro rfl <;> exact absurd h (by decide)

theorem IsRangeText.bare {s : String} (h : IsRangeText s) : ∀ c ∈ s.toList, IsBare c := by
  obtain ⟨lo, hi, a, b, ha, hb, hs⟩ := h
  intro c hc
  refine isBare_of_number ?_
  rw [hs, List.mem_append, List.mem_cons, List.mem_cons] at hc
  rcases hc with hc | rfl | rfl | hc
  · exact .inl (boundSpelled_chars ha c hc)
  · exact .inr rfl
  · exact .inr rfl
  · exact .inl (boundSpelled_chars hb c hc)

theorem isRangeText_atLeast (n : Int) : IsRangeText (toString n ++ "..") :=
  ⟨some n, none, _, [], boundSpelled_toString n, rfl, by simp⟩

theorem isRangeText_atMost (n : Int) : IsRangeText (".." ++ toString n) :=
  ⟨none, some n, [], _, rfl, boundSpelled_toString n, by simp⟩

theorem isRangeText_between (lo hi : Int) : IsRangeText (toString lo ++ ".." ++ toString hi) :=
  ⟨some lo, some hi, _, _, boundSpelled_toString lo, boundSpelled_toString hi, by simp⟩

/-! ## Texts that are not cut -/

/-- A text that leads from one place to another within one term. -/
def Passes (p : Place) (cs : List Char) (p' : Place) : Prop :=
  ∀ rest, terms? p (cs ++ rest) = (terms? p' rest).map (·.modifyHead (cs ++ ·))

namespace Passes

variable {p p' p'' : Place} {a b : List Char} {depth : Nat}

theorem nil (p : Place) : Passes p [] p := by
  intro rest
  have same : (fun ts : List (List Char) => ts.modifyHead ([] ++ ·)) = id := by
    funext ts
    cases ts <;> rfl
  rw [same, Option.map_id]
  rfl

theorem append (ha : Passes p a p') (hb : Passes p' b p'') : Passes p (a ++ b) p'' := by
  intro rest
  rw [List.append_assoc, ha, hb, Option.map_map]
  congr 1
  funext ts
  cases ts <;> simp

theorem char {c : Char} (hc : ¬ (p = .bare 0 ∧ c = ' ')) (hn : p.next? c = some p') : Passes p [c] p' := by
  intro rest
  simp only [List.singleton_append, terms?, if_neg hc, hn, Option.bind_some]

theorem cons {c : Char} (hc : ¬ (p = .bare 0 ∧ c = ' ')) (hn : p.next? c = some p') (h : Passes p' a p'') :
    Passes p (c :: a) p'' :=
  append (char hc hn) h

theorem bare (h : ∀ c ∈ a, IsBare c) : Passes (.bare depth) a (.bare depth) := by
  induction a with
  | nil => exact nil _
  | cons c a ih =>
    obtain ⟨hblank, hopen, hclose, hquote⟩ := h c List.mem_cons_self
    refine cons (fun hc => hblank hc.2) ?_ (ih fun c' hc' => h c' (List.mem_cons_of_mem _ hc'))
    simp [Place.next?, hopen, hclose, hquote]

/-- Inside parentheses a blank ends nothing. -/
theorem blank : Passes (.bare (depth + 1)) [' '] (.bare (depth + 1)) :=
  char (by simp) rfl

theorem parens (h : Passes (.bare (depth + 1)) a (.bare (depth + 1))) :
    Passes (.bare depth) ('(' :: (a ++ [')'])) (.bare depth) :=
  cons (by simp) rfl (append h (char (by simp) rfl))

theorem escaped {s : List Char} (h : Escaped s a) : Passes (.quoted depth) a (.quoted depth) := by
  induction h with
  | nil => exact nil _
  | plain hb hq _ ih => exact cons (by simp) (by simp [Place.next?, hb, hq]) ih
  | escape _ _ ih =>
    -- the backslash takes the character with it
    exact cons (by simp) rfl (cons (by simp) rfl ih)

/-- What is asked of a field stands in one term. -/
theorem test {t : Test} (h : t.Spelled a) : Passes (.bare depth) a (.bare depth) := by
  by_cases hq : ∃ s, t = .equals (.quoted s)
  · obtain ⟨s, rfl⟩ := hq
    obtain ⟨body, hbody, rfl⟩ := h
    exact cons (by simp) rfl (append (escaped hbody) (char (by simp) rfl))
  · have hbare := Test.spelled_bare h (by simpa using hq)
    exact bare fun c hc => isBare_of_number (hbare c hc)

theorem term {f text : String} (hf : ∀ c ∈ f.toList, IsBare c)
    (h : Passes (.bare depth) text.toList (.bare depth)) :
    Passes (.bare depth) (Clause.term f text).toList (.bare depth) := by
  have hcolon : Passes (.bare depth) [':'] (.bare depth) := char (by simp) rfl
  simpa [Clause.term] using append (bare hf) (append hcolon h)

theorem words {texts : List String} (h : ∀ t ∈ texts, Passes (.bare (depth + 1)) t.toList (.bare (depth + 1))) :
    Passes (.bare (depth + 1)) (" ".intercalate texts).toList (.bare (depth + 1)) := by
  induction texts with
  | nil => exact nil _
  | cons t texts ih =>
    have hrest := ih fun t' ht' => h t' (List.mem_cons_of_mem _ ht')
    have ht := h t List.mem_cons_self
    cases texts with
    | nil => simpa using ht
    | cons t' texts => simpa using append ht (append blank hrest)

end Passes

/-! ## Clauses are not cut -/

/-- A clause on a field whose name cannot be cut, where a range that was written out consists of bounds. -/
structure Clause.Stands (c : Clause) : Prop where
  field : ∀ ch ∈ c.field.toList, IsBare ch
  range : ∀ s, c = .within c.field s → IsRangeText s

theorem Clause.Stands.passes {c : Clause} (h : c.Stands) (depth : Nat) :
    Passes (.bare depth) c.render.toList (.bare depth) := by
  have hf := h.field
  cases c with
  | equals f v => exact .term hf (.test v.render_spelled)
  | differs f v =>
    have hterm : Passes (.bare (depth + 1)) (Clause.term f v.render).toList (.bare (depth + 1)) :=
      .term hf (.test v.render_spelled)
    have hword : Passes (.bare (depth + 1)) ['n', 'o', 't'] (.bare (depth + 1)) := .bare (by simp [IsBare])
    simpa [Clause.render] using Passes.parens (hword.append (Passes.blank.append hterm))
  | oneOf f vs =>
    have hterms : ∀ t ∈ vs.map fun v => Clause.term f v.render,
        Passes (.bare (depth + 1)) t.toList (.bare (depth + 1)) := by
      intro t ht
      obtain ⟨v, -, rfl⟩ := List.mem_map.1 ht
      exact .term hf (.test v.render_spelled)
    have hword : Passes (.bare (depth + 1)) ['o', 'r'] (.bare (depth + 1)) := .bare (by simp [IsBare])
    simpa [Clause.render] using Passes.parens (hword.append (Passes.blank.append (Passes.words hterms)))
  | atLeast f n => exact .term hf (.bare (isRangeText_atLeast n).bare)
  | atMost f n => exact .term hf (.bare (isRangeText_atMost n).bare)
  | between f lo hi => exact .term hf (.bare (isRangeText_between lo hi).bare)
  | within f s => exact .term hf (.bare (h.range s rfl).bare)

/-! ## The terms of a query are its clauses -/

theorem terms?_of_passes {cs : List Char} (h : Passes (.bare 0) cs (.bare 0)) : terms? (.bare 0) cs = some [cs] := by
  simpa [terms?] using h []

theorem terms?_intercalate {texts : List String} (hne : texts ≠ [])
    (h : ∀ t ∈ texts, Passes (.bare 0) t.toList (.bare 0)) :
    terms? (.bare 0) (" ".intercalate texts).toList = some (texts.map String.toList) := by
  induction texts with
  | nil => exact absurd rfl hne
  | cons t texts ih =>
    have ht := h t List.mem_cons_self
    cases texts with
    | nil => simpa using terms?_of_passes ht
    | cons t' texts =>
      have hrest := ih (by simp) fun s hs => h s (List.mem_cons_of_mem _ hs)
      -- the blank ends the first term, and the rest begins with an empty one
      have hcut : terms? (.bare 0) (' ' :: (" ".intercalate (t' :: texts)).toList) =
          some ([] :: (t' :: texts).map String.toList) := by
        rw [terms?, if_pos ⟨rfl, rfl⟩, hrest]
        rfl
      have hjoin : (" ".intercalate (t :: t' :: texts)).toList =
          t.toList ++ ' ' :: (" ".intercalate (t' :: texts)).toList := by simp
      rw [hjoin, ht, hcut]
      simp

theorem andBody?_and (body : List Char) : andBody? ('(' :: 'a' :: 'n' :: 'd' :: ' ' :: (body ++ [')'])) = some body := by
  simp [andBody?]

theorem andBody?_of_head {cs : List Char} (h : ∀ c ∈ cs.head?, c ≠ '(') : andBody? cs = none := by
  unfold andBody?
  split
  · exact absurd rfl (h '(' rfl)
  · rfl

/-- A single clause is not taken for an `and`. -/
theorem Clause.Stands.andBody?_render {c : Clause} (h : c.Stands) : andBody? c.render.toList = none := by
  have term (f text : String) (hf : ∀ ch ∈ f.toList, IsBare ch) : andBody? (Clause.term f text).toList = none := by
    refine andBody?_of_head fun ch hch => ?_
    have hmem : ch ∈ f.toList ++ [':'] := by
      rw [Clause.term, String.toList_append, String.toList_append, List.head?_append_of_ne_nil _ (by simp)] at hch
      exact List.mem_of_mem_head? hch
    rcases List.mem_append.1 hmem with hfield | hcolon
    · exact (hf ch hfield).2.1
    · rw [List.mem_singleton.1 hcolon]
      decide
  cases c with
  | differs f v => simp [Clause.render, andBody?]
  | oneOf f vs => simp [Clause.render, andBody?]
  | _ => exact term _ _ h.field

/-- The terms of the joined clauses are the clauses. -/
theorem topTerms?_joinClauses {cs : List Clause} (hne : cs ≠ []) (h : ∀ c ∈ cs, c.Stands) :
    ∃ text, joinClauses (cs.map Clause.render) = some text ∧
      topTerms? text.toList = some (cs.map fun c => c.render.toList) := by
  match cs, hne with
  | [c], _ =>
    have hc := h c List.mem_cons_self
    refine ⟨c.render, rfl, ?_⟩
    rw [topTerms?, hc.andBody?_render]
    exact terms?_of_passes (hc.passes 0)
  | c :: d :: cs, _ =>
    have hpass : ∀ t ∈ (c :: d :: cs).map Clause.render, Passes (.bare 0) t.toList (.bare 0) := by
      intro t ht
      obtain ⟨c', hc', rfl⟩ := List.mem_map.1 ht
      exact (h c' hc').passes 0
    have hjoin : joinClauses ((c :: d :: cs).map Clause.render) =
        some ("(and " ++ " ".intercalate ((c :: d :: cs).map Clause.render) ++ ")") := rfl
    refine ⟨_, hjoin, ?_⟩
    have hbody : andBody? ("(and " ++ " ".intercalate ((c :: d :: cs).map Clause.render) ++ ")").toList =
        some (" ".intercalate ((c :: d :: cs).map Clause.render)).toList := by
      rw [← andBody?_and]
      simp
    rw [topTerms?, hbody, Option.getD_some, terms?_intercalate (by simp) hpass, List.map_map]
    rfl

end SearchIndex
