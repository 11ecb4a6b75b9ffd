import SearchIndex.Proofs.Text.Decimal
import SearchIndex.Query.Clause

/-!
# The grammar of boolean queries

What a text says to the remote service: a tree of `and`, `or` and `not` over tests of single fields.
`Formula.Spelled` gives the texts of a tree, and `spelled_unique` shows that no text has two trees,
whatever is inside the quotes.
-/

namespace SearchIndex

inductive Connective where
  | and
  | or
  /-- Takes one part. -/
  | not
  deriving DecidableEq, Repr, Inhabited

namespace Connective

def word : Connective → List Char
  | and => ['a', 'n', 'd']
  | or => ['o', 'r']
  | not => ['n', 'o', 't']

def Takes : Connective → Nat → Prop
  | not, n => n = 1
  | _, n => 0 < n

end Connective

/-- What is asked of one field. Bounds are inclusive. -/
inductive Test where
  | equals (value : Scalar)
  | range (lo hi : Option Int)
  deriving DecidableEq, Repr, Inhabited

inductive Formula where
  | test (field : String) (test : Test)
  | node (connective : Connective) (parts : List Formula)
  deriving Repr, Inhabited

/-! ## Spellings -/

/-- A text between quotes: `\\` and `\'` are the only escapes. -/
inductive Escaped : List Char → List Char → Prop
  | nil : Escaped [] []
  | plain {c s cs} : c ≠ '\\' → c ≠ '\'' → Escaped s cs → Escaped (c :: s) (c :: cs)
  | escape {c s cs} : c = '\\' ∨ c = '\'' → Escaped s cs → Escaped (c :: s) ('\\' :: c :: cs)

/-- A bound that may be left out. -/
def BoundSpelled : Option Int → List Char → Prop
  | none, cs => cs = []
  | some n, cs => Text.integer? cs = some n

namespace Test

def Spelled : Test → List Char → Prop
  | equals (.quoted s), cs => ∃ body, Escaped s.toList body ∧ cs = '\'' :: body ++ ['\'']
  | equals (.number n), cs => Text.digits? cs = some n
  | range lo hi, cs => (lo ≠ none ∨ hi ≠ none) ∧
      ∃ a b, BoundSpelled lo a ∧ BoundSpelled hi b ∧ cs = a ++ '.' :: '.' :: b

end Test

/-- Letters, digits and underscores. -/
def isWordChar (c : Char) : Bool := c.isAlphanum || c = '_'

def IsWord (cs : List Char) : Prop := cs ≠ [] ∧ ∀ c ∈ cs, isWordChar c

namespace Formula

mutual

/-- The texts that say a formula. -/
def Spelled : Formula → List Char → Prop
  | test field t, cs => IsWord field.toList ∧ ∃ text, t.Spelled text ∧ cs = field.toList ++ ':' :: text
  | node k parts, cs => k.Takes parts.length ∧
      ∃ body, SpelledAll parts body ∧ cs = '(' :: k.word ++ body ++ [')']

/-- Each part after a blank. -/
def SpelledAll : List Formula → List Char → Prop
  | [], cs => cs = []
  | f :: rest, cs => ∃ a b, f.Spelled a ∧ SpelledAll rest b ∧ cs = ' ' :: a ++ b

end

end Formula

/-! ## What ends a term -/

/-- A term ends at a blank, a closing parenthesis or the end of the text. -/
def Ends (t : List Char) : Prop := ∀ c ∈ t.head?, c = ' ' ∨ c = ')'

theorem append_split {p : Char → Bool} {a b s t : List Char} (ha : ∀ c ∈ a, p c) (hb : ∀ c ∈ b, p c)
    (hs : ∀ c ∈ s.head?, p c = false) (ht : ∀ c ∈ t.head?, p c = false) (h : a ++ s = b ++ t) :
    a = b ∧ s = t := by
  have e : ∀ {l r : List Char}, (∀ c ∈ l, p c) → (∀ c ∈ r.head?, p c = false) → (l ++ r).takeWhile p = l := by
    intro l r hl hr
    rw [List.takeWhile_append_of_pos hl]
    cases r with
    | nil => simp
    | cons c r => simp [hr c (by simp)]
  have hab : a = b := by rw [← e ha hs, h, e hb ht]
  subst hab
  exact ⟨rfl, List.append_cancel_left h⟩

theorem ends_split {a b s t : List Char} (ha : ∀ c ∈ a, c ≠ ' ' ∧ c ≠ ')') (hb : ∀ c ∈ b, c ≠ ' ' ∧ c ≠ ')')
    (hs : Ends s) (ht : Ends t) (h : a ++ s = b ++ t) : a = b ∧ s = t := by
  refine append_split (p := fun c => c ≠ ' ' ∧ c ≠ ')') (by simpa using ha) (by simpa using hb) ?_ ?_ h
  · intro c hc; rcases hs c hc with rfl | rfl <;> simp
  · intro c hc; rcases ht c hc with rfl | rfl <;> simp

theorem word_split {a b s t : List Char} {x y : Char} (ha : ∀ c ∈ a, isWordChar c) (hb : ∀ c ∈ b, isWordChar c)
    (hx : isWordChar x = false) (hy : isWordChar y = false) (h : a ++ x :: s = b ++ y :: t) :
    a = b ∧ x :: s = y :: t :=
  append_split ha hb (by simpa using hx) (by simpa using hy) h

/-! ## One reading -/

theorem escaped_unique {s s' body body' t t' : List Char} (h : Escaped s body) (h' : Escaped s' body')
    (e : body ++ '\'' :: t = body' ++ '\'' :: t') : s = s' ∧ body = body' ∧ t = t' := by
  induction h generalizing s' body' with
  | nil =>
    cases h' with
    | nil => simpa using e
    | plain _ hq _ => simp only [List.nil_append, List.cons_append, List.cons.injEq] at e; exact absurd e.1.symm hq
    | escape _ _ => simp at e
  | plain hb hq _ ih =>
    cases h' with
    | nil => simp only [List.nil_append, List.cons_append, List.cons.injEq] at e; exact absurd e.1 hq
    | plain _ _ h' =>
      simp only [List.cons_append, List.cons.injEq] at e
      obtain ⟨rfl, rfl, rfl⟩ := ih h' e.2
      simp [e.1]
    | escape _ _ => simp only [List.cons_append, List.cons.injEq] at e; exact absurd e.1 hb
  | escape _ _ ih =>
    cases h' with
    | nil => simp at e
    | plain hb _ _ => simp only [List.cons_append, List.cons.injEq] at e; exact absurd e.1.symm hb
    | escape _ h' =>
      simp only [List.cons_append, List.cons.injEq, true_and] at e
      obtain ⟨rfl, rfl, rfl⟩ := ih h' e.2
      simp [e.1]

theorem boundSpelled_unique {m n : Option Int} {cs : List Char} (h : BoundSpelled m cs) (h' : BoundSpelled n cs) :
    m = n := by
  cases m <;> cases n <;> simp only [BoundSpelled] at h h'
  · rfl
  · exact absurd h (Text.integer?_ne_nil h')
  · exact absurd h' (Text.integer?_ne_nil h)
  · rw [← h, ← h']

theorem boundSpelled_chars {n : Option Int} {cs : List Char} (h : BoundSpelled n cs) : ∀ c ∈ cs, Text.isNumberChar c := by
  cases n with
  | none => simp only [BoundSpelled] at h; simp [h]
  | some n => exact Text.integer?_chars h

/-- Numbers and ranges hold no blank, no parenthesis and no quote. -/
theorem Test.spelled_bare {t : Test} {cs : List Char} (h : t.Spelled cs) (hq : ∀ s, t ≠ .equals (.quoted s)) :
    ∀ c ∈ cs, Text.isNumberChar c ∨ c = '.' := by
  intro c hc
  match t, h with
  | .equals (.quoted s), _ => exact absurd rfl (hq s)
  | .equals (.number n), h => exact .inl (Text.digits?_chars h c hc)
  | .range lo hi, ⟨_, a, b, ha, hb, e⟩ =>
    subst e
    simp only [List.mem_append, List.mem_cons] at hc
    rcases hc with hc | rfl | rfl | hc
    · exact .inl (boundSpelled_chars ha c hc)
    · exact .inr rfl
    · exact .inr rfl
    · exact .inl (boundSpelled_chars hb c hc)

theorem Test.bare_ends {cs : List Char} (h : ∀ c ∈ cs, Text.isNumberChar c ∨ c = '.') :
    ∀ c ∈ cs, c ≠ ' ' ∧ c ≠ ')' := by
  intro c hc
  constructor <;> rintro rfl <;> exact absurd (h _ hc) (by decide)

/-- A text between quotes is told from a number or a range by its first character. -/
theorem Test.quoted_ne_bare {body cs t t' : List Char} (h : ∀ c ∈ cs, Text.isNumberChar c ∨ c = '.')
    (e : '\'' :: body ++ t = cs ++ t') (hcs : cs ≠ []) : False := by
  obtain ⟨c, cs, rfl⟩ := List.exists_cons_of_ne_nil hcs
  simp only [List.cons_append, List.cons.injEq] at e
  exact absurd (h c (by simp)) (by rw [← e.1]; decide)

theorem Test.spelled_ne_nil {t : Test} {cs : List Char} (h : t.Spelled cs) : cs ≠ [] := by
  match t, h with
  | .equals (.quoted s), ⟨_, _, e⟩ => simp [e]
  | .equals (.number n), h => exact (Text.digits?_eq_some_iff.1 h).1
  | .range lo hi, ⟨_, a, b, _, _, e⟩ => simp [e]

/-- A number and a range with one spelling would have a dot among digits. -/
theorem Test.bare_unique {t t' : Test} {cs : List Char} (h : t.Spelled cs) (h' : t'.Spelled cs)
    (hq : ∀ s, t ≠ .equals (.quoted s)) (hq' : ∀ s, t' ≠ .equals (.quoted s)) : t = t' := by
  have dotless : ∀ {a : List Char}, (∀ c ∈ a, Text.isNumberChar c) → ∀ c ∈ a, (c ≠ '.' : Bool) := by
    intro a ha c hc
    simp only [ne_eq, decide_not, Bool.not_eq_eq_eq_not, Bool.not_true, decide_eq_false_iff_not]
    rintro rfl
    exact absurd (ha _ hc) (by decide)
  match t, t', h, h' with
  | .equals (.quoted s), _, _, _ => exact absurd rfl (hq s)
  | _, .equals (.quoted s), _, _ => exact absurd rfl (hq' s)
  | .equals (.number m), .equals (.number n), h, h' => rw [Option.some.inj (h.symm.trans h')]
  | .equals (.number m), .range _ _, h, ⟨_, a, b, _, _, e⟩ =>
    exact absurd (dotless (Text.digits?_chars h) '.' (by simp [e])) (by decide)
  | .range _ _, .equals (.number m), ⟨_, a, b, _, _, e⟩, h =>
    exact absurd (dotless (Text.digits?_chars h) '.' (by simp [e])) (by decide)
  | .range lo hi, .range lo' hi', ⟨_, a, b, ha, hb, e⟩, ⟨_, a', b', ha', hb', e'⟩ =>
    obtain ⟨rfl, htl⟩ := append_split (p := fun c => c ≠ '.') (dotless (boundSpelled_chars ha))
      (dotless (boundSpelled_chars ha')) (by simp) (by simp) (e.symm.trans e')
    simp only [List.cons.injEq, true_and] at htl
    subst htl
    rw [boundSpelled_unique ha ha', boundSpelled_unique hb hb']

theorem Test.spelled_unique {t t' : Test} {cs cs' r r' : List Char} (h : t.Spelled cs) (h' : t'.Spelled cs')
    (hr : Ends r) (hr' : Ends r') (e : cs ++ r = cs' ++ r') : t = t' ∧ cs = cs' := by
  by_cases hq : ∃ s, t = .equals (.quoted s) <;> by_cases hq' : ∃ s, t' = .equals (.quoted s)
  · obtain ⟨s, rfl⟩ := hq
    obtain ⟨s', rfl⟩ := hq'
    obtain ⟨body, hb, rfl⟩ := h
    obtain ⟨body', hb', rfl⟩ := h'
    obtain ⟨hs, rfl, -⟩ := escaped_unique hb hb' (by simpa using e)
    rw [String.toList_inj.1 hs]
    simp
  · obtain ⟨s, rfl⟩ := hq
    obtain ⟨body, hb, rfl⟩ := h
    exact (quoted_ne_bare (spelled_bare h' (by simpa using hq')) e (spelled_ne_nil h')).elim
  · obtain ⟨s', rfl⟩ := hq'
    obtain ⟨body', hb', rfl⟩ := h'
    exact (quoted_ne_bare (spelled_bare h (by simpa using hq)) e.symm (spelled_ne_nil h)).elim
  · simp only [not_exists] at hq hq'
    obtain ⟨rfl, -⟩ := ends_split (bare_ends (spelled_bare h hq)) (bare_ends (spelled_bare h' hq')) hr hr' e
    exact ⟨bare_unique h h' hq hq', rfl⟩

theorem Connective.word_unique {k k' : Connective} (h : k.word = k'.word) : k = k' := by
  cases k <;> cases k' <;> simp_all [word]

theorem Connective.word_chars (k : Connective) : ∀ c ∈ k.word, isWordChar c := by
  cases k <;> simp [word, isWordChar]

theorem Formula.spelledAll_ends {fs : List Formula} {cs t : List Char} (h : SpelledAll fs cs) : Ends (cs ++ ')' :: t) := by
  cases fs with
  | nil => simp only [SpelledAll] at h; subst h; simp [Ends]
  | cons f fs => obtain ⟨a, b, -, -, rfl⟩ := h; simp [Ends]

theorem Formula.spelledAll_head {fs : List Formula} {cs : List Char} (h : SpelledAll fs cs) (hf : fs ≠ []) :
    ∃ tl, cs = ' ' :: tl := by
  cases fs with
  | nil => exact absurd rfl hf
  | cons f fs => obtain ⟨a, b, -, -, rfl⟩ := h; exact ⟨a ++ b, rfl⟩

theorem Connective.Takes.ne_nil {k : Connective} {fs : List Formula} (h : k.Takes fs.length) : fs ≠ [] := by
  rintro rfl
  cases k <;> simp [Takes] at h

mutual

/-- No text says two formulas, and where one ends the text goes on in one way. -/
theorem Formula.spelled_unique : ∀ {f f' : Formula} {cs cs' r r' : List Char}, f.Spelled cs → f'.Spelled cs' →
    Ends r → Ends r' → cs ++ r = cs' ++ r' → f = f' ∧ cs = cs'
  | .test field t, .test field' t', cs, cs', r, r', ⟨hw, text, ht, e⟩, ⟨hw', text', ht', e'⟩, hr, hr', h => by
    subst e e'
    simp only [List.append_assoc, List.cons_append] at h
    obtain ⟨hf, hrest⟩ := word_split hw.2 hw'.2 (by decide) (by decide) h
    simp only [List.cons.injEq, true_and] at hrest
    obtain ⟨rfl, rfl⟩ := Test.spelled_unique ht ht' hr hr' hrest
    rw [String.toList_inj.1 hf]
    exact ⟨rfl, rfl⟩
  | .test field t, .node k parts, cs, cs', r, r', ⟨hw, text, _, e⟩, ⟨_, body, _, e'⟩, _, _, h => by
    subst e e'
    obtain ⟨c, w, hc⟩ := List.exists_cons_of_ne_nil hw.1
    have hcw := hw.2 c (by simp [hc])
    simp only [hc, List.cons_append, List.cons.injEq] at h
    rw [h.1] at hcw
    exact absurd hcw (by decide)
  | .node k parts, .test field t, cs, cs', r, r', ⟨_, body, _, e⟩, ⟨hw, text, _, e'⟩, _, _, h => by
    subst e e'
    obtain ⟨c, w, hc⟩ := List.exists_cons_of_ne_nil hw.1
    have hcw := hw.2 c (by simp [hc])
    simp only [hc, List.cons_append, List.cons.injEq] at h
    rw [← h.1] at hcw
    exact absurd hcw (by decide)
  | .node k parts, .node k' parts', cs, cs', r, r', ⟨hk, body, hb, e⟩, ⟨hk', body', hb', e'⟩, _, _, h => by
    subst e e'
    obtain ⟨tl, rfl⟩ := spelledAll_head hb hk.ne_nil
    obtain ⟨tl', rfl⟩ := spelledAll_head hb' hk'.ne_nil
    simp only [List.cons_append, List.append_assoc, List.cons.injEq, true_and, List.nil_append] at h
    obtain ⟨hkk, hrest⟩ := word_split k.word_chars k'.word_chars (by decide) (by decide) h
    obtain rfl := Connective.word_unique hkk
    obtain ⟨rfl, hbb⟩ := spelledAll_unique hb hb' (show _ ++ ')' :: r = _ ++ ')' :: r' by simpa using hrest)
    rw [hbb]
    exact ⟨rfl, rfl⟩

theorem Formula.spelledAll_unique : ∀ {fs fs' : List Formula} {cs cs' t t' : List Char}, SpelledAll fs cs →
    SpelledAll fs' cs' → cs ++ ')' :: t = cs' ++ ')' :: t' → fs = fs' ∧ cs = cs'
  | [], [], _, _, _, _, h, h', _ => ⟨rfl, h.trans h'.symm⟩
  | [], f' :: fs', _, _, _, _, h, ⟨a, b, _, _, e'⟩, e => by
    simp only [SpelledAll] at h; subst h e'; simp at e
  | f :: fs, [], _, _, _, _, ⟨a, b, _, _, e'⟩, h, e => by
    simp only [SpelledAll] at h; subst h e'; simp at e
  | f :: fs, f' :: fs', _, _, t, t', ⟨a, b, ha, hb, e⟩, ⟨a', b', ha', hb', e'⟩, h => by
    subst e e'
    simp only [List.cons_append, List.append_assoc, List.cons.injEq, true_and] at h
    obtain ⟨rfl, rfl⟩ := spelled_unique ha ha' (spelledAll_ends hb) (spelledAll_ends hb') h
    obtain ⟨rfl, rfl⟩ := spelledAll_unique hb hb' (List.append_cancel_left h)
    exact ⟨rfl, rfl⟩

end

end SearchIndex
