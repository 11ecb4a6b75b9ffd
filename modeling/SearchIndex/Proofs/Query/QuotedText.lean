import SearchIndex.Proofs.Query.TopLevel

/-!
# Where a text between quotes ends

A reader that has passed an opening quote takes a backslash together with the character after it, and stops at
the first quote that it does not take that way. Of a text that was written between quotes it reads just that
text, and it leaves what comes after the closing quote: `readQuoted?_quoteChars`. In a whole boolean query it
finds the texts that the clauses were made from, one after the other: `finds_joinClauses`.
-/

namespace SearchIndex

/-- The text from behind an opening quote on, and what follows its closing quote. A backslash is taken together
with the character after it, which it stands for, and the first quote that is not taken so ends the text. -/
def readQuoted? : List Char → Option (List Char × List Char)
  | [] => none
  | '\'' :: rest => some ([], rest)
  | ['\\'] => none
  | '\\' :: c :: cs => (readQuoted? cs).map (Prod.map (c :: ·) id)
  | c :: cs => (readQuoted? cs).map (Prod.map (c :: ·) id)

/-- `ReadsAs body s`: between quotes, `body` reads as `s`. A backslash may stand before any character, and has to
stand before quotes and backslashes. -/
inductive ReadsAs : List Char → List Char → Prop
  | nil : ReadsAs [] []
  | plain {c cs s} : c ≠ '\\' → c ≠ '\'' → ReadsAs cs s → ReadsAs (c :: cs) (c :: s)
  | escape {c cs s} : ReadsAs cs s → ReadsAs ('\\' :: c :: cs) (c :: s)

/-- A backslash before every `x`. -/
def backslashBefore (x : Char) (cs : List Char) : List Char :=
  cs.flatMap fun c => if c = x then ['\\', c] else [c]

variable {c : Char} {cs s rest body : List Char}

/-! ## Reading one text -/

theorem readQuoted?_plain (hback : c ≠ '\\') (hquote : c ≠ '\'') :
    readQuoted? (c :: cs) = (readQuoted? cs).map (Prod.map (c :: ·) id) := by
  rw [readQuoted?]
  · exact hquote
  · intro h
    exact absurd h hback
  · intro _ _ h
    exact absurd h hback

theorem readQuoted?_of_readsAs (h : ReadsAs body s) (rest : List Char) :
    readQuoted? (body ++ '\'' :: rest) = some (s, rest) := by
  induction h with
  | nil => rfl
  | plain hback hquote _ ih => rw [List.cons_append, readQuoted?_plain hback hquote, ih]; rfl
  | escape _ ih => rw [List.cons_append, List.cons_append, readQuoted?, ih]; rfl

theorem readQuoted?_eq_some_iff :
    readQuoted? cs = some (s, rest) ↔ ∃ body, ReadsAs body s ∧ cs = body ++ '\'' :: rest := by
  constructor
  · intro h
    fun_induction readQuoted? cs generalizing s rest with
    | case1 => cases h
    | case2 rest => cases h; exact ⟨[], .nil, rfl⟩
    | case3 => cases h
    | case4 c cs ih =>
      obtain ⟨⟨s, rest⟩, hread, ⟨⟩⟩ := Option.map_eq_some_iff.1 h
      obtain ⟨body, hbody, rfl⟩ := ih hread
      exact ⟨'\\' :: c :: body, .escape hbody, rfl⟩
    | case5 c cs hquote _ hpair ih =>
      obtain ⟨⟨s, rest⟩, hread, ⟨⟩⟩ := Option.map_eq_some_iff.1 h
      obtain ⟨body, hbody, rfl⟩ := ih hread
      -- there is at least the quote after it, so a backslash would have been taken with the next character
      have hback : c ≠ '\\' := by
        rintro rfl
        cases body <;> exact hpair _ _ rfl rfl
      exact ⟨c :: body, .plain hback hquote hbody, rfl⟩
  · rintro ⟨body, hbody, rfl⟩
    exact readQuoted?_of_readsAs hbody rest

/-- What has been read is read again, whatever comes behind it. -/
theorem readQuoted?_append (h : readQuoted? cs = some (s, rest)) (t : List Char) :
    readQuoted? (cs ++ t) = some (s, rest ++ t) := by
  obtain ⟨body, hbody, rfl⟩ := readQuoted?_eq_some_iff.1 h
  exact readQuoted?_eq_some_iff.2 ⟨body, hbody, by simp⟩

theorem length_of_readQuoted? (h : readQuoted? cs = some (s, rest)) : rest.length < cs.length := by
  obtain ⟨body, -, rfl⟩ := readQuoted?_eq_some_iff.1 h
  simp only [List.length_append, List.length_cons]
  omega

/-- A reader that always stops at the end of a text does not stop earlier. -/
theorem readQuoted?_of_early {literal early : List Char} (h : ∀ t, readQuoted? (literal ++ t) = some (s, t))
    (hearly : early <+: literal) (hne : early ≠ literal) : readQuoted? early = none := by
  obtain ⟨more, rfl⟩ := hearly
  cases hread : readQuoted? early with
  | none => rfl
  | some p =>
    obtain ⟨s', rest⟩ := p
    have hwhole := h []
    rw [List.append_nil, readQuoted?_append hread] at hwhole
    simp only [Option.some.injEq, Prod.mk.injEq, List.append_eq_nil_iff] at hwhole
    rw [hwhole.2.2, List.append_nil] at hne
    exact absurd rfl hne

/-! ## Texts between quotes -/

/-- The backslashes are doubled first, and then the quotes get theirs. -/
theorem quoteChars_eq (s : List Char) : quoteChars s = backslashBefore '\'' (backslashBefore '\\' s) := by
  unfold backslashBefore
  induction s with
  | nil => rfl
  | cons c s ih =>
    rw [List.flatMap_cons, List.flatMap_append, ← ih, quoteChars]
    by_cases hback : c = '\\'
    · subst hback
      rfl
    · by_cases hquote : c = '\'' <;> simp [hback, hquote]

/-- The other way round the backslash of a quote would be doubled, and the quote would end the text. -/
example : readQuoted? (backslashBefore '\\' (backslashBefore '\'' ['\'']) ++ ['\'']) = some (['\\'], ['\'']) := by
  decide

theorem Escaped.readsAs (h : Escaped s body) : ReadsAs body s := by
  induction h with
  | nil => exact .nil
  | plain hback hquote _ ih => exact .plain hback hquote ih
  | escape _ _ ih => exact .escape ih

theorem readQuoted?_quoteChars (s rest : List Char) : readQuoted? (quoteChars s ++ '\'' :: rest) = some (s, rest) :=
  readQuoted?_of_readsAs (escaped_quoteChars s).readsAs rest

/-- Where one quoted text begins no other does, whatever follows. -/
theorem Scalar.render_quoted_append_inj {s s' t t' : String}
    (h : (quoted s).render ++ t = (quoted s').render ++ t') : s = s' ∧ t = t' := by
  have hchars := congrArg String.toList h
  simp only [render, String.toList_append, String.toList_ofList, List.cons_append, List.append_assoc,
    List.nil_append, List.cons.injEq, true_and] at hchars
  have hread := readQuoted?_quoteChars s.toList t.toList
  rw [hchars, readQuoted?_quoteChars, Option.some.injEq, Prod.mk.injEq] at hread
  exact ⟨(String.toList_inj.1 hread.1).symm, (String.toList_inj.1 hread.2).symm⟩

/-! ## Reading a whole query -/

/-- The texts between the quotes of a query, in order; none if the last of them does not end. -/
def quotedTexts? : List Char → Option (List String)
  | [] => some []
  | c :: cs =>
    if c = '\'' then
      match h : readQuoted? cs with
      | none => none
      | some (s, rest) =>
        have := length_of_readQuoted? h
        (quotedTexts? rest).map (.ofList s :: ·)
    else quotedTexts? cs
termination_by cs => cs.length

theorem quotedTexts?_quote (h : readQuoted? cs = some (s, rest)) :
    quotedTexts? ('\'' :: cs) = (quotedTexts? rest).map (.ofList s :: ·) := by
  rw [quotedTexts?, if_pos rfl]
  split
  · rename_i hnone
    rw [h] at hnone
    cases hnone
  · rename_i hsome
    rw [h] at hsome
    cases hsome
    rfl

/-- The texts that a scalar holds. -/
def Scalar.texts : Scalar → List String
  | quoted s => [s]
  | number _ => []

/-- The texts that a clause was made from. -/
def Clause.texts : Clause → List String
  | equals _ v | differs _ v => v.texts
  | oneOf _ vs => vs.flatMap Scalar.texts
  | _ => []

/-- A part of a query in which the texts are found, and nothing of the rest is taken with them. -/
def Finds (cs : List Char) (texts : List String) : Prop :=
  ∀ rest, quotedTexts? (cs ++ rest) = (quotedTexts? rest).map (texts ++ ·)

namespace Finds

variable {a b : List Char} {xs ys : List String}

theorem whole (h : Finds a xs) : quotedTexts? a = some xs := by
  simpa [quotedTexts?] using h []

theorem append (ha : Finds a xs) (hb : Finds b ys) : Finds (a ++ b) (xs ++ ys) := by
  intro rest
  rw [List.append_assoc, ha, hb, Option.map_map]
  congr 1
  funext texts
  exact (List.append_assoc xs ys texts).symm

theorem bare (h : '\'' ∉ a) : Finds a [] := by
  intro rest
  induction a with
  | nil => simp
  | cons c a ih =>
    obtain ⟨hc, ha⟩ := not_or.1 (mt List.mem_cons.2 h)
    rw [List.cons_append, quotedTexts?, if_neg (Ne.symm hc)]
    exact ih ha

/-- Bounds hold no quote. -/
theorem range {s : String} (h : IsRangeText s) : Finds s.toList [] :=
  bare fun hmem => (h.bare _ hmem).2.2.2 rfl

theorem quoted (s : String) : Finds (Scalar.quoted s).render.toList [s] := by
  intro rest
  have hread := readQuoted?_quoteChars s.toList rest
  simpa [Scalar.render] using quotedTexts?_quote hread

theorem scalar (v : Scalar) : Finds v.render.toList v.texts := by
  cases v with
  | quoted s => exact quoted s
  | number n =>
    have hdigits := Test.spelled_bare (Scalar.number n).render_spelled (by simp)
    exact bare fun h => (isBare_of_number (hdigits _ h)).2.2.2 rfl

theorem term {f text : String} (hf : '\'' ∉ f.toList) (h : Finds text.toList xs) :
    Finds (Clause.term f text).toList xs := by
  have hcolon : Finds [':'] [] := bare (by decide)
  simpa [Clause.term] using (bare hf).append (hcolon.append h)

theorem enclosed {before text after : String} (hbefore : '\'' ∉ before.toList) (h : Finds text.toList xs)
    (hafter : '\'' ∉ after.toList) : Finds (before ++ text ++ after).toList xs := by
  simpa using (bare hbefore).append (h.append (bare hafter))

theorem words {α : Type} {text : α → String} {found : α → List String} {l : List α}
    (h : ∀ x ∈ l, Finds (text x).toList (found x)) :
    Finds (" ".intercalate (l.map text)).toList (l.flatMap found) := by
  induction l with
  | nil => exact bare (by simp)
  | cons x l ih =>
    have hx := h x List.mem_cons_self
    have hrest := ih fun y hy => h y (List.mem_cons_of_mem _ hy)
    cases l with
    | nil => simpa using hx
    | cons y l =>
      have hblank : Finds [' '] [] := bare (by decide)
      simpa using hx.append (hblank.append hrest)

end Finds

/-- A clause without other quotes than those of its texts. -/
structure Clause.QuoteFree (c : Clause) : Prop where
  field : '\'' ∉ c.field.toList
  range : ∀ s, c = .within c.field s → '\'' ∉ s.toList

theorem Clause.QuoteFree.finds {c : Clause} (h : c.QuoteFree) : Finds c.render.toList c.texts := by
  have hf := h.field
  cases c with
  | equals f v => exact .term hf (.scalar v)
  | differs f v => exact .enclosed (by decide) (.term hf (.scalar v)) (by decide)
  | oneOf f vs => exact .enclosed (by decide) (.words fun v _ => .term hf (.scalar v)) (by decide)
  | atLeast f n => exact .term hf (.range (isRangeText_atLeast n))
  | atMost f n => exact .term hf (.range (isRangeText_atMost n))
  | between f lo hi => exact .term hf (.range (isRangeText_between lo hi))
  | within f s => exact .term hf (.bare (h.range s rfl))

/-- The texts found in joined clauses are those of each clause. -/
theorem finds_joinClauses {cs : List Clause} (hne : cs ≠ []) (h : ∀ c ∈ cs, c.QuoteFree) :
    ∃ text, joinClauses (cs.map Clause.render) = some text ∧ Finds text.toList (cs.flatMap Clause.texts) := by
  have hfinds : ∀ c ∈ cs, Finds c.render.toList c.texts := fun c hc => (h c hc).finds
  match cs, hne with
  | [c], _ => exact ⟨c.render, rfl, by simpa using hfinds c List.mem_cons_self⟩
  | c :: d :: cs, _ => exact ⟨_, rfl, .enclosed (by decide) (.words hfinds) (by decide)⟩

end SearchIndex
