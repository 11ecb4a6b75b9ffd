import SearchIndex.Text.Blank

/-!
# Trimming and splitting at blanks

What stands before the first character that is no blank, and after the last one, is all that trimming takes
away. A text is split at its first blank.
-/

namespace SearchIndex.Text

variable {c : Char} {a b cs : List Char}

theorem trimStart_append_cons (hc : isBlank c = false) (a b : List Char) :
    trimStart (a ++ c :: b) = trimStart a ++ c :: b := by
  rw [trimStart, List.dropWhile_append, List.dropWhile_cons_of_neg (by simp [hc])]
  split
  · rename_i h
    rw [trimStart, List.isEmpty_iff.1 h, List.nil_append]
  · rfl

theorem trimEnd_append_cons (hc : isBlank c = false) (a b : List Char) :
    trimEnd (a ++ c :: b) = a ++ c :: trimEnd b := by
  have h := trimStart_append_cons hc b.reverse a.reverse
  rw [trimStart, trimStart] at h
  simp [trimEnd, h]

theorem trimChars_append_cons (hc : isBlank c = false) (a b : List Char) :
    trimChars (a ++ c :: b) = trimStart a ++ c :: trimEnd b := by
  rw [trimChars, trimStart_append_cons hc, trimEnd_append_cons hc]

/-- Where there is no blank nothing is taken away. -/
theorem trimStart_append (h : ∀ c ∈ b, isBlank c = false) (a : List Char) :
    trimStart (a ++ b) = trimStart a ++ b := by
  cases b with
  | nil => simp
  | cons c b => exact trimStart_append_cons (h c List.mem_cons_self) a b

theorem trimStart_of_no_blank (h : ∀ c ∈ cs, isBlank c = false) : trimStart cs = cs :=
  trimStart_append h []

theorem trimEnd_of_no_blank (h : ∀ c ∈ cs, isBlank c = false) : trimEnd cs = cs := by
  have hr : trimStart cs.reverse = cs.reverse := trimStart_of_no_blank fun c hc => h c (List.mem_reverse.1 hc)
  rw [trimStart] at hr
  rw [trimEnd, hr, List.reverse_reverse]

theorem trimChars_of_no_blank (h : ∀ c ∈ cs, isBlank c = false) : trimChars cs = cs := by
  rw [trimChars, trimStart_of_no_blank h, trimEnd_of_no_blank h]

theorem trimEnd_prefix (cs : List Char) : trimEnd cs <+: cs := by
  have h := List.dropWhile_suffix (l := cs.reverse) isBlank
  rwa [← List.reverse_prefix, List.reverse_reverse] at h

/-! ## Blanks at the ends -/

theorem trimStart_blanks (h : ∀ c ∈ b, isBlank c = true) (cs : List Char) : trimStart (b ++ cs) = trimStart cs :=
  List.dropWhile_append_of_pos h

theorem trimEnd_blanks (h : ∀ c ∈ b, isBlank c = true) (cs : List Char) : trimEnd (cs ++ b) = trimEnd cs := by
  have hr : trimStart (b.reverse ++ cs.reverse) = trimStart cs.reverse :=
    trimStart_blanks (fun c hc => h c (List.mem_reverse.1 hc)) _
  rw [trimStart, trimStart] at hr
  rw [trimEnd, trimEnd, List.reverse_append, hr]

/-- Neither the first nor the last character is a blank. -/
structure IsTight (cs : List Char) : Prop where
  head : ∀ c ∈ cs.head?, isBlank c = false
  last : ∀ c ∈ cs.getLast?, isBlank c = false

instance : DecidablePred IsTight := fun cs =>
  decidable_of_iff (cs.head?.all (! isBlank ·) = true ∧ cs.getLast?.all (! isBlank ·) = true) <| by
    simp only [Option.all_eq_true, Bool.not_eq_true']
    exact ⟨fun h => ⟨h.1, h.2⟩, fun h => ⟨h.head, h.last⟩⟩

theorem IsTight.trimStart_append (h : IsTight cs) (hne : cs ≠ []) (after : List Char) :
    trimStart (cs ++ after) = cs ++ after := by
  obtain ⟨c, cs, rfl⟩ := List.exists_cons_of_ne_nil hne
  exact trimStart_append_cons (h.head c rfl) [] _

theorem IsTight.trimEnd_append (h : IsTight cs) (hne : cs ≠ []) (before : List Char) :
    trimEnd (before ++ cs) = before ++ cs := by
  have hlast : isBlank (cs.getLast hne) = false := h.last _ (List.getLast?_eq_some_getLast hne)
  rw [← List.dropLast_concat_getLast hne, ← List.append_assoc]
  exact trimEnd_append_cons hlast (before ++ cs.dropLast) []

theorem IsTight.trimChars_eq (h : IsTight cs) (hne : cs ≠ []) : trimChars cs = cs := by
  have hstart := h.trimStart_append hne []
  rw [List.append_nil] at hstart
  rw [trimChars, hstart]
  exact h.trimEnd_append hne []

theorem IsTight.append (ha : IsTight a) (hane : a ≠ []) (hb : IsTight b) (hbne : b ≠ []) (between : List Char) :
    IsTight (a ++ (between ++ b)) where
  head c hc := by
    have hhead := List.head?_eq_some_head hane
    rw [List.head?_append, hhead, Option.some_or, ← hhead] at hc
    exact ha.head c hc
  last c hc := by
    have hlast := List.getLast?_eq_some_getLast hbne
    rw [← List.append_assoc, List.getLast?_append, hlast, Option.some_or, ← hlast] at hc
    exact hb.last c hc

/-! ## Words -/

/-- A word: one or more characters, none of them a blank. -/
def IsUnbroken (cs : List Char) : Prop := cs ≠ [] ∧ ∀ c ∈ cs, isBlank c = false

/-- One or more blanks. -/
def IsGap (cs : List Char) : Prop := cs ≠ [] ∧ ∀ c ∈ cs, isBlank c = true

instance : DecidablePred IsUnbroken := fun cs =>
  decidable_of_iff (cs ≠ [] ∧ cs.all (! isBlank ·) = true) (by simp [IsUnbroken])

instance : DecidablePred IsGap := fun cs => decidable_of_iff (cs ≠ [] ∧ cs.all isBlank = true) (by simp [IsGap])

theorem IsUnbroken.isTight (h : IsUnbroken cs) : IsTight cs where
  head c hc := h.2 c (List.mem_of_mem_head? hc)
  last c hc := h.2 c (List.mem_of_mem_getLast? hc)

theorem splitAtBlank_append_cons (h : ∀ c ∈ a, isBlank c = false) (hc : isBlank c = true) (b : List Char) :
    splitAtBlank (a ++ c :: b) = some (a, b) := by
  have ha : ∀ c ∈ a, (! isBlank c) = true := fun c hc => by rw [h c hc]; rfl
  rw [splitAtBlank, List.dropWhile_append_of_pos ha, List.takeWhile_append_of_pos ha]
  simp [hc]

/-! ## What trimming and splitting give -/

/-- Only blanks are taken away at the start. -/
theorem exists_trimStart (cs : List Char) : ∃ before, cs = before ++ trimStart cs ∧ ∀ c ∈ before, isBlank c = true :=
  ⟨cs.takeWhile isBlank, List.takeWhile_append_dropWhile.symm, List.all_eq_true.1 List.all_takeWhile⟩

/-- Only blanks are taken away at the end. -/
theorem exists_trimEnd (cs : List Char) : ∃ after, cs = trimEnd cs ++ after ∧ ∀ c ∈ after, isBlank c = true := by
  obtain ⟨before, hcs, hbefore⟩ := exists_trimStart cs.reverse
  refine ⟨before.reverse, ?_, fun c hc => hbefore c (List.mem_reverse.1 hc)⟩
  rw [trimEnd, ← List.reverse_append, ← trimStart, ← hcs, List.reverse_reverse]

theorem exists_trimChars (cs : List Char) : ∃ before after, cs = before ++ (trimChars cs ++ after) ∧
    (∀ c ∈ before, isBlank c = true) ∧ ∀ c ∈ after, isBlank c = true := by
  obtain ⟨before, hstart, hbefore⟩ := exists_trimStart cs
  obtain ⟨after, hend, hafter⟩ := exists_trimEnd (trimStart cs)
  exact ⟨before, after, by rw [trimChars, ← hend, ← hstart], hbefore, hafter⟩

theorem head?_trimStart (h : c ∈ (trimStart cs).head?) : isBlank c = false := by
  have hhead := List.head?_dropWhile_not isBlank cs
  rw [trimStart] at h
  rw [Option.mem_def.1 h] at hhead
  simpa using hhead

/-- Neither end is a blank any more. -/
theorem isTight_trimChars (cs : List Char) : IsTight (trimChars cs) where
  head c hc := by
    obtain ⟨rest, hrest⟩ := trimEnd_prefix (trimStart cs)
    have hhead : c ∈ (trimStart cs).head? := by
      rw [trimChars] at hc
      rw [← hrest, List.head?_append, Option.mem_def.1 hc]
      rfl
    exact head?_trimStart hhead
  last c hc := by
    rw [trimChars, trimEnd, List.getLast?_reverse] at hc
    exact head?_trimStart hc

/-- A text that ends with no blank does not end with a row of blanks. -/
theorem IsTight.exists_not_blank (h : IsTight (a ++ b)) (hne : b ≠ []) : ∃ c ∈ b, isBlank c = false := by
  refine ⟨b.getLast hne, List.getLast_mem hne, h.last _ ?_⟩
  rw [List.getLast?_append, List.getLast?_eq_some_getLast hne]
  rfl

theorem splitAtBlank_eq_some (h : splitAtBlank cs = some (a, b)) :
    (∀ c ∈ a, isBlank c = false) ∧ ∃ c, isBlank c = true ∧ cs = a ++ c :: b := by
  unfold splitAtBlank at h
  split at h
  · cases h
  · rename_i c rest hrest
    cases h
    have hblank := List.head?_dropWhile_not (! isBlank ·) cs
    rw [hrest] at hblank
    refine ⟨fun c hc => by simpa using List.all_eq_true.1 List.all_takeWhile c hc, c, by simpa using hblank, ?_⟩
    rw [← hrest, List.takeWhile_append_dropWhile]

end SearchIndex.Text
