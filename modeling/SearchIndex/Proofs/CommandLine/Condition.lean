import SearchIndex.CommandLine.Condition
import SearchIndex.Proofs.Results
import SearchIndex.Proofs.Text.Blank

/-!
# Conditions in words are read back

A condition is read from three parts with blanks between and around them, whatever blanks these are. A text
in single quotes is read as that text. A list is cut at its commas before the quotes are looked at, so
quoted texts are read back from a list just if none of them holds a comma.
-/

namespace SearchIndex.Condition

open Text

/-! ## The three parts -/

theorem parse_of_parts {s : String} {before field gap word gap' value after : List Char}
    (hs : s.toList = before ++ (field ++ (gap ++ (word ++ (gap' ++ (value ++ after))))))
    (hbefore : ∀ c ∈ before, isBlank c = true) (hfield : IsUnbroken field) (hgap : IsGap gap)
    (hword : IsUnbroken word) (hgap' : IsGap gap') (hne : value ≠ []) (hvalue : IsTight value)
    (hafter : ∀ c ∈ after, isBlank c = true) :
    parse s = ((Operator.parse (.ofList word)).mapError .query).map fun op =>
      { field := .ofList field, op, operand := operandFor op value } := by
  obtain ⟨hnonempty, hgap⟩ := hgap
  obtain ⟨hnonempty', hgap'⟩ := hgap'
  obtain ⟨c, gap, rfl⟩ := List.exists_cons_of_ne_nil hnonempty
  obtain ⟨c', gap', rfl⟩ := List.exists_cons_of_ne_nil hnonempty'
  simp only [List.forall_mem_cons] at hgap hgap'
  -- the blanks at both ends go, and no more than these
  have hends : trimChars s.toList = field ++ c :: (gap ++ (word ++ c' :: (gap' ++ value))) := by
    have hend : trimEnd ((field ++ (c :: gap ++ (word ++ (c' :: gap')))) ++ value ++ after) =
        (field ++ (c :: gap ++ (word ++ (c' :: gap')))) ++ value := by
      rw [trimEnd_blanks hafter, hvalue.trimEnd_append hne]
    rw [hs, trimChars, trimStart_blanks hbefore, hfield.isTight.trimStart_append hfield.1]
    simpa using hend
  have hfirst : splitAtBlank (trimChars s.toList) = some (field, gap ++ (word ++ c' :: (gap' ++ value))) := by
    rw [hends, splitAtBlank_append_cons hfield.2 hgap.1]
  have hsecond : splitAtBlank (trimStart (gap ++ (word ++ c' :: (gap' ++ value)))) = some (word, gap' ++ value) := by
    rw [trimStart_blanks hgap.2, hword.isTight.trimStart_append hword.1, splitAtBlank_append_cons hword.2 hgap'.1]
  have hlast : trimChars (gap' ++ value) = value := by
    rw [trimChars, trimStart_blanks hgap'.2]
    exact hvalue.trimChars_eq hne
  simp only [parse, hfirst, hsecond, hlast]
  cases Operator.parse (.ofList word) <;> rfl

theorem isUnbroken_symbol (op : Operator) : IsUnbroken op.symbol.toList := by
  cases op <;> decide

theorem parse_symbol (op : Operator) : Operator.parse op.symbol = .ok op := by
  cases op <;> rfl

/-- The parts with single blanks between them. -/
theorem parse_spaced {field value : String} (op : Operator) (hfield : IsUnbroken field.toList)
    (hne : value.toList ≠ []) (hvalue : IsTight value.toList) :
    parse (field ++ " " ++ op.symbol ++ " " ++ value) = .ok ⟨field, op, operandFor op value.toList⟩ := by
  have hgap : IsGap [' '] := by decide
  have hs : (field ++ " " ++ op.symbol ++ " " ++ value).toList =
      [] ++ (field.toList ++ ([' '] ++ (op.symbol.toList ++ ([' '] ++ (value.toList ++ []))))) := by simp
  rw [parse_of_parts hs nofun hfield hgap (isUnbroken_symbol op) hgap hne hvalue nofun, String.ofList_toList,
    String.ofList_toList, parse_symbol]
  rfl

/-! ## Quotes -/

/-- A text in single quotes, as it stands. -/
def quoted (s : String) : String := "'" ++ s ++ "'"

theorem toList_quoted (s : String) : (quoted s).toList = '\'' :: (s.toList ++ ['\'']) := by simp [quoted]

theorem isTight_quoted (s : String) : IsTight (quoted s).toList where
  head c hc := by
    rw [toList_quoted, List.head?_cons, Option.mem_some] at hc
    subst hc
    decide
  last c hc := by
    rw [toList_quoted, ← List.cons_append, List.getLast?_concat, Option.mem_some] at hc
    subst hc
    decide

theorem scalar_quoted (s : String) : scalar (quoted s).toList = .text s := by
  simp [toList_quoted, scalar, unquoted?]

/-- Without a quote at its start a text is an integer if it reads as one. -/
theorem scalar_of_head_ne {cs : List Char} (h : cs.head? ≠ some '\'') :
    scalar cs = match signed64? cs with
      | some n => .int n
      | none => .text (.ofList cs) := by
  have hnone : unquoted? cs = none := by
    unfold unquoted?
    split
    · exact absurd rfl h
    · rfl
  cases hn : signed64? cs <;> simp only [scalar, hnone, hn]

/-! ## Lists -/

theorem splitOn_intercalate {α : Type} [BEq α] [LawfulBEq α] (x : α) {ls : List (List α)} (hne : ls ≠ []) :
    ([x].intercalate ls).splitOn x = ls.flatMap (·.splitOn x) := by
  induction ls with
  | nil => exact absurd rfl hne
  | cons l ls ih =>
    cases ls with
    | nil => simp
    | cons l' ls =>
      have hrest := ih (by simp)
      rw [List.intercalate_cons_cons, List.append_assoc, List.singleton_append, List.splitOn_append_cons_self, hrest]
      rfl

theorem length_splitOn {α : Type} [BEq α] [LawfulBEq α] (x : α) (l : List α) :
    (l.splitOn x).length = l.count x + 1 := by
  induction l with
  | nil => simp
  | cons a l ih =>
    rw [List.splitOn_cons_eq_if_modifyHead, List.count_cons]
    split
    · rw [List.length_cons, ih]
    · rw [List.length_modifyHead, ih, Nat.add_zero]

/-- What is read from a quoted text in a list: the parts between its commas, the quotes left on them. -/
def quotedParts (s : String) : List Operand := ((quoted s).toList.splitOn ',').map fun part => scalar (trimChars part)

theorem length_quotedParts (s : String) : (quotedParts s).length = s.toList.count ',' + 1 := by
  rw [quotedParts, List.length_map, length_splitOn, toList_quoted]
  simp [List.count_append]

theorem quotedParts_of_no_comma {s : String} (h : ',' ∉ s.toList) : quotedParts s = [.text s] := by
  have hnone : ',' ∉ (quoted s).toList := by simpa [toList_quoted] using h
  rw [quotedParts, List.splitOn_eq_singleton hnone, List.map_singleton,
    (isTight_quoted s).trimChars_eq (by simp [toList_quoted]), scalar_quoted]

theorem isTight_intercalate {ls : List (List Char)} (h : ∀ l ∈ ls, IsTight l ∧ l ≠ []) (hne : ls ≠ []) :
    IsTight ([','].intercalate ls) ∧ [','].intercalate ls ≠ [] := by
  induction ls with
  | nil => exact absurd rfl hne
  | cons l ls ih =>
    obtain ⟨⟨hl, hlne⟩, hls⟩ := List.forall_mem_cons.1 h
    cases ls with
    | nil => simpa using And.intro hl hlne
    | cons l' ls =>
      obtain ⟨hrest, hrestne⟩ := ih hls (by simp)
      rw [List.intercalate_cons_cons, List.append_assoc]
      exact ⟨hl.append hlne hrest hrestne _, by simp⟩

theorem toList_quoted_list (values : List String) :
    (",".intercalate (values.map quoted)).toList = [','].intercalate (values.map fun v => (quoted v).toList) := by
  simp [Function.comp_def]

/-- Where one quoted text ends and the next begins is never lost. -/
theorem parse_quoted_list {field : String} {values : List String} (hfield : IsUnbroken field.toList)
    (hne : values ≠ []) :
    parse (field ++ " any " ++ ",".intercalate (values.map quoted)) =
      .ok ⟨field, .any, .list (values.flatMap quotedParts)⟩ := by
  have hvalues : ∀ l ∈ values.map fun v => (quoted v).toList, IsTight l ∧ l ≠ [] := by
    intro l hl
    obtain ⟨v, -, rfl⟩ := List.mem_map.1 hl
    exact ⟨isTight_quoted v, by simp [toList_quoted]⟩
  obtain ⟨htight, hnonempty⟩ := isTight_intercalate hvalues (by simpa using hne)
  rw [← toList_quoted_list] at htight hnonempty
  have hspaced : field ++ " any " ++ ",".intercalate (values.map quoted) =
      field ++ " " ++ Operator.any.symbol ++ " " ++ ",".intercalate (values.map quoted) := by
    simp only [String.append_assoc]
    rfl
  rw [hspaced, parse_spaced .any hfield hnonempty htight, operandFor, toList_quoted_list,
    splitOn_intercalate ',' (by simpa using hne), List.flatMap_map, List.map_flatMap]
  rfl

theorem length_flatMap_quotedParts (values : List String) :
    (values.flatMap quotedParts).length = values.length + (values.flatMap String.toList).count ',' := by
  induction values with
  | nil => rfl
  | cons v values ih =>
    rw [List.flatMap_cons, List.length_append, ih, length_quotedParts, List.length_cons, List.flatMap_cons,
      List.count_append]
    omega

theorem flatMap_quotedParts_eq_iff (values : List String) :
    values.flatMap quotedParts = values.map .text ↔ ∀ v ∈ values, ',' ∉ v.toList := by
  constructor
  · -- as many operands as texts leave no room for a comma
    intro h v hv
    have hlength := length_flatMap_quotedParts values
    rw [h, List.length_map] at hlength
    have hcount : (values.flatMap String.toList).count ',' = 0 := by omega
    exact fun hcomma => List.count_eq_zero.1 hcount (List.mem_flatMap.2 ⟨v, hv, hcomma⟩)
  · intro h
    induction values with
    | nil => rfl
    | cons v values ih =>
      rw [List.forall_mem_cons] at h
      rw [List.flatMap_cons, quotedParts_of_no_comma h.1, ih h.2]
      rfl

/-- A list of quoted texts is read as one operand for each, and one more for each comma in them. It is read
back as it was written just if no text holds a comma. -/
theorem quoted_list_read_back_iff (field : String) (values : List String) (hfield : IsUnbroken field.toList)
    (hne : values ≠ []) :
    ∃ items, parse (field ++ " any " ++ ",".intercalate (values.map quoted)) = .ok ⟨field, .any, .list items⟩ ∧
      items.length = values.length + (values.flatMap String.toList).count ',' ∧
      (items = values.map .text ↔ ∀ v ∈ values, ',' ∉ v.toList) :=
  ⟨_, parse_quoted_list hfield hne, length_flatMap_quotedParts values, flatMap_quotedParts_eq_iff values⟩

/-- Digits, quotes and blanks in the texts, and no text at all. -/
theorem quoted_list_read_back_iff_names :
    IsUnbroken "name".toList ∧ ["12", " it's 'so' ", ""] ≠ [] ∧
    parse "name any '12',' it's 'so' ',''" =
      .ok ⟨"name", .any, .list [.text "12", .text " it's 'so' ", .text ""]⟩ := by
  have hfield : IsUnbroken "name".toList := by decide
  obtain ⟨items, hparse, -, hiff⟩ := quoted_list_read_back_iff "name" ["12", " it's 'so' ", ""] hfield (by decide)
  have hitems := hiff.2 (by decide)
  rw [hitems] at hparse
  exact ⟨hfield, by decide, hparse⟩

/-- A comma between the quotes cuts the text in two, with a quote left on each part. -/
theorem quoted_comma_cuts_text :
    parse ("name" ++ " any " ++ ",".intercalate (["Doe, John"].map quoted)) =
      .ok ⟨"name", .any, .list [.text "'Doe", .text "John'"]⟩ ∧
    parse ("name" ++ " any " ++ ",".intercalate (["Doe, John"].map quoted)) ≠
      .ok ⟨"name", .any, .list (["Doe, John"].map .text)⟩ := by
  have hparse : parse ("name" ++ " any " ++ ",".intercalate (["Doe, John"].map quoted)) =
      .ok ⟨"name", .any, .list [.text "'Doe", .text "John'"]⟩ := rfl
  refine ⟨hparse, fun h => ?_⟩
  rw [hparse] at h
  simp at h

end SearchIndex.Condition
