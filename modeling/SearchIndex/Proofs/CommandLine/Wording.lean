import SearchIndex.Proofs.CommandLine.Condition
import SearchIndex.Proofs.Text.Decimal

/-!
# Which words are a condition

A condition is read from a field, a spelling of an operator and a value with blanks between them, and from
nothing else. How many blanks there are and which does not matter. What is read of the value is told by how it
is written: in quotes, as an integer, as two integers with points between them, or otherwise.
-/

namespace SearchIndex

open Text

/-! ## Operators -/

/-- The ways to write an operator. -/
def Operator.spellings : Operator → List String
  | equals => ["==", "=", "eq"]
  | notEquals => ["!=", "ne"]
  | any => ["any"]
  | withinRange => ["within_range", "range"]
  | greater => [">", "gt"]
  | greaterOrEqual => [">=", "ge"]
  | less => ["<", "lt"]
  | lessOrEqual => ["<=", "le"]

theorem Operator.spelled?_eq_some_iff {word : String} {op : Operator} :
    Operator.spelled? word = some op ↔ word ∈ op.spellings := by
  constructor
  · unfold Operator.spelled?
    split <;> intro h <;> cases h <;> simp [Operator.spellings]
  · have hall : ∀ word ∈ op.spellings, Operator.spelled? word = some op := by cases op <;> decide
    exact hall word

/-- A word is read as the operator that is spelled so. -/
theorem Operator.parse_eq_ok_iff {word : String} (h : IsUnbroken word.toList) {op : Operator} :
    Operator.parse word = .ok op ↔ word ∈ op.spellings := by
  rw [← Operator.spelled?_eq_some_iff, Operator.parse, Operator.parse?, trim, trimChars_of_no_blank h.2, String.ofList_toList]
  cases Operator.spelled? word <;> simp

namespace Condition

/-! ## Fields, words and values -/

/-- The text is a field, a word and a value: there is no blank in the first two and none at the ends of the
value, and blanks stand between the three and may stand around them. -/
def Parts (s field word value : String) : Prop :=
  ∃ before gap gap' after,
    s.toList = before ++ (field.toList ++ (gap ++ (word.toList ++ (gap' ++ (value.toList ++ after))))) ∧
    (∀ c ∈ before, isBlank c = true) ∧ IsUnbroken field.toList ∧ IsGap gap ∧ IsUnbroken word.toList ∧ IsGap gap' ∧
    (value.toList ≠ [] ∧ IsTight value.toList) ∧ ∀ c ∈ after, isBlank c = true

theorem Parts.parse_eq {s field word value : String} (h : Parts s field word value) :
    parse s = ((Operator.parse word).mapError .query).map fun op =>
      { field, op, operand := operandFor op value.toList } := by
  obtain ⟨before, gap, gap', after, hs, hbefore, hfield, hgap, hword, hgap', ⟨hne, hvalue⟩, hafter⟩ := h
  rw [parse_of_parts hs hbefore hfield hgap hword hgap' hne hvalue hafter, String.ofList_toList, String.ofList_toList]

theorem Parts.parse_eq_ok {s field word value : String} {op : Operator} (h : Parts s field word value)
    (hop : word ∈ op.spellings) : parse s = .ok ⟨field, op, operandFor op value.toList⟩ := by
  have hword : IsUnbroken word.toList := by
    obtain ⟨_, _, _, _, -, -, -, -, hword, -⟩ := h
    exact hword
  rw [h.parse_eq, (Operator.parse_eq_ok_iff hword).2 hop]
  rfl

theorem isGap_cons {c : Char} {cs : List Char} (hc : isBlank c = true) (hcs : ∀ c ∈ cs, isBlank c = true) :
    IsGap (c :: cs) :=
  ⟨List.cons_ne_nil c cs, List.forall_mem_cons.2 ⟨hc, hcs⟩⟩

/-- What stands before the first blank of a text that begins with none is a word. -/
theorem isUnbroken_of_split {cs a b : List Char} (h : splitAtBlank cs = some (a, b))
    (hhead : ∀ c ∈ cs.head?, isBlank c = false) : IsUnbroken a := by
  obtain ⟨ha, c, hc, rfl⟩ := splitAtBlank_eq_some h
  refine ⟨?_, ha⟩
  rintro rfl
  rw [hhead c rfl] at hc
  cases hc

/-- A trimmed text that can be split twice has three parts: as its last character is no blank, something is
left of the third. -/
theorem exists_value {cs field rest word rest' : List Char} (htight : IsTight cs)
    (hfirst : splitAtBlank cs = some (field, rest)) (hsecond : splitAtBlank (trimStart rest) = some (word, rest')) :
    ∃ gap gap' after, cs = field ++ (gap ++ (word ++ (gap' ++ (trimChars rest' ++ after)))) ∧ IsGap gap ∧ IsGap gap' ∧
      trimChars rest' ≠ [] ∧ ∀ c ∈ after, isBlank c = true := by
  obtain ⟨gap, hrest, hgap⟩ := exists_trimStart rest
  obtain ⟨gap', after, hrest', hgap', hafter⟩ := exists_trimChars rest'
  obtain ⟨-, b, hb, hfirst⟩ := splitAtBlank_eq_some hfirst
  obtain ⟨-, b', hb', hsecond⟩ := splitAtBlank_eq_some hsecond
  have hcs : cs = (field ++ (b :: gap ++ word)) ++ b' :: rest' := by
    rw [hfirst, hrest, hsecond]
    simp
  refine ⟨b :: gap, b' :: gap', after, ?_, isGap_cons hb hgap, isGap_cons hb' hgap', fun hnone => ?_, hafter⟩
  · rw [hcs]
    nth_rewrite 1 [hrest']
    simp
  · rw [hcs] at htight
    obtain ⟨c, hc, hnot⟩ := htight.exists_not_blank (List.cons_ne_nil b' rest')
    have hall : ∀ c ∈ b' :: rest', isBlank c = true := by
      rw [hrest', hnone, List.nil_append]
      refine List.forall_mem_cons.2 ⟨hb', fun c hc => ?_⟩
      exact (List.mem_append.1 hc).elim (hgap' c) (hafter c)
    rw [hall c hc] at hnot
    cases hnot

/-- The splits that reading a condition goes through. -/
theorem split_of_parse {s : String} {c : Condition} (h : parse s = .ok c) : ∃ field rest word rest',
    splitAtBlank (trimChars s.toList) = some (field, rest) ∧ splitAtBlank (trimStart rest) = some (word, rest') ∧
    c.field = .ofList field ∧ Operator.parse (.ofList word) = .ok c.op ∧ c.operand = operandFor c.op (trimChars rest') := by
  unfold parse at h
  split at h
  · cases h
  · rename_i field rest hfirst
    split at h
    · cases h
    · rename_i word rest' hsecond
      refine ⟨field, rest, word, rest', hfirst, hsecond, ?_⟩
      cases hop : Operator.parse (.ofList word) with
      | error e => rw [hop] at h; cases h
      | ok op => rw [hop] at h; cases h; exact ⟨rfl, rfl, rfl⟩

/-- A condition is read just from its field, a spelling of its operator and a value. -/
theorem parse_eq_ok_iff {s : String} {c : Condition} : parse s = .ok c ↔
    ∃ word value, Parts s c.field word value ∧ word ∈ c.op.spellings ∧ c.operand = operandFor c.op value.toList := by
  constructor
  · intro h
    obtain ⟨field, rest, word, rest', hfirst, hsecond, hfield, hop, hoperand⟩ := split_of_parse h
    have htight : IsTight (trimChars s.toList) := isTight_trimChars s.toList
    have hword : IsUnbroken word := isUnbroken_of_split hsecond fun _ => head?_trimStart
    obtain ⟨before, after, hs, hbefore, hafter⟩ := exists_trimChars s.toList
    obtain ⟨gap, gap', after', htrimmed, hgap, hgap', hvalue, hafter'⟩ := exists_value htight hfirst hsecond
    refine ⟨.ofList word, .ofList (trimChars rest'), ⟨before, gap, gap', after' ++ after, ?_, hbefore, ?_, hgap, ?_, hgap',
      ?_, fun c hc => (List.mem_append.1 hc).elim (hafter' c) (hafter c)⟩, ?_, ?_⟩
    · rw [hs, htrimmed, hfield]
      simp
    · rw [hfield, String.toList_ofList]
      exact isUnbroken_of_split hfirst htight.head
    · rwa [String.toList_ofList]
    · rw [String.toList_ofList]
      exact ⟨hvalue, isTight_trimChars rest'⟩
    · exact (Operator.parse_eq_ok_iff (by rwa [String.toList_ofList])).1 hop
    · rw [String.toList_ofList, hoperand]
  · rintro ⟨word, value, hparts, hop, hoperand⟩
    rw [hparts.parse_eq_ok hop, ← hoperand]

/-! ## Values -/

theorem isBlank_of_isNumberChar {c : Char} (h : isNumberChar c = true) : isBlank c = false := by
  simp only [isNumberChar, Bool.or_eq_true, decide_eq_true_eq] at h
  rcases h with (h | rfl) | rfl
  · have hdigit := Char.isDigit_iff_toNat.1 h
    have hends : '0'.toNat = 48 ∧ '9'.toNat = 57 := by decide
    simp only [isBlank, Bool.or_eq_false_iff, Bool.and_eq_false_iff, decide_eq_false_iff_not]
    omega
  · decide
  · decide

theorem isUnbroken_of_isDecimal {cs : List Char} {i : Int} (h : IsDecimal cs i) : IsUnbroken cs :=
  ⟨integer?_ne_nil (integer?_eq_some_iff.2 h),
    fun c hc => isBlank_of_isNumberChar (integer?_chars (integer?_eq_some_iff.2 h) c hc)⟩

theorem not_mem_of_isDecimal {cs : List Char} {i : Int} {c : Char} (h : IsDecimal cs i) (hc : isNumberChar c = false) :
    c ∉ cs := by
  intro hmem
  rw [integer?_chars (integer?_eq_some_iff.2 h) c hmem] at hc
  cases hc

theorem scalar_of_isDecimal {cs : List Char} {n : Int64} (h : IsDecimal cs n.toInt) : scalar cs = .int n := by
  have hhead : cs.head? ≠ some '\'' := fun hq => not_mem_of_isDecimal h (by decide) (List.mem_of_head? hq)
  rw [scalar_of_head_ne hhead, signed64?_eq_some_iff_isDecimal.2 h]

theorem operandFor_single {op : Operator} (hany : op ≠ .any) (hrange : op ≠ .withinRange) (cs : List Char) :
    operandFor op cs = scalar cs := by
  cases op with
  | any => exact absurd rfl hany
  | withinRange => exact absurd rfl hrange
  | _ => rfl

/-! ## Ranges -/

/-- The parts before and after the first place where two points follow each other. -/
def FirstDots (cs a b : List Char) : Prop :=
  cs = a ++ '.' :: '.' :: b ∧ ∀ a' b', cs = a' ++ '.' :: '.' :: b' → a.length ≤ a'.length

theorem FirstDots.unique {cs a b a' b' : List Char} (h : FirstDots cs a b) (h' : FirstDots cs a' b') : a = a' ∧ b = b' := by
  have hlength : a.length = a'.length := Nat.le_antisymm (h.2 a' b' h'.1) (h'.2 a b h.1)
  obtain ⟨ha, hb⟩ := List.append_inj (h.1.symm.trans h'.1) hlength
  cases hb
  exact ⟨ha, rfl⟩

theorem firstDots_of_no_dot {a : List Char} (h : '.' ∉ a) (b : List Char) : FirstDots (a ++ '.' :: '.' :: b) a b := by
  refine ⟨rfl, fun a' b' heq => Nat.le_of_not_lt fun hlt => h ?_⟩
  -- the part before would reach over the first point
  rcases List.append_eq_append_iff.1 heq with ⟨mid, rfl, -⟩ | ⟨mid, rfl, hmid⟩
  · rw [List.length_append] at hlt
    omega
  · cases mid with
    | nil => simp at hlt
    | cons c mid =>
      obtain ⟨rfl, -⟩ := List.cons.inj hmid
      simp

theorem firstDots_of_splitAtDots {cs a b : List Char} (h : splitAtDots cs = some (a, b)) : FirstDots cs a b := by
  fun_induction splitAtDots cs generalizing a b with
  | case1 rest =>
    cases h
    exact ⟨rfl, fun _ _ _ => Nat.zero_le _⟩
  | case2 c rest hdots ih =>
    obtain ⟨⟨lo, hi⟩, hrest, heq⟩ := Option.map_eq_some_iff.1 h
    cases heq
    obtain ⟨hsplit, hleast⟩ := ih hrest
    refine ⟨by rw [hsplit, List.cons_append], fun a' b' heq => ?_⟩
    cases a' with
    | nil =>
      cases heq
      exact (hdots b' rfl rfl).elim
    | cons c' a' => exact Nat.succ_le_succ (hleast a' b' (List.cons.inj heq).2)
  | case3 => cases h

theorem exists_splitAtDots (a b : List Char) : ∃ p, splitAtDots (a ++ '.' :: '.' :: b) = some p := by
  induction a with
  | nil => exact ⟨_, rfl⟩
  | cons c a ih =>
    obtain ⟨p, hp⟩ := ih
    rw [List.cons_append]
    unfold splitAtDots
    split
    · exact ⟨_, rfl⟩
    · rename_i heq
      cases heq
      exact ⟨_, by rw [hp]; rfl⟩
    · rename_i heq
      cases heq

theorem splitAtDots_eq_some_iff {cs a b : List Char} : splitAtDots cs = some (a, b) ↔ FirstDots cs a b := by
  refine ⟨firstDots_of_splitAtDots, fun h => ?_⟩
  obtain ⟨⟨a', b'⟩, hsome⟩ := exists_splitAtDots a b
  rw [← h.1] at hsome
  obtain ⟨rfl, rfl⟩ := h.unique (firstDots_of_splitAtDots hsome)
  exact hsome

/-- Two integers with two points between them, where blanks may stand around each. -/
def IsBounds (cs : List Char) (m n : Int64) : Prop :=
  ∃ a b, FirstDots cs a b ∧ IsDecimal (trimChars a) m.toInt ∧ IsDecimal (trimChars b) n.toInt

theorem range_of_isBounds {cs : List Char} {m n : Int64} (h : IsBounds cs m n) : range cs = .range m n := by
  obtain ⟨a, b, hdots, hm, hn⟩ := h
  simp only [range, splitAtDots_eq_some_iff.2 hdots, signed64?_eq_some_iff_isDecimal.2 hm,
    signed64?_eq_some_iff_isDecimal.2 hn]

theorem range_of_not_isBounds {cs : List Char} (h : ∀ m n, ¬ IsBounds cs m n) : range cs = .text (.ofList cs) := by
  unfold range
  split
  · rfl
  · rename_i a b hdots
    split
    · rename_i m n hm hn
      exact (h m n ⟨a, b, splitAtDots_eq_some_iff.1 hdots, signed64?_eq_some_iff_isDecimal.1 hm,
        signed64?_eq_some_iff_isDecimal.1 hn⟩).elim
    · rfl

theorem isBounds_of_isDecimal {lo hi b b' : List Char} {m n : Int64} (hlo : IsDecimal lo m.toInt)
    (hhi : IsDecimal hi n.toInt) (hb : ∀ c ∈ b, isBlank c = true) (hb' : ∀ c ∈ b', isBlank c = true) :
    IsBounds (lo ++ (b ++ '.' :: '.' :: (b' ++ hi))) m n := by
  have hdot : '.' ∉ lo ++ b := by
    rw [List.mem_append, not_or]
    exact ⟨not_mem_of_isDecimal hlo (by decide), fun h => absurd (hb _ h) (by decide)⟩
  have htrim : trimChars (lo ++ b) = lo := by
    have hunbroken := isUnbroken_of_isDecimal hlo
    rw [trimChars, hunbroken.isTight.trimStart_append hunbroken.1, trimEnd_blanks hb, trimEnd_of_no_blank hunbroken.2]
  have htrim' : trimChars (b' ++ hi) = hi := by
    rw [trimChars, trimStart_blanks hb']
    exact trimChars_of_no_blank (isUnbroken_of_isDecimal hhi).2
  refine ⟨lo ++ b, b' ++ hi, ?_, by rwa [htrim], by rwa [htrim']⟩
  rw [← List.append_assoc]
  exact firstDots_of_no_dot hdot _

/-- A text is read as a condition just if it is a field, a spelling of an operator and a value with blanks
between them, whichever blanks these are; the field is a word. For an operator that takes a single value, a
text in single quotes is read as that text and an integer in decimal notation as that integer. A range is read
from two integers with two points between them, and otherwise the value is taken as it stands. -/
theorem parsed_iff_three_parts :
    (∀ s, (∃ c, parse s = .ok c) ↔ ∃ field word value op, Parts s field word value ∧ word ∈ Operator.spellings op) ∧
    (∀ s c, parse s = .ok c → IsUnbroken c.field.toList) ∧
    (∀ s s' field word value, Parts s field word value → Parts s' field word value → parse s = parse s') ∧
    ∀ s field word value op, Parts s field word value → word ∈ Operator.spellings op →
      ∃ operand, parse s = .ok ⟨field, op, operand⟩ ∧
        (op ≠ .any → op ≠ .withinRange →
          (∀ t, value = quoted t → operand = .text t) ∧
          ∀ n : Int64, IsDecimal value.toList n.toInt → operand = .int n) ∧
        (op = .withinRange →
          (∀ (m n : Int64) lo b b' hi, value.toList = lo ++ (b ++ '.' :: '.' :: (b' ++ hi)) →
            IsDecimal lo m.toInt → IsDecimal hi n.toInt → (∀ c ∈ b, isBlank c = true) → (∀ c ∈ b', isBlank c = true) →
            operand = .range m n) ∧
          ((∀ m n, ¬ IsBounds value.toList m n) → operand = .text value)) := by
  refine ⟨fun s => ⟨?_, ?_⟩, fun s c h => ?_, fun s s' field word value h h' => ?_, ?_⟩
  · rintro ⟨c, hc⟩
    obtain ⟨word, value, hparts, hop, -⟩ := parse_eq_ok_iff.1 hc
    exact ⟨c.field, word, value, c.op, hparts, hop⟩
  · rintro ⟨field, word, value, op, hparts, hop⟩
    exact ⟨_, hparts.parse_eq_ok hop⟩
  · obtain ⟨_, _, ⟨_, _, _, _, -, -, hfield, -⟩, -⟩ := parse_eq_ok_iff.1 h
    exact hfield
  · rw [h.parse_eq, h'.parse_eq]
  · intro s field word value op hparts hop
    refine ⟨_, hparts.parse_eq_ok hop, fun hany hrange => ?_, ?_⟩
    · rw [operandFor_single hany hrange]
      constructor
      · rintro t rfl
        exact scalar_quoted t
      · exact fun n hn => scalar_of_isDecimal hn
    · rintro rfl
      constructor
      · intro m n lo b b' hi hvalue hlo hhi hb hb'
        rw [operandFor, hvalue]
        exact range_of_isBounds (isBounds_of_isDecimal hlo hhi hb hb')
      · intro hnone
        rw [operandFor, range_of_not_isBounds hnone, String.ofList_toList]

/-- Blanks of several kinds around the parts and within the range, and a text with a quote and digits. -/
theorem parsed_iff_three_parts_reviews :
    Parts "\tstars  range\u00a0-3 ..\u3000+07\n" "stars" "range" "-3 ..\u3000+07" ∧
    Parts "name\u2003eq ' it's 12 ' " "name" "eq" "' it's 12 '" ∧
    parse "\tstars  range\u00a0-3 ..\u3000+07\n" = .ok ⟨"stars", .withinRange, .range (-3) 7⟩ ∧
    parse "name\u2003eq ' it's 12 ' " = .ok ⟨"name", .equals, .text " it's 12 "⟩ := by
  have hrange : Parts "\tstars  range\u00a0-3 ..\u3000+07\n" "stars" "range" "-3 ..\u3000+07" :=
    ⟨['\t'], [' ', ' '], ['\u00a0'], ['\n'], rfl, by simp [isBlank], by decide, by decide, by decide, by decide, by decide,
      by simp [isBlank]⟩
  have htext : Parts "name\u2003eq ' it's 12 ' " "name" "eq" "' it's 12 '" :=
    ⟨[], ['\u2003'], [' '], [' '], rfl, nofun, by decide, by decide, by decide, by decide, by decide, by simp [isBlank]⟩
  obtain ⟨-, -, -, hread⟩ := parsed_iff_three_parts
  have hlo : IsDecimal ['-', '3'] (-3 : Int64).toInt := ⟨['3'], by simp, by simp, .inr ⟨rfl, rfl⟩⟩
  have hhi : IsDecimal ['+', '0', '7'] (7 : Int64).toInt := ⟨['0', '7'], by simp, by simp, .inl ⟨.inr rfl, rfl⟩⟩
  obtain ⟨operand, hparse, -, hbounds⟩ := hread _ _ _ _ .withinRange hrange (by decide)
  obtain ⟨operand', hparse', hsingle, -⟩ := hread _ _ _ _ .equals htext (by decide)
  refine ⟨hrange, htext, ?_, ?_⟩
  · rw [hparse, (hbounds rfl).1 (-3) 7 _ [' '] ['\u3000'] _ rfl hlo hhi (by simp [isBlank]) (by simp [isBlank])]
  · rw [hparse', (hsingle (by decide) (by decide)).1 " it's 12 " rfl]

end Condition

end SearchIndex
