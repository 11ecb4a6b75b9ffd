import SearchIndex.Proofs.Registry.Run
import SearchIndex.Service.Offline

/-!
# Which indexes share a domain

The name of a domain spells the owner and the qualifier, but not where one ends and the other begins, nor the
characters that a name cannot hold. Two indexes have one domain exactly if their texts are spelled alike, and then
they share the documents of all records. This never happens between the index of an owner without a qualifier and
those with one, nor between keys that are made of what a name can hold.
-/

namespace SearchIndex

open Text

/-! ## Spellings -/

/-- The text that the domain of a key is named for. -/
def IndexKey.text (domainPrefix : String) (key : IndexKey) : List Char :=
  domainPrefix.toList ++ match key.qualifier with
    | some q => key.owner.toList ++ '-' :: q.toList
    | none => key.owner.toList

/-- How the name of its domain spells a key: without the blanks at both ends, character by character. -/
def IndexKey.spelling (domainPrefix : String) (key : IndexKey) : List Char := spelled (trimChars (key.text domainPrefix))

variable {domainPrefix name : String} {key key' : IndexKey} {cs : List Char}

theorem domainName_eq (domainPrefix : String) (key : IndexKey) :
    domainName domainPrefix key.owner key.qualifier = normalizeName (String.ofList (key.text domainPrefix)) := by
  unfold domainName
  congr 1
  rw [← String.toList_inj, String.toList_ofList, IndexKey.text]
  cases key.qualifier <;> simp

theorem toList_of_domainName (h : domainName domainPrefix key.owner key.qualifier = .ok name) :
    name.toList = key.spelling domainPrefix := by
  rw [domainName_eq] at h
  obtain ⟨-, rfl⟩ := normalizeName_eq_ok_iff.1 h
  rw [toList_hyphenated, String.toList_ofList, IndexKey.spelling]

theorem spelled_hyphen_cons (cs : List Char) : spelled ('-' :: cs) = '-' :: spelled cs := by
  rw [spelled, List.flatMap_cons, nameSpelling_of_isNameChar (by decide)]
  rfl

theorem length_spelled_trimEnd_le (cs : List Char) : (spelled (trimEnd cs)).length ≤ (spelled cs).length := by
  obtain ⟨rest, h⟩ := trimEnd_prefix cs
  calc (spelled (trimEnd cs)).length ≤ (spelled (trimEnd cs)).length + (spelled rest).length := Nat.le_add_right _ _
    _ = (spelled cs).length := by rw [← List.length_append, ← spelled_append, h]

theorem spelling_qualified (domainPrefix owner q : String) :
    IndexKey.spelling domainPrefix { owner, qualifier := some q } =
      spelled (trimStart (domainPrefix.toList ++ owner.toList)) ++ '-' :: spelled (trimEnd q.toList) := by
  rw [IndexKey.spelling, IndexKey.text, ← List.append_assoc, trimChars_append_cons (by decide), spelled_append,
    spelled_hyphen_cons]

theorem length_spelling_unqualified (domainPrefix owner : String) :
    (IndexKey.spelling domainPrefix { owner }).length ≤
      (spelled (trimStart (domainPrefix.toList ++ owner.toList))).length :=
  length_spelled_trimEnd_le _

/-- The hyphen makes a qualified name longer. -/
theorem spelling_unqualified_ne (domainPrefix owner q : String) :
    IndexKey.spelling domainPrefix { owner } ≠ IndexKey.spelling domainPrefix { owner, qualifier := some q } := by
  intro h
  have hle := length_spelling_unqualified domainPrefix owner
  rw [h, spelling_qualified, List.length_append, List.length_cons] at hle
  omega

theorem spelling_qualified_eq_iff (domainPrefix owner q q' : String) :
    IndexKey.spelling domainPrefix { owner, qualifier := some q } =
        IndexKey.spelling domainPrefix { owner, qualifier := some q' } ↔
      spelled (trimEnd q.toList) = spelled (trimEnd q'.toList) := by
  rw [spelling_qualified, spelling_qualified, List.append_cancel_left_eq, List.cons.injEq]
  exact and_iff_right rfl

/-! ## Plain keys -/

/-- The owner consists of lower-case letters and digits, the qualifier of these and hyphens. -/
structure IndexKey.Plain (key : IndexKey) : Prop where
  owner : ∀ c ∈ key.owner.toList, isNameChar c ∧ c ≠ '-'
  qualifier : ∀ q, key.qualifier = some q → ∀ c ∈ q.toList, isNameChar c

/-- What stands in the name of a plain key after the prefix. -/
def IndexKey.suffix (key : IndexKey) : List Char :=
  match key.qualifier with
  | some q => key.owner.toList ++ '-' :: q.toList
  | none => key.owner.toList

/-- Where there is no hyphen before it, the first hyphen parts a list. -/
theorem append_hyphen_inj {a a' b b' : List Char} (ha : '-' ∉ a) (ha' : '-' ∉ a')
    (h : a ++ '-' :: b = a' ++ '-' :: b') : a = a' ∧ b = b' := by
  have nil_of_cons {c d e : List Char} (hc : '-' ∉ c) (h : '-' :: d = c ++ '-' :: e) : c = [] ∧ d = e := by
    cases c with
    | nil => exact ⟨rfl, (List.cons.inj h).2⟩
    | cons x c => exact (hc ((List.cons.inj h).1 ▸ List.mem_cons_self)).elim
  rcases List.append_eq_append_iff.1 h with ⟨c, rfl, hc⟩ | ⟨c, rfl, hc⟩
  · obtain ⟨rfl, hb⟩ := nil_of_cons (fun hm => ha' (List.mem_append_right _ hm)) hc
    exact ⟨(List.append_nil _).symm, hb⟩
  · obtain ⟨rfl, hb⟩ := nil_of_cons (fun hm => ha (List.mem_append_right _ hm)) hc
    exact ⟨List.append_nil _, hb.symm⟩

namespace IndexKey.Plain

theorem hyphen_notMem_owner (h : key.Plain) : '-' ∉ key.owner.toList := fun hm => (h.owner _ hm).2 rfl

theorem suffix_inj (h : key.Plain) (h' : key'.Plain) (hs : key.suffix = key'.suffix) : key = key' := by
  have hyphen := h.hyphen_notMem_owner
  have hyphen' := h'.hyphen_notMem_owner
  obtain ⟨owner, qualifier⟩ := key
  obtain ⟨owner', qualifier'⟩ := key'
  cases qualifier <;> cases qualifier' <;> simp only [suffix] at hs hyphen hyphen'
  case none.none => rw [String.toList_inj.1 hs]
  case none.some => exact (hyphen (hs ▸ List.mem_append_right _ List.mem_cons_self)).elim
  case some.none => exact (hyphen' (hs ▸ List.mem_append_right _ List.mem_cons_self)).elim
  case some.some =>
    obtain ⟨ho, hq⟩ := append_hyphen_inj hyphen hyphen' hs
    rw [String.toList_inj.1 ho, String.toList_inj.1 hq]

/-- The name of a plain key spells the prefix and then the key as it is, unless there is nothing of the key. -/
theorem spelling_eq (h : key.Plain) (hne : key.suffix ≠ []) (domainPrefix : String) :
    key.spelling domainPrefix = spelled (trimStart domainPrefix.toList) ++ key.suffix := by
  have howner := h.owner
  have hqualifier := h.qualifier
  obtain ⟨owner, qualifier⟩ := key
  simp only at howner hqualifier
  have noBlank : ∀ c ∈ owner.toList, isBlank c = false := fun c hc => isBlank_of_isNameChar (howner c hc).1
  have start : spelled (trimStart (domainPrefix.toList ++ owner.toList)) =
      spelled (trimStart domainPrefix.toList) ++ owner.toList := by
    rw [trimStart_append noBlank, spelled_append, spelled_of_isNameChar fun c hc => (howner c hc).1]
  cases qualifier with
  | some q =>
    have hq := hqualifier q rfl
    rw [spelling_qualified, start, trimEnd_of_no_blank fun c hc => isBlank_of_isNameChar (hq c hc),
      spelled_of_isNameChar hq, suffix, List.append_assoc]
  | none =>
    simp only [suffix] at hne ⊢
    rw [← start, IndexKey.spelling, IndexKey.text, trimChars, trimStart_append noBlank]
    -- the owner is not empty and has no blank, so nothing is taken away at its end
    cases ho : owner.toList with
    | nil => exact (hne ho).elim
    | cons c cs =>
      rw [ho] at noBlank
      rw [trimEnd_append_cons (noBlank c List.mem_cons_self),
        trimEnd_of_no_blank fun c hc => noBlank c (List.mem_cons_of_mem _ hc)]

theorem length_spelling_of_suffix_nil (hs : key.suffix = []) (domainPrefix : String) :
    (key.spelling domainPrefix).length ≤ (spelled (trimStart domainPrefix.toList)).length := by
  obtain ⟨owner, qualifier⟩ := key
  cases qualifier with
  | some q => simp [suffix] at hs
  | none =>
    have hle := length_spelling_unqualified domainPrefix owner
    rwa [show owner.toList = [] from hs, List.append_nil] at hle

/-- Plain keys are told apart by their names. -/
theorem spelling_inj (h : key.Plain) (h' : key'.Plain) (hs : key.spelling domainPrefix = key'.spelling domainPrefix) :
    key = key' := by
  -- a name that has something after the prefix is longer than one that has nothing
  have longer {k k' : IndexKey} (hk : k.Plain) (hne : k.suffix ≠ []) (hnil : k'.suffix = []) :
      k.spelling domainPrefix ≠ k'.spelling domainPrefix := by
    intro heq
    have hle := length_spelling_of_suffix_nil hnil domainPrefix
    have hpos := List.length_pos_iff.2 hne
    rw [← heq, hk.spelling_eq hne, List.length_append] at hle
    omega
  by_cases hne : key.suffix = [] <;> by_cases hne' : key'.suffix = []
  · exact h.suffix_inj h' (hne.trans hne'.symm)
  · exact (longer h' hne' hne hs.symm).elim
  · exact (longer h hne hne' hs).elim
  · rw [h.spelling_eq hne, h'.spelling_eq hne', List.append_cancel_left_eq] at hs
    exact h.suffix_inj h' hs

end IndexKey.Plain

/-! ## Indexes in a registry -/

/-- The operations on the document of a record. -/
def Schema.PostsFor (s : Schema) (id : String) (op : DocumentOperation) : Prop :=
  (∃ record version, op = s.addition record id version) ∨ ∃ version, op = deletion id version

/-- Whatever the record, the operations of both indexes are about one document: it has the same id in the same
domain. -/
def Schema.SharesDocuments (s s' : Schema) : Prop :=
  ∀ id op op', s.PostsFor id op → s'.PostsFor id op' → (s.name, op.id) = (s'.name, op'.id)

/-- No operation of the one index is about a document of the other. -/
def Schema.KeepsApart (s s' : Schema) : Prop :=
  ∀ id id' op op', s.PostsFor id op → s'.PostsFor id' op' → (s.name, op.id) ≠ (s'.name, op'.id)

namespace Schema

theorem PostsFor.id_eq {s : Schema} {id : String} {op : DocumentOperation} (h : s.PostsFor id op) :
    op.id = documentId id := by
  rcases h with ⟨record, version, rfl⟩ | ⟨version, rfl⟩
  · rw [addition, DocumentOperation.id]
  · rw [deletion, DocumentOperation.id]

theorem postsFor_deletion (s : Schema) (id : String) (version : Nat) : s.PostsFor id (deletion id version) :=
  .inr ⟨version, rfl⟩

theorem sharesDocuments_iff (s s' : Schema) : s.SharesDocuments s' ↔ s.name = s'.name := by
  constructor
  · intro h
    exact congrArg Prod.fst (h "" _ _ (s.postsFor_deletion "" 0) (s'.postsFor_deletion "" 0))
  · intro hname id op op' hop hop'
    rw [hname, hop.id_eq, hop'.id_eq]

theorem keepsApart_iff (s s' : Schema) : s.KeepsApart s' ↔ s.name ≠ s'.name := by
  constructor
  · intro h hname
    exact h "" "" _ _ (s.postsFor_deletion "" 0) (s'.postsFor_deletion "" 0) (by rw [hname])
  · intro hname _ _ _ _ _ _ h
    exact hname (congrArg Prod.fst h)

end Schema

namespace Registry

/-- Two indexes of a registry have one domain exactly if the texts of their keys are spelled alike. Then they share the
documents of all records, and else no operation of the one is about a document of the other. An index without a
qualifier has its domain for itself among those of its owner; of two with qualifiers these decide; and plain keys never
have one domain. -/
theorem domains_shared_iff_spelled_alike (service : Service) (settings : Settings) (x : Exchange) (steps : List Step)
    (key key' : IndexKey) (ix ix' : Index) (hix : (after service ({ settings }, x) steps).1.get? key = some ix)
    (hix' : (after service ({ settings }, x) steps).1.get? key' = some ix') :
    (ix.schema.name = ix'.schema.name ↔
      key.spelling settings.domainPrefix = key'.spelling settings.domainPrefix) ∧
    (ix.schema.SharesDocuments ix'.schema ↔ ix.schema.name = ix'.schema.name) ∧
    (ix.schema.KeepsApart ix'.schema ↔ ix.schema.name ≠ ix'.schema.name) ∧
    (key.owner = key'.owner → key.qualifier = none → key'.qualifier ≠ none → ix.schema.name ≠ ix'.schema.name) ∧
    (∀ q q', key.owner = key'.owner → key.qualifier = some q → key'.qualifier = some q' →
      (ix.schema.name = ix'.schema.name ↔ spelled (trimEnd q.toList) = spelled (trimEnd q'.toList))) ∧
    (key.Plain → key'.Plain → key ≠ key' → ix.schema.name ≠ ix'.schema.name) := by
  have sound := sound_after service settings x steps
  have names : ix.schema.name = ix'.schema.name ↔
      key.spelling settings.domainPrefix = key'.spelling settings.domainPrefix := by
    rw [← String.toList_inj, toList_of_domainName (sound.belongs key ix hix).name,
      toList_of_domainName (sound.belongs key' ix' hix').name]
  simp only [ne_eq, names]
  obtain ⟨owner, qualifier⟩ := key
  obtain ⟨owner', qualifier'⟩ := key'
  refine ⟨trivial, by rw [Schema.sharesDocuments_iff, names], by rw [Schema.keepsApart_iff, ne_eq, names], ?_, ?_,
    fun h h' hne hs => hne (h.spelling_inj h' hs)⟩
  · rintro rfl rfl hq
    obtain ⟨q, rfl⟩ := Option.ne_none_iff_exists'.1 hq
    exact spelling_unqualified_ne _ _ _
  · rintro q q' rfl rfl rfl
    exact spelling_qualified_eq_iff _ _ _ _

/-- An owner with an index without a qualifier and one with a qualifier. -/
theorem domains_shared_iff_spelled_alike_reviews :
    let steps : List Step := [.index { owner := "review" }, .index { owner := "review", qualifier := some "new" }]
    let r := (after .offline ({}, {}) steps).1
    ∃ ix ix', r.get? { owner := "review" } = some ix ∧ r.get? { owner := "review", qualifier := some "new" } = some ix' ∧
      ix.schema.name ≠ ix'.schema.name ∧ ix.schema.KeepsApart ix'.schema := by
  intro steps r
  have hix : r.get? { owner := "review" } = some (newIndex {} "review" "review") := rfl
  have hix' : r.get? { owner := "review", qualifier := some "new" } = some (newIndex {} "review" "review-new") := rfl
  obtain ⟨-, -, hapart, hne, -⟩ := domains_shared_iff_spelled_alike .offline {} {} steps _ _ _ _ hix hix'
  have hne := hne rfl rfl (by decide)
  exact ⟨_, _, hix, hix', hne, hapart.2 hne⟩

/-- The index of the owner `a-b` has the domain of the one of `a` with the qualifier `b`, and so its documents. -/
theorem domains_shared_with_hyphen_in_owner :
    let r := (after .offline ({}, {}) [.index { owner := "a-b" }, .index { owner := "a", qualifier := some "b" }]).1
    ({ owner := "a-b" } : IndexKey) ≠ { owner := "a", qualifier := some "b" } ∧
      ∃ ix ix', r.get? { owner := "a-b" } = some ix ∧ r.get? { owner := "a", qualifier := some "b" } = some ix' ∧
        ix.schema.name = ix'.schema.name ∧ ix.schema.SharesDocuments ix'.schema :=
  ⟨by decide, _, _, rfl, rfl, rfl, (Schema.sharesDocuments_iff _ _).2 rfl⟩

end Registry

end SearchIndex
