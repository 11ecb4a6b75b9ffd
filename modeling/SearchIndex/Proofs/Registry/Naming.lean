import SearchIndex.Proofs.Registry.Domain

/-!
# Names are what normalising gives

A text stands for the name of a domain if some letter or digit is left of it in lower case. The names that are
accepted are just those that texts stand for, so a name that was made for an index is never refused, and asking
for an index fails for want of a name only.
-/

namespace SearchIndex

/-- A text that is no name is all that normalising complains of. -/
theorem normalizeName_eq_error_iff {s : String} {e : SearchError} :
    normalizeName s = .error e ↔ (¬ ∃ c ∈ (Text.lower s).toList, c.isAlphanum) ∧ e = .invalidDomainName s := by
  rw [normalizeName_eq, hasAlphanum, ← List.any_eq_true]
  split
  · rename_i h
    exact iff_of_false (by simp) fun hn => hn.1 h
  · rename_i h
    rw [Except.error.injEq]
    exact ⟨fun he => ⟨h, he.symm⟩, fun he => he.2.symm⟩

theorem exists_normalizeName_iff {s : String} :
    (∃ n, normalizeName s = .ok n) ↔ ∃ c ∈ (Text.lower s).toList, c.isAlphanum := by
  rw [normalizeName_eq, hasAlphanum, ← List.any_eq_true]
  split
  · rename_i h
    exact iff_of_true ⟨_, rfl⟩ h
  · rename_i h
    exact iff_of_false (by simp) h

namespace Registry

/-- Asking for an index fails only if there is none and its domain has no name. -/
theorem index_eq_error_iff {r : Registry} {key : IndexKey} {e : SearchError} :
    r.index key = .error e ↔ r.get? key = none ∧ r.domain key = .error e := by
  rw [index_eq, map_eq_error, openIndex_result]
  cases r.get? key with
  | some ix => exact iff_of_false nofun fun h => nomatch h.1
  | none => rw [opened, map_eq_error, domain, and_iff_right rfl]

/-- Normalising succeeds for the texts with a letter or digit in lower case. What it gives is made of lower-case
letters, digits and hyphens, has a letter or digit, and is left as it is by normalising again. Just these names are
accepted for a schema, and so is every name that is made for an index. Asking a registry for an index fails exactly if
there is none yet and the text from which its name is made has no letter or digit in lower case; the error has this
text. -/
theorem names_closed_under_normalizing :
    (∀ s, (∃ n, normalizeName s = .ok n) ↔ ∃ c ∈ (Text.lower s).toList, c.isAlphanum) ∧
    (∀ s n, normalizeName s = .ok n → (∀ c ∈ n.toList, c.isLower ∨ c.isDigit ∨ c = '-') ∧
      (∃ c ∈ n.toList, c.isAlphanum) ∧ normalizeName n = .ok n) ∧
    (∀ n, (∃ schema, Schema.new n = .ok schema) ↔ ∃ s, normalizeName s = .ok n) ∧
    (∀ domainPrefix owner qualifier n, domainName domainPrefix owner qualifier = .ok n →
      Schema.new n = .ok { name := n }) ∧
    ∀ (r : Registry) key e, r.index key = .error e ↔ r.get? key = none ∧
      (¬ ∃ c ∈ (Text.lower (String.ofList (key.text r.settings.domainPrefix))).toList, c.isAlphanum) ∧
      e = .invalidDomainName (String.ofList (key.text r.settings.domainPrefix)) := by
  refine ⟨fun s => exists_normalizeName_iff, fun s n h => ⟨fun c hc => ?_, ?_, normalizeName_of_normalized h⟩,
    fun n => Schema.exists_new_iff, fun domainPrefix owner qualifier n h => ?_, fun r key e => ?_⟩
  · obtain ⟨-, rfl⟩ := normalizeName_eq_ok_iff.1 h
    rw [toList_hyphenated] at hc
    have hname := isNameChar_of_mem_spelled hc
    rwa [isNameChar, Bool.or_eq_true, Bool.or_eq_true, decide_eq_true_eq, or_assoc] at hname
  · exact List.any_eq_true.1 (normalizeName_eq_ok_iff.1 h).1
  · exact Schema.new_of_normalized ((domainName_eq domainPrefix { owner, qualifier }).symm.trans h)
  · rw [index_eq_error_iff, domain, domainName_eq, normalizeName_eq_error_iff]

end Registry

end SearchIndex
