import SearchIndex.Sorted

/-!
# Sets of names and maps by key

A set that is kept in increasing order stays so when elements are added, and has these elements besides
those that it had. So does a map: binding a key keeps the order of the keys and changes what is found at that
key only. A map made of entries with different keys has these entries, in whichever order they came.
-/

namespace SearchIndex.Sorted

variable {κ : Type} [LT κ] [DecidableLT κ] {k x : κ} {l : List κ}

/-- Adding an element that is there changes nothing. -/
theorem add_of_mem [Std.Asymm (fun a b : κ => a < b)] (h : l.Pairwise (· < ·)) (hk : k ∈ l) : add k l = l := by
  induction l with
  | nil => cases hk
  | cons k' rest ih =>
    obtain ⟨hk', hrest⟩ := List.pairwise_cons.1 h
    rcases List.mem_cons.1 hk with rfl | hk
    · have irrefl : ¬ k < k := fun hlt => Std.Asymm.asymm k k hlt hlt
      simp [add, irrefl]
    · have hlt := hk' k hk
      rw [add, if_neg (Std.Asymm.asymm k' k hlt), if_pos hlt, ih hrest hk]

theorem foldl_add_of_mem [Std.Asymm (fun a b : κ => a < b)] (h : l.Pairwise (· < ·)) {ks : List κ}
    (hks : ∀ k ∈ ks, k ∈ l) : ks.foldl (fun s k => add k s) l = l := by
  induction ks with
  | nil => rfl
  | cons k ks ih =>
    rw [List.foldl_cons, add_of_mem h (hks k List.mem_cons_self)]
    exact ih fun k' hk' => hks k' (List.mem_cons_of_mem _ hk')

section

variable [Std.Trichotomous (fun a b : κ => a < b)]

theorem mem_add : x ∈ add k l ↔ x = k ∨ x ∈ l := by
  induction l with
  | nil => simp [add]
  | cons k' rest ih =>
    unfold add
    split
    · exact List.mem_cons
    · split
      · simp only [List.mem_cons, ih]
        exact or_left_comm
      · -- neither is less, so the element is there already
        have : k = k' := Std.Trichotomous.trichotomous k k' ‹_› ‹_›
        simp [this]

theorem mem_foldl_add {ks : List κ} : x ∈ ks.foldl (fun s k => add k s) l ↔ x ∈ ks ∨ x ∈ l := by
  induction ks generalizing l with
  | nil => simp
  | cons k ks ih =>
    rw [List.foldl_cons, ih, mem_add, List.mem_cons, or_assoc]
    exact or_left_comm

variable [Trans (fun a b : κ => a < b) (fun a b : κ => a < b) (fun a b : κ => a < b)]

theorem pairwise_add (h : l.Pairwise (· < ·)) : (add k l).Pairwise (· < ·) := by
  induction l with
  | nil => exact List.pairwise_singleton _ _
  | cons k' rest ih =>
    obtain ⟨hk', hrest⟩ := List.pairwise_cons.1 h
    unfold add
    split
    · rename_i hlt
      refine List.pairwise_cons.2 ⟨fun y hy => ?_, h⟩
      rcases List.mem_cons.1 hy with rfl | hy
      · exact hlt
      · exact Std.lt_trans hlt (hk' y hy)
    · split
      · rename_i hlt
        refine List.pairwise_cons.2 ⟨fun y hy => ?_, ih hrest⟩
        rcases mem_add.1 hy with rfl | hy
        · exact hlt
        · exact hk' y hy
      · exact h

theorem pairwise_foldl_add (h : l.Pairwise (· < ·)) (ks : List κ) :
    (ks.foldl (fun s k => add k s) l).Pairwise (· < ·) := by
  induction ks generalizing l with
  | nil => exact h
  | cons k ks ih => exact ih (pairwise_add h)

omit [DecidableLT κ] [Std.Trichotomous (fun a b : κ => a < b)]
  [Trans (fun a b : κ => a < b) (fun a b : κ => a < b) (fun a b : κ => a < b)] in
/-- A set is told by its elements. -/
theorem eq_of_mem_iff [Std.Asymm (fun a b : κ => a < b)] {l' : List κ} (h : l.Pairwise (· < ·))
    (h' : l'.Pairwise (· < ·)) (hmem : ∀ k, k ∈ l ↔ k ∈ l') : l = l' := by
  have nodup {l : List κ} (h : l.Pairwise (· < ·)) : l.Nodup := by
    refine h.imp ?_
    rintro a _ hlt rfl
    exact Std.Asymm.asymm a a hlt hlt
  exact ((List.perm_ext_iff_of_nodup (nodup h) (nodup h')).2 hmem).eq_of_pairwise
    (fun a b _ _ hab hba => (Std.Asymm.asymm a b hab hba).elim) h h'

/-- Two lists of the same elements make one set. -/
theorem ofElements_eq_of_mem_iff [Std.Asymm (fun a b : κ => a < b)] {ks ks' : List κ}
    (h : ∀ k, k ∈ ks ↔ k ∈ ks') : ofElements ks = ofElements ks' := by
  refine eq_of_mem_iff (pairwise_foldl_add .nil ks) (pairwise_foldl_add .nil ks') fun k => ?_
  simp only [ofElements, mem_foldl_add, List.not_mem_nil, or_false, h]

end

/-! ## Maps -/

variable {α : Type} {k' : κ} {v w : α} {m : List (κ × α)}

omit [DecidableLT κ] in
/-- In a map every key is bound once. -/
theorem nodup_keys [Std.Asymm (fun a b : κ => a < b)] (h : m.Pairwise (fun a b => a.1 < b.1)) :
    (m.map (·.1)).Nodup := by
  rw [List.Nodup, List.pairwise_map]
  refine h.imp ?_
  rintro ⟨a, _⟩ ⟨_, _⟩ hlt rfl
  exact Std.Asymm.asymm a a hlt hlt

omit [LT κ] [DecidableLT κ] in
theorem lookup_eq_some_iff_mem [BEq κ] [LawfulBEq κ] (h : (m.map (·.1)).Nodup) :
    m.lookup k = some v ↔ (k, v) ∈ m := by
  induction m with
  | nil => simp
  | cons e m ih =>
    obtain ⟨a, w⟩ := e
    obtain ⟨ha, hm⟩ := List.nodup_cons.1 h
    rw [List.lookup_cons]
    cases hk : k == a with
    | true =>
      obtain rfl := eq_of_beq hk
      -- no later entry has this key
      have hlater : (k, v) ∉ m := fun hv => ha (List.mem_map.2 ⟨_, hv, rfl⟩)
      simp [hlater, eq_comm]
    | false =>
      have hne : k ≠ a := by simpa using hk
      simp [hne, ih hm]

omit [LT κ] [DecidableLT κ] in
/-- If no key comes twice, it does not matter in which order the entries are looked up. -/
theorem lookup_eq_of_perm [BEq κ] [LawfulBEq κ] {m' : List (κ × α)} (h : (m.map (·.1)).Nodup) (hp : m'.Perm m) (k : κ) :
    m'.lookup k = m.lookup k := by
  have h' : (m'.map (·.1)).Nodup := (hp.map (·.1)).nodup_iff.2 h
  refine Option.ext fun v => ?_
  rw [lookup_eq_some_iff_mem h', lookup_eq_some_iff_mem h, hp.mem_iff]

omit [LT κ] [DecidableLT κ] in
/-- Elements with different keys give entries with different keys. -/
theorem nodup_filterMap {β : Type} {key : β → κ} {l : List β} (h : (l.map key).Nodup) (g : β → Option α) :
    ((l.filterMap fun b => (g b).map (key b, ·)).map (·.1)).Nodup := by
  rw [List.Nodup, List.pairwise_map] at h
  rw [List.Nodup, List.pairwise_map, List.pairwise_filterMap]
  refine h.imp fun {b c} hne e he e' he' => ?_
  obtain ⟨_, -, rfl⟩ := Option.map_eq_some_iff.1 he
  obtain ⟨_, -, rfl⟩ := Option.map_eq_some_iff.1 he'
  exact hne

omit [LT κ] [DecidableLT κ] in
/-- What the elements of a list without repeated keys give is found at their keys. -/
theorem lookup_filterMap [BEq κ] [LawfulBEq κ] {β : Type} {key : β → κ} {g : β → Option α} {l : List β} {b : β}
    (h : (l.map key).Nodup) (hb : b ∈ l) : (l.filterMap fun b => (g b).map (key b, ·)).lookup (key b) = g b := by
  induction l with
  | nil => cases hb
  | cons b' l ih =>
    obtain ⟨hb', hl⟩ := List.nodup_cons.1 h
    rcases List.mem_cons.1 hb with rfl | hb
    · have hnone : (l.filterMap fun b => (g b).map (key b, ·)).lookup (key b) = none := by
        rw [List.lookup_eq_none_iff]
        intro e he
        obtain ⟨c, hc, he⟩ := List.mem_filterMap.1 he
        obtain ⟨_, -, rfl⟩ := Option.map_eq_some_iff.1 he
        have hne : key b ≠ key c := fun heq => hb' (heq ▸ List.mem_map_of_mem hc)
        simpa using hne
      cases hg : g b <;> simp [hg, hnone]
    · have hne : key b ≠ key b' := fun heq => hb' (heq ▸ List.mem_map_of_mem hb)
      cases hg : g b' with
      | none => simpa [hg] using ih hl hb
      | some v =>
        rw [List.filterMap_cons, hg, Option.map_some, List.lookup_cons, beq_false_of_ne hne]
        exact ih hl hb

theorem mem_put {e : κ × α} (h : e ∈ put k v m) : e = (k, v) ∨ e ∈ m := by
  induction m with
  | nil => exact .inl (List.mem_singleton.1 h)
  | cons e' m ih =>
    unfold put at h
    split at h
    · exact List.mem_cons.1 h
    · split at h
      · rcases List.mem_cons.1 h with rfl | h
        · exact .inr List.mem_cons_self
        · exact (ih h).imp_right (List.mem_cons_of_mem _)
      · exact (List.mem_cons.1 h).imp_right (List.mem_cons_of_mem _)

section

variable [Std.Trichotomous (fun a b : κ => a < b)]

theorem pairwise_put [Trans (fun a b : κ => a < b) (fun a b : κ => a < b) (fun a b : κ => a < b)]
    (h : m.Pairwise (fun a b => a.1 < b.1)) : (put k v m).Pairwise (fun a b => a.1 < b.1) := by
  induction m with
  | nil => exact List.pairwise_singleton _ _
  | cons e m ih =>
    obtain ⟨he, hm⟩ := List.pairwise_cons.1 h
    unfold put
    split
    · rename_i hlt
      refine List.pairwise_cons.2 ⟨fun e' he' => ?_, h⟩
      rcases List.mem_cons.1 he' with rfl | he'
      · exact hlt
      · exact Std.lt_trans hlt (he e' he')
    · split
      · rename_i hlt
        refine List.pairwise_cons.2 ⟨fun e' he' => ?_, ih hm⟩
        rcases mem_put he' with rfl | he'
        · exact hlt
        · exact he e' he'
      · rename_i hlt hlt'
        obtain rfl : k = e.1 := Std.Trichotomous.trichotomous k e.1 hlt hlt'
        exact List.pairwise_cons.2 ⟨he, hm⟩

variable [BEq κ] [LawfulBEq κ]

theorem lookup_put_of_ne (h : k' ≠ k) (v : α) (m : List (κ × α)) : (put k v m).lookup k' = m.lookup k' := by
  have hk : (k' == k) = false := by simpa using h
  induction m with
  | nil => rw [put, List.lookup_cons, hk]
  | cons e m ih =>
    unfold put
    split
    · rw [List.lookup_cons, hk]
    · split
      · rw [List.lookup_cons, List.lookup_cons, ih]
      · rename_i hlt hlt'
        obtain rfl : k = e.1 := Std.Trichotomous.trichotomous k e.1 hlt hlt'
        rw [List.lookup_cons, List.lookup_cons, hk]

omit [Std.Trichotomous (fun a b : κ => a < b)] in
theorem lookup_put_self [Std.Asymm (fun a b : κ => a < b)] (k : κ) (v : α) (m : List (κ × α)) :
    (put k v m).lookup k = some v := by
  induction m with
  | nil => simp [put]
  | cons e m ih =>
    unfold put
    split
    · simp
    · split
      · rename_i hlt
        have hk : (k == e.1) = false := by
          rw [beq_eq_false_iff_ne]
          rintro rfl
          exact Std.Asymm.asymm e.1 e.1 hlt hlt
        rw [List.lookup_cons, hk, ih]
      · simp

omit [Std.Trichotomous (fun a b : κ => a < b)] in
/-- Binding a key to what it is bound to changes nothing. -/
theorem put_of_lookup [Std.Asymm (fun a b : κ => a < b)] (h : m.Pairwise (fun a b => a.1 < b.1))
    (hv : m.lookup k = some v) : put k v m = m := by
  have hmem : (k, v) ∈ m := (lookup_eq_some_iff_mem (nodup_keys h)).1 hv
  clear hv
  induction m with
  | nil => cases hmem
  | cons e m ih =>
    obtain ⟨he, hm⟩ := List.pairwise_cons.1 h
    rcases List.mem_cons.1 hmem with rfl | hmem
    · have irrefl : ¬ k < k := fun hlt => Std.Asymm.asymm k k hlt hlt
      simp [put, irrefl]
    · have hlt := he (k, v) hmem
      rw [put, if_neg (Std.Asymm.asymm e.1 k hlt), if_pos hlt, ih hm hmem]

/-- Of two entries with one key the later counts. -/
theorem lookup_ofEntries [Std.Asymm (fun a b : κ => a < b)] (entries : List (κ × α)) (k : κ) :
    (ofEntries entries).lookup k = entries.reverse.lookup k := by
  have foldl_put (m : List (κ × α)) : (entries.foldl (fun m e => put e.1 e.2 m) m).lookup k =
      (entries.reverse.lookup k).or (m.lookup k) := by
    induction entries generalizing m with
    | nil => simp
    | cons e entries ih =>
      obtain ⟨a, w⟩ := e
      rw [List.foldl_cons, ih, List.reverse_cons, List.lookup_append, Option.or_assoc, List.lookup_cons,
        List.lookup_nil]
      cases hk : k == a with
      | true =>
        obtain rfl := eq_of_beq hk
        rw [lookup_put_self, Option.some_or]
      | false => rw [lookup_put_of_ne (by simpa using hk), Option.none_or]
  simpa [ofEntries] using foldl_put []

end

/-! ## The entries of a map -/

section

variable {entries entries' : List (κ × α)} [Std.Trichotomous (fun a b : κ => a < b)]

/-- A key that is not bound yet gets an entry of its own, and the others stay. -/
theorem perm_put (h : k ∉ m.map (·.1)) (v : α) : (put k v m).Perm ((k, v) :: m) := by
  induction m with
  | nil => exact .refl _
  | cons e m ih =>
    rw [List.map_cons, List.mem_cons, not_or] at h
    unfold put
    split
    · exact .refl _
    · split
      · exact ((ih h.2).cons e).trans (.swap _ _ _)
      · rename_i hlt hlt'
        exact (h.1 (Std.Trichotomous.trichotomous k e.1 hlt hlt')).elim

/-- If no key comes twice, the map has just the entries that it is made of. -/
theorem perm_ofEntries (h : (entries.map (·.1)).Nodup) : (ofEntries entries).Perm entries := by
  have foldl_put (entries m : List (κ × α)) (h : ((entries ++ m).map (·.1)).Nodup) :
      (entries.foldl (fun m e => put e.1 e.2 m) m).Perm (entries ++ m) := by
    induction entries generalizing m with
    | nil => exact .refl _
    | cons e entries ih =>
      have hnew : e.1 ∉ m.map (·.1) := by
        rw [List.cons_append, List.map_cons, List.nodup_cons, List.map_append, List.mem_append, not_or] at h
        exact h.1.2
      have moved : (entries ++ put e.1 e.2 m).Perm (e :: (entries ++ m)) :=
        ((perm_put hnew e.2).append_left entries).trans List.perm_middle
      exact (ih _ ((moved.map (·.1)).nodup_iff.2 h)).trans moved
  simpa [ofEntries] using foldl_put entries [] (by simpa using h)

theorem pairwise_ofEntries [Trans (fun a b : κ => a < b) (fun a b : κ => a < b) (fun a b : κ => a < b)]
    (entries : List (κ × α)) : (ofEntries entries).Pairwise (fun a b => a.1 < b.1) := by
  have foldl_put (m : List (κ × α)) (h : m.Pairwise (fun a b => a.1 < b.1)) :
      (entries.foldl (fun m e => put e.1 e.2 m) m).Pairwise (fun a b => a.1 < b.1) := by
    induction entries generalizing m with
    | nil => exact h
    | cons e entries ih => exact ih _ (pairwise_put h)
  exact foldl_put [] .nil

omit [DecidableLT κ] [Std.Trichotomous (fun a b : κ => a < b)] in
/-- There is one order in which the keys increase. -/
theorem eq_of_perm [Std.Asymm (fun a b : κ => a < b)] {m' : List (κ × α)} (h : m.Pairwise (fun a b => a.1 < b.1))
    (h' : m'.Pairwise (fun a b => a.1 < b.1)) (hp : m.Perm m') : m = m' :=
  hp.eq_of_pairwise (fun a b _ _ hab hba => (Std.Asymm.asymm a.1 b.1 hab hba).elim) h h'

variable [Trans (fun a b : κ => a < b) (fun a b : κ => a < b) (fun a b : κ => a < b)]
  [Std.Asymm (fun a b : κ => a < b)]

/-- If no key comes twice, it does not matter in which order the entries come. -/
theorem ofEntries_eq_of_perm (h : (entries.map (·.1)).Nodup) (hp : entries'.Perm entries) :
    ofEntries entries' = ofEntries entries := by
  have h' : (entries'.map (·.1)).Nodup := (hp.map (·.1)).nodup_iff.2 h
  exact eq_of_perm (pairwise_ofEntries _) (pairwise_ofEntries _)
    ((perm_ofEntries h').trans (hp.trans (perm_ofEntries h).symm))

/-- A map is made of its own entries. -/
theorem ofEntries_of_pairwise (h : m.Pairwise (fun a b => a.1 < b.1)) : ofEntries m = m :=
  eq_of_perm (pairwise_ofEntries _) h (perm_ofEntries (nodup_keys h))

end

end SearchIndex.Sorted
