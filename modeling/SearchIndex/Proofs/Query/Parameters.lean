import SearchIndex.Query.Request
import SearchIndex.Proofs.Sorted
import SearchIndex.Proofs.Text.Decimal

/-!
# Parameters are read back

What a request does not set is left out of its parameters, numbers are written in decimal notation and the
names of return fields are put together with commas. Nothing is lost by that as long as no name holds a comma:
no key occurs twice, and from the parameters, in any order, the request is read back.
-/

namespace SearchIndex.SearchRequest

variable {r : SearchRequest}

/-- No name of a return field holds a comma. -/
def HasPlainNames (r : SearchRequest) : Prop := ∀ name ∈ r.returnFields, ',' ∉ name.toList

/-- The names in a row with commas between them. -/
def splitNames (s : String) : List String := (s.toList.splitOn ',').map String.ofList

/-- Reads a request from its parameters. -/
def ofParams? (params : List (String × String)) : Option SearchRequest := do
  let limit ← (params.lookup "size").bind fun s => Text.digits? s.toList
  let offset ← (params.lookup "start").mapM fun s => Text.digits? s.toList
  return {
    freeText := params.lookup "q"
    booleanQuery := params.lookup "bq"
    rank := params.lookup "rank"
    limit, offset
    returnFields := ((params.lookup "return-fields").map splitNames).getD [] }

/-! ## Keys and values -/

/-- The keys, each with its value if there is one. -/
def entries (r : SearchRequest) : List (String × Option String) :=
  [("q", r.freeText), ("bq", r.booleanQuery), ("rank", r.rank), ("size", some (toString r.limit)),
    ("start", r.offset.map toString),
    ("return-fields", if r.returnFields = [] then none else some (",".intercalate r.returnFields))]

theorem params_eq (r : SearchRequest) : r.params = r.entries.filterMap fun e => e.2.map (e.1, ·) := by
  have optional (e : String × Option String) (es : List (String × Option String)) :
      (e :: es).filterMap (fun e => e.2.map (e.1, ·)) =
        (e.2.map (e.1, ·)).toList ++ es.filterMap fun e => e.2.map (e.1, ·) := by
    rw [List.filterMap_cons]
    cases e.2 <;> rfl
  simp only [params, entries, optional, List.filterMap_nil, List.append_assoc, List.append_nil, Option.map_map,
    Option.map_some, Option.toList_some]
  split <;> rfl

theorem nodup_entries (r : SearchRequest) : (r.entries.map (·.1)).Nodup := by
  simp only [entries, List.map_cons, List.map_nil]
  decide

theorem nodup_params (r : SearchRequest) : (r.params.map (·.1)).Nodup := by
  rw [params_eq]
  exact Sorted.nodup_filterMap r.nodup_entries _

theorem lookup_params {key : String} {value : Option String} (h : (key, value) ∈ r.entries) :
    r.params.lookup key = value := by
  rw [params_eq]
  exact Sorted.lookup_filterMap r.nodup_entries h

/-! ## Reading -/

theorem splitNames_intercalate {names : List String} (h : ∀ name ∈ names, ',' ∉ name.toList) (hne : names ≠ []) :
    splitNames (",".intercalate names) = names := by
  have hsplit : ([','].intercalate (names.map String.toList)).splitOn ',' = names.map String.toList :=
    List.splitOn_intercalate ',' (by simpa using h) (by simpa using hne)
  have hcommas : (",".intercalate names).toList = [','].intercalate (names.map String.toList) := by simp
  rw [splitNames, hcommas, hsplit, List.map_map]
  simp [Function.comp_def]

theorem digits?_toString (n : Nat) : Text.digits? (toString n).toList = some n := by
  rw [Nat.toString_eq_repr, Nat.toList_repr, Text.digits?_toDigits]

theorem ofParams?_params (h : r.HasPlainNames) : ofParams? r.params = some r := by
  have htext : r.params.lookup "q" = r.freeText := lookup_params (by simp [entries])
  have hquery : r.params.lookup "bq" = r.booleanQuery := lookup_params (by simp [entries])
  have hrank : r.params.lookup "rank" = r.rank := lookup_params (by simp [entries])
  have hlimit : r.params.lookup "size" = some (toString r.limit) := lookup_params (by simp [entries])
  have hoffset : r.params.lookup "start" = r.offset.map toString := lookup_params (by simp [entries])
  have hnames : r.params.lookup "return-fields" =
      if r.returnFields = [] then none else some (",".intercalate r.returnFields) := lookup_params (by simp [entries])
  have hoffset' : (r.offset.map toString).mapM (fun s => Text.digits? s.toList) = some r.offset := by
    cases r.offset with
    | none => rfl
    | some n => rw [Option.map_some, Option.mapM_some, digits?_toString]; rfl
  have hnames' : (((if r.returnFields = [] then none else some (",".intercalate r.returnFields)).map splitNames).getD []) =
      r.returnFields := by
    split
    · rename_i hnone
      rw [hnone]
      rfl
    · rename_i hne
      exact splitNames_intercalate h hne
  simp only [ofParams?, htext, hquery, hrank, hlimit, hoffset, hoffset', hnames, hnames', Option.bind_some, digits?_toString]
  rfl

/-- Reading does not depend on the order of the parameters. -/
theorem ofParams?_eq_of_perm {params : List (String × String)} (h : params.Perm r.params) :
    ofParams? params = ofParams? r.params := by
  have hlookup (key : String) : params.lookup key = r.params.lookup key := Sorted.lookup_eq_of_perm r.nodup_params h key
  simp only [ofParams?, hlookup]

/-- No key occurs twice among the parameters of a request. If no name of a return field holds a comma, then the
request is read back from them in whichever order they come, and different requests have different ones. -/
theorem params_read_back :
    (∀ r : SearchRequest, (r.params.map (·.1)).Nodup) ∧
    (∀ r : SearchRequest, r.HasPlainNames → ∀ params, params.Perm r.params → ofParams? params = some r) ∧
    ∀ r r' : SearchRequest, r.HasPlainNames → r'.HasPlainNames → r.params = r'.params → r = r' := by
  refine ⟨nodup_params, fun r h params hp => ?_, fun r r' h h' heq => ?_⟩
  · rw [ofParams?_eq_of_perm hp, ofParams?_params h]
  · have hread : some r = some r' := by
      rw [← ofParams?_params h, heq, ofParams?_params h']
    exact Option.some.inj hread

/-- To ask for the field without a name is not to ask for no field, and empty text is not none. -/
theorem params_read_back_empty :
    let r : SearchRequest := { freeText := some "", limit := 0, returnFields := [""] }
    let r' : SearchRequest := { freeText := some "", limit := 0 }
    r.HasPlainNames ∧ r'.HasPlainNames ∧ r.params = [("q", ""), ("size", "0"), ("return-fields", "")] ∧
      r.params ≠ r'.params ∧ ofParams? [("return-fields", ""), ("size", "0"), ("q", "")] = some r := by
  intro r r'
  have h : r.HasPlainNames := by
    intro name hname
    rw [List.mem_singleton.1 hname]
    decide
  have h' : r'.HasPlainNames := nofun
  have hparams : r.params = [("q", ""), ("size", "0"), ("return-fields", "")] := by decide
  obtain ⟨-, hread, hinj⟩ := params_read_back
  refine ⟨h, h', hparams, fun heq => ?_, hread r h _ ?_⟩
  · cases congrArg returnFields (hinj r r' h h' heq)
  · rw [hparams]
    decide

/-- With a comma in a name two requests may have the same parameters. -/
example : ({ returnFields := ["body", "stars"] } : SearchRequest).params =
    ({ returnFields := ["body,stars"] } : SearchRequest).params := rfl

end SearchIndex.SearchRequest
