/-!
Lists kept in increasing order without repeats: maps as lists of entries with increasing keys, and
sets of names. Texts are ordered by their code points, which is also the order of their UTF-8
bytes.
-/

namespace SearchIndex.Sorted

variable {κ α : Type} [LT κ] [DecidableLT κ]

/-- Binds a key; an entry of that key is replaced. -/
def put (k : κ) (v : α) : List (κ × α) → List (κ × α)
  | [] => [(k, v)]
  | (k', v') :: rest =>
    if k < k' then (k, v) :: (k', v') :: rest
    else if k' < k then (k', v') :: put k v rest
    else (k, v) :: rest

/-- The map of some entries; of two with one key the later counts. -/
def ofEntries (entries : List (κ × α)) : List (κ × α) :=
  entries.foldl (fun m e => put e.1 e.2 m) []

/-- Adds an element to a set. -/
def add (k : κ) : List κ → List κ
  | [] => [k]
  | k' :: rest => if k < k' then k :: k' :: rest else if k' < k then k' :: add k rest else k' :: rest

/-- The set of some elements. -/
def ofElements (ks : List κ) : List κ := ks.foldl (fun s k => add k s) []

end SearchIndex.Sorted
