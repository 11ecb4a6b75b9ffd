import SearchIndex.Text.Escaped

/-!
What a condition compares a field with.
-/

namespace SearchIndex

inductive Operand where
  | text (s : String)
  | int (n : Int64)
  | list (items : List Operand)
  /-- All integers from `lo` to `hi`, both included. -/
  | range (lo hi : Int64)
  deriving Repr, Inhabited

namespace Operand

mutual

/-- The form that messages show: texts escaped, lists in brackets. -/
def display : Operand → String
  | text s => Text.escaped s
  | int n => toString n.toInt
  | list items => "[" ++ ", ".intercalate (displayAll items) ++ "]"
  | range lo hi => toString lo.toInt ++ ".." ++ toString hi.toInt

def displayAll : List Operand → List String
  | [] => []
  | v :: rest => display v :: displayAll rest

end

end Operand

end SearchIndex
