/-!
Tasks that read and create files. A task is a tree: at each node it asks for something and goes on
with the answer. It can be run on disk, or on a tree of files in memory.
-/

namespace SearchIndex

/-- Why a file cannot be read. -/
inductive ReadFailure where
  | missing
  | unreadable
  deriving DecidableEq, Repr, Inhabited

inductive FileTask (α : Type) where
  | done (result : α)
  /-- Reads a text file. -/
  | read (path : String) (next : Except ReadFailure String → FileTask α)
  /-- Creates a text file, and the directories above it; the answer tells whether that worked. -/
  | create (path text : String) (next : Bool → FileTask α)

namespace FileTask

variable {α β : Type}

/-- One task after the other. -/
protected def bind (t : FileTask α) (f : α → FileTask β) : FileTask β :=
  match t with
  | done result => f result
  | read path next => .read path fun answer => (next answer).bind f
  | create path text next => .create path text fun answer => (next answer).bind f

instance : Monad FileTask where
  pure := done
  bind := FileTask.bind

def readFile (path : String) : FileTask (Except ReadFailure String) := .read path done

def createFile (path text : String) : FileTask Bool := .create path text done

end FileTask

/-- Files in memory, each named by the directories on the way to it. -/
structure FileTree where
  files : List (List String × String) := []
  deriving DecidableEq, Repr, Inhabited

namespace FileTree

/-- The names on a path. An empty name at the end says that the path is one of a directory. -/
def names (path : String) : List String := (path.toList.splitOn '/').map .ofList

/-- Where a path starts: in the working directory, or at the root, which is named by a slash. -/
def start (path : String) : List String × List String :=
  match names path with
  | "" :: rest => (["/"], rest)
  | names => ([], names)

def file? (t : FileTree) (location : List String) : Option String := t.files.lookup location

/-- A directory is there if a file is below it. -/
def isDirectory (t : FileTree) (location : List String) : Bool :=
  location = [] || location = ["/"] ||
    t.files.any fun f => location.length < f.1.length && f.1.take location.length = location

/-- Reads the file that names lead to from a directory. Nothing is known above the working directory. -/
def readFrom (t : FileTree) (here : List String) : List String → Except ReadFailure String
  | [] => .error .unreadable
  | name :: rest =>
    if name = "" ∨ name = "." then readFrom t here rest
    else if name = ".." then
      if here = [] then .error .missing
      else readFrom t (if here = ["/"] then here else here.dropLast) rest
    else
      match t.file? (here ++ [name]) with
      | some text => if rest = [] then .ok text else .error .unreadable
      | none => if t.isDirectory (here ++ [name]) then readFrom t (here ++ [name]) rest else .error .missing

/-- Reads the file of a path. -/
def read (t : FileTree) (path : String) : Except ReadFailure String :=
  let (here, names) := start path
  if path = "" then .error .missing else readFrom t here names

/-- The place that names lead to, whether or not something is there. -/
def locate (here : List String) : List String → List String
  | [] => here
  | name :: rest =>
    if name = "" ∨ name = "." then locate here rest
    else if name = ".." then locate here.dropLast rest
    else locate (here ++ [name]) rest

/-- Puts a file in its place. There must be no directory, and none of the directories above it may be
a file. -/
def create (t : FileTree) (path text : String) : Option FileTree :=
  let (here, names) := start path
  let location := locate here names
  let isBlocked := (List.range location.length).any fun n => (t.file? (location.take n)).isSome
  if t.isDirectory location ∨ isBlocked then none
  else some { files := (location, text) :: t.files.filter fun f => f.1 ≠ location }

/-- The tree with the given files. -/
def ofFiles (files : List (String × String)) : FileTree :=
  { files := files.map fun (path, text) => (locate (start path).1 (start path).2, text) }

end FileTree

/-- Runs a task on files in memory. -/
def FileTask.runOn {α : Type} : FileTask α → FileTree → α × FileTree
  | done result, t => (result, t)
  | read path next, t => (next (t.read path)).runOn t
  | create path text next, t =>
    match t.create path text with
    | some t => (next true).runOn t
    | none => (next false).runOn t

end SearchIndex
