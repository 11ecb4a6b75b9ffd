/-!
The grammar of a command line, and its reader. Options stand before or after the command and its
arguments. The words are taken from left to right: the first that does not fit ends the reading,
and so does the first that asks for help or for the version.
-/

namespace SearchIndex.CommandLine

/-- What an option takes, and how often it may be given. -/
inductive Arity where
  /-- No value, once. -/
  | flag
  /-- No value, any number of times. -/
  | count
  /-- A value, once. -/
  | value
  /-- A value each time, any number of times. -/
  | values
  | help
  | version
  deriving DecidableEq, Repr, Inhabited

namespace Arity

def takesValue : Arity → Bool
  | value | values => true
  | _ => false

def isOnce : Arity → Bool
  | flag | value => true
  | _ => false

end Arity

structure Switch where
  /-- The name after two hyphens. -/
  long : String
  /-- The letter after one hyphen. -/
  short : Option Char := none
  arity : Arity
  /-- What help texts call the value. -/
  valueName : String := ""
  about : String := ""
  required : Bool := false
  /-- Which values are allowed. -/
  accepts : String → Bool := fun _ => true

/-- An argument without a name. -/
structure Place where
  name : String
  about : String

/-- A command, marked by a value of `κ`. The switches are in the order of the help text. -/
structure CommandForm (κ : Type) where
  verb : κ
  name : String
  about : String
  places : List Place
  switches : List Switch

structure Grammar (κ : Type) where
  program : String
  version : String
  about : String
  switches : List Switch
  commands : List (CommandForm κ)

/-- What was given to the program or to a command. -/
structure Given where
  /-- Options by their long names with their values, in order; empty if they take none. -/
  switches : List (String × String) := []
  places : List String := []
  deriving DecidableEq, Repr, Inhabited

namespace Given

def has (g : Given) (long : String) : Bool := g.switches.any fun s => s.1 = long

/-- The value of an option. -/
def value? (g : Given) (long : String) : Option String := g.switches.lookup long

/-- All values of an option, in order. -/
def values (g : Given) (long : String) : List String :=
  (g.switches.filter fun s => s.1 = long).map (·.2)

end Given

/-- What a help text is about. -/
inductive Topic (κ : Type) where
  | program
  | command (form : CommandForm κ)
  | helpCommand

/-- Why no command line comes out. -/
inductive Stop (κ : Type) where
  | help (topic : Topic κ)
  | version
  | misuse

/-- The words read so far. -/
structure Reading (κ : Type) where
  /-- What stands before the command. -/
  outer : Given := {}
  form : Option (CommandForm κ) := none
  /-- What was given to the command, or to the program if there is no command yet. -/
  given : Given := {}
  /-- An option that waits for its value. -/
  pending : Option Switch := none
  /-- Whether two hyphens came: no word after them is an option. -/
  plain : Bool := false
  /-- The words after the command `help`. -/
  topics : Option (List String) := none

namespace Reading

variable {κ : Type}

/-- The switches that may come next. -/
def switches (g : Grammar κ) (r : Reading κ) : List Switch :=
  match r.form with
  | some form => form.switches
  | none => g.switches

/-- What help is about at this point. -/
def topic (r : Reading κ) : Topic κ :=
  match r.form with
  | some form => .command form
  | none => .program

/-- Takes an option with its value. -/
def give (r : Reading κ) (s : Switch) (value : String) : Except (Stop κ) (Reading κ) :=
  if s.arity = .help then .error (.help r.topic)
  else if s.arity = .version then .error .version
  else if (s.arity.isOnce && r.given.has s.long) || ! s.accepts value then .error .misuse
  else .ok { r with
    given := { r.given with switches := r.given.switches ++ [(s.long, value)] }, pending := none }

/-- Takes an option by its long name, with a value after an equals sign. -/
def long (g : Grammar κ) (r : Reading κ) (cs : List Char) : Except (Stop κ) (Reading κ) :=
  match (r.switches g).find? fun s => s.long.toList = cs.takeWhile (· ≠ '=') with
  | none => .error .misuse
  | some s =>
    match cs.dropWhile (· ≠ '='), s.arity.takesValue with
    | [], true => .ok { r with pending := some s }
    | [], false => r.give s ""
    | _ :: value, true => r.give s (.ofList value)
    | _, false => .error .misuse

/-- Takes options by their letters. The first that takes a value takes the rest of the word. -/
def letters (g : Grammar κ) (r : Reading κ) : List Char → Except (Stop κ) (Reading κ)
  | [] => .ok r
  | c :: rest =>
    match (r.switches g).find? fun s => s.short = some c with
    | none => .error .misuse
    | some s =>
      if s.arity.takesValue then
        match rest with
        | [] => .ok { r with pending := some s }
        | '=' :: value => r.give s (.ofList value)
        | value => r.give s (.ofList value)
      else
        match r.give s "" with
        | .ok r => letters g r rest
        | .error e => .error e

/-- Takes a word that is no option: the name of a command, or an argument, which is not empty. -/
def word (g : Grammar κ) (r : Reading κ) (w : String) : Except (Stop κ) (Reading κ) :=
  match r.form with
  | some form =>
    if r.given.places.length < form.places.length ∧ w ≠ "" then
      .ok { r with given := { r.given with places := r.given.places ++ [w] } }
    else .error .misuse
  | none =>
    if r.plain then .error .misuse
    else if w = "help" then .ok { r with topics := some [] }
    else
      match g.commands.find? fun form => form.name = w with
      | some form => .ok { outer := r.given, form := some form }
      | none => .error .misuse

/-- Takes the next word. A word that begins with a hyphen, if it is more than that, is no value. -/
def step (g : Grammar κ) (r : Reading κ) (w : String) : Except (Stop κ) (Reading κ) :=
  match r.topics with
  | some topics => .ok { r with topics := some (topics ++ [w]) }
  | none =>
    match r.pending, w.toList with
    | some _, '-' :: _ :: _ => .error .misuse
    | some s, _ => r.give s w
    | none, cs =>
      if r.plain then r.word g w
      else
        match cs with
        | ['-', '-'] => .ok { r with plain := true }
        | '-' :: '-' :: cs => r.long g cs
        | '-' :: c :: cs => r.letters g (c :: cs)
        | _ => r.word g w

/-- What help the words after `help` ask for. -/
def helpOn (g : Grammar κ) : List String → Stop κ
  | [] => .help .program
  | [w] =>
    if w = "help" then .help .helpCommand
    else
      match g.commands.find? fun form => form.name = w with
      | some form => .help (.command form)
      | none => .misuse
  | _ => .misuse

/-- Reads all words. -/
def ofWords (g : Grammar κ) (words : List String) : Except (Stop κ) (Reading κ) := do
  let r ← words.foldlM (step g) {}
  match r.topics, r.pending with
  | some topics, _ => throw (helpOn g topics)
  | none, some _ => throw .misuse
  | none, none => return r

end Reading

end SearchIndex.CommandLine
