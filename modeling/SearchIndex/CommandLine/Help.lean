import SearchIndex.CommandLine.Grammar

/-!
Help texts: what it is about, how it is used, and tables of its commands, arguments and options.
-/

namespace SearchIndex.CommandLine

namespace Help

/-- Rows of two columns, the second one aligned. -/
def table (rows : List (String × String)) : String :=
  let width := rows.foldl (fun w row => max w row.1.length) 0
  "\n".intercalate (rows.map fun (left, right) => "  " ++ left.pushn ' ' (width + 2 - left.length) ++ right)

/-- A table under its title, unless it has no rows. -/
def titled (title : String) (rows : List (String × String)) : List String :=
  if rows.isEmpty then [] else [title ++ ":\n" ++ table rows]

/-- An option by its long name, with its value. -/
def long (s : Switch) : String :=
  "--" ++ s.long ++
    (if s.arity.takesValue then " <" ++ s.valueName ++ ">" else if s.arity = .count then "..." else "")

/-- The row of an option. -/
def switchRow (s : Switch) : String × String :=
  let letter := match s.short with
    | some c => "-" ++ c.toString ++ ", "
    | none => "    "
  (letter ++ long s, s.about)

/-- An argument in angle brackets. -/
def place (p : Place) : String := "<" ++ p.name ++ ">"

/-- What is said about the command `help`. -/
def helpAbout : String := "Print this message or the help of the given subcommand(s)"

/-- Paragraphs with empty lines between them. -/
def page (paragraphs : List String) : String := "\n\n".intercalate paragraphs ++ "\n"

def usage (words : List String) : String := "Usage: " ++ " ".intercalate words

end Help

open Help in
/-- The help text on a topic. -/
def Grammar.help {κ : Type} (g : Grammar κ) : Topic κ → String
  | .program => page ([g.about, usage [g.program, "[OPTIONS]", "[COMMAND]"]]
      ++ titled "Commands" (g.commands.map (fun c => (c.name, c.about)) ++ [("help", helpAbout)])
      ++ titled "Options" (g.switches.map switchRow))
  | .command c => page ([c.about, usage ([g.program, c.name, "[OPTIONS]"]
        ++ (c.switches.filter (·.required)).map long ++ c.places.map place)]
      ++ titled "Arguments" (c.places.map fun p => (place p, p.about))
      ++ titled "Options" (c.switches.map switchRow))
  | .helpCommand => page ([helpAbout, usage [g.program, "help", "[COMMAND]..."]]
      ++ titled "Arguments" [("[COMMAND]...", "Print help for the subcommand(s)")])

end SearchIndex.CommandLine
