/-!
Where the settings file of the command line lies. A variable of the environment names its
directory; else it is the program's directory among the user's configurations.
-/

namespace SearchIndex.Location

/-- The name of the program's own directories. -/
def programName : String := "cloudindex"

def settingsFileName : String := "cloudindex.toml"

/-- The variable that overrides the directory of the settings file. -/
def overrideVariable : String := "CLOUDINDEX_CONFIG_DIR"

/-- The values of the variables that are set. -/
abbrev Environment := String → Option String

def isAbsolute (path : String) : Bool := path.toList.head? = some '/'

/-- A path below a directory; an absolute path stands for itself. -/
def join (directory path : String) : String :=
  if isAbsolute path ∨ directory = "" then path
  else if directory.toList.getLast? = some '/' then directory ++ path
  else directory ++ "/" ++ path

/-- The directory of the user's configurations: the one that is set, if that is absolute, else the
usual one in the home directory. -/
def configHome (env : Environment) : String :=
  match (env "XDG_CONFIG_HOME").filter isAbsolute with
  | some directory => directory
  | none => join ((env "HOME").getD "/root") ".config"

/-- The program's directory among the user's configurations. -/
def configDirectory (env : Environment) : String := join (configHome env) programName

/-- The program's directory for temporary files. -/
def temporaryDirectory (env : Environment) : String := join ((env "TMPDIR").getD "/tmp") programName

/-- A directory that a variable can set, with a usual place if it has one. -/
def resolve (env : Environment) (variableName : String) (usual : Option String) : String :=
  match env variableName with
  | some directory => directory
  | none => usual.getD (temporaryDirectory env)

/-- The path of the settings file. -/
def settingsPath (env : Environment) : String :=
  join (resolve env overrideVariable (some (configDirectory env))) settingsFileName

end SearchIndex.Location
