import Jukebox.Program
import Jukebox.Startup.Arguments

/-
# Directories of the user

Where the configuration and the logs of a user are: in the directory that the environment names for
each, if it names one by an absolute path, or else in the usual place below the home directory.
-/

namespace Jukebox

/-- Whether a path begins at the root. -/
def isAbsolute (path : String) : Bool := path.toList.head? == some '/'

/-- A path below another one, with one slash between them. -/
def joinPath (path name : String) : String :=
  if path.toList.getLast? = some '/' then path ++ name else path ++ "/" ++ name

/-- The home directory of the user. -/
def homeDirectory? (env : Environment) : Option String :=
  (env "HOME").filter (· ≠ "")

/-- The directory that a variable names, or else one below the home directory. -/
def userDirectory? (env : Environment) (name usual : String) : Option String :=
  ((env name).filter isAbsolute).or ((homeDirectory? env).map (joinPath · usual))

/-- The script with the configuration of the user: the one named at the start, or else the usual
one. -/
def Startup.configPath? (startup : Startup) (env : Environment) : Option String :=
  startup.config.or <| (userDirectory? env "XDG_CONFIG_HOME" ".config").map fun directory =>
    joinPath (joinPath directory Program.name) "pms.conf"

/-- Where logs are kept; without a home, in the current directory. -/
def logDirectory (env : Environment) : String :=
  match userDirectory? env "XDG_CACHE_HOME" ".cache" with
  | some directory => joinPath directory Program.name
  | none => ".logs"

end Jukebox
