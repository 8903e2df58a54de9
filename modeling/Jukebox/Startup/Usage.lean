import Jukebox.Program
import Jukebox.Startup.Arguments

/-
# What the program says of its arguments

How the program is used, and what it says instead of starting: the help or the version if that is
asked for, which is no failure, and otherwise what is wrong with the arguments.
-/

namespace Jukebox

/-- How the program is used. -/
def Program.usage : String :=
  "Keyboard driven terminal client for MPD\n\n" ++
  "Usage: " ++ Program.name ++ " [OPTIONS]\n\n" ++
  "Options:\n" ++
  "      --host <HOST>                MPD host, or password@host\n" ++
  "  -p, --port <PORT>                MPD port\n" ++
  "      --password <PASSWORD>        MPD password\n" ++
  "  -c, --config <CONFIG>            Configuration script, run after the built-in defaults\n" ++
  "      --key-timeout <KEY_TIMEOUT>  Milliseconds to wait for the rest of a key sequence\n" ++
  "  -h, --help                       Print help\n" ++
  "  -V, --version                    Print version"

namespace StartupError

/-- What the program says instead of starting. -/
def message : StartupError → String
  | unknownArgument => "error: unexpected argument"
  | badValue => "error: invalid value for an option"
  | missingValue => "error: an option lacks its value"
  | repeated => "error: an option is given twice"
  | unneededValue => "error: a flag takes no value"
  | help => Program.usage
  | version => Program.name ++ " " ++ Program.version

/-- Whether the arguments are at fault. -/
def isFailure : StartupError → Bool
  | help | version => false
  | _ => true

/-- The exit code of the program if it does not start. -/
def exitCode (error : StartupError) : UInt32 := if error.isFailure then 2 else 0

end StartupError

end Jukebox
