import Jukebox.Screen
import Jukebox.Startup.Launch
import Jukebox.Startup.Usage

/-
# The program

A client on a terminal without raw keys. Each line that it reads is a key sequence in writing, such
as `jj` or `:volume +2<Enter>`; after each line it prints the screen. It has no way to reach a
server, so every attempt to connect is refused and shown as such.
-/

namespace Jukebox.Program

/-- The client of the program. -/
abbrev App := Controller Wire.ScriptedNetwork Wire.Link

/-- The variables of the environment that the program looks at. -/
def variableNames : List String :=
  ["HOME", "XDG_CONFIG_HOME", "MPD_HOST", "MPD_PORT", "MPD_PASSWORD"]

/-- The width of the screen that is printed. -/
def screenWidth : Nat := 80

/-- The height of the screen that is printed. -/
def screenHeight : Nat := 24

/-- The screen as lines of text, and the client after drawing it. -/
def draw (app : App) : List String × App :=
  let (screen, session) := Screen.render screenWidth screenHeight app.session
  let session := session.modifyUi ({ · with redraw := false })
  (screen.rows.map fun row => String.join (row.map (·.symbol)), { app with session })

/-- The client after the keys of a line. -/
def typeLine (line : String) (now : Nat) (app : App) : App :=
  app.handleKeys ((Key.readKeys line.toList).map Key.event) now

/-- The chance that a generator of random numbers makes. Each draw goes on where the last one left
the generator. -/
def chanceOf (generator : StdGen) : Chance where
  pick before rows h :=
    let generator := before.foldr (fun rows generator => (randNat generator 0 (rows - 1)).2) generator
    ⟨(randNat generator 0 (rows - 1)).1 % rows, Nat.mod_lt _ h⟩

/-- Reads the environment. -/
def readEnvironment : IO Environment := do
  let found ← variableNames.mapM fun name => return (name, ← IO.getEnv name)
  return fun name => (found.lookup name).join

/-- Reads the file with the configuration of the user. -/
def readConfig (path : String) : IO ConfigFile := do
  try
    let bytes ← IO.FS.readBinFile path
    return { path, content := .ok (some bytes.toList) }
  catch
    | .noFileOrDirectory _ _ _ => return { path, content := .ok none }
    | error => return { path, content := .error (toString error) }

/-- The exit code of a program that a command line has ended. -/
def crashCode : UInt32 := 101

/-- Prints the screen and reads keys until the client quits or there are no more. Gives the exit
code. -/
partial def loop (app : App) : IO UInt32 := do
  let now ← IO.monoMsNow
  let app := if app.crashed then app else app.tick now now
  if app.crashed then
    IO.eprintln CommandError.overflow.message
    return crashCode
  let (rows, app) := draw app
  rows.forM IO.println
  if app.session.ui.quitting then return 0
  let line ← (← IO.getStdin).getLine
  if line.isEmpty then return 0
  loop (typeLine (Wire.chomp line) (← IO.monoMsNow) app)

/-- Starts the client as the arguments say. -/
def start (startup : Startup) (environment : Environment) : IO UInt32 := do
  let config ← (startup.configPath? environment).mapM readConfig
  let chance := chanceOf (mkStdGen (← IO.monoNanosNow))
  match startup.launch? config ({} : Wire.ScriptedNetwork) chance (← IO.monoMsNow) with
  | .ok app => loop app
  | .error error =>
    IO.eprintln error.message
    return 1

/-- Runs the program with its arguments and gives its exit code. -/
def run (arguments : List String) : IO UInt32 := do
  let environment ← readEnvironment
  match Startup.read arguments environment with
  | .ok startup => start startup environment
  | .error error =>
    if error.isFailure then IO.eprintln error.message else IO.println error.message
    return error.exitCode

end Jukebox.Program

/-- The program. -/
def main (arguments : List String) : IO UInt32 := Jukebox.Program.run arguments
