import Jukebox.Controller.Keys
import Jukebox.Script.Standard
import Jukebox.Startup.Directories

/-
# Launching

A client is launched with the standard configuration. The configuration of its user is carried out on
top of that; what is wrong with it is shown and keeps the client from nothing. Then the client
connects to its server, and whether that succeeds is shown as well.
-/

namespace Jukebox

/-- A file with a configuration, as it was found: its bytes unless there is no such file, or why it
cannot be read. -/
structure ConfigFile where
  path : String
  content : Except String (Option (List UInt8))

namespace ConfigFile

/-- What to tell the user of how the configuration went; nothing if all is well. -/
def complaint? (path : String) : Except String (List ScriptError) → Option String
  | .ok [] => none
  | .ok (first :: rest) =>
    some (path ++ ": " ++ first.message ++ " (" ++ toString (rest.length + 1) ++ " errors)")
  | .error reason => some ("Cannot read " ++ path ++ ": " ++ reason)

variable {σ : Type}

/-- Carries out a configuration and shows what is wrong with it. -/
def carryOut (file : ConfigFile) (dispatcher : Dispatcher (Session σ)) (session : Session σ) :
    Dispatcher (Session σ) × Session σ :=
  let (result, dispatcher, session) := match file.content with
    | .ok content => Script.runFile content dispatcher session
    | .error reason => (.error reason, dispatcher, session)
  match complaint? file.path result with
  | some text => (dispatcher, session.modifyUi (·.setError text))
  | none => (dispatcher, session)

end ConfigFile

namespace Startup

variable {ω σ : Type} [Network ω σ] [Service σ]

/-- Makes a client of what came of the standard configuration: carries out the configuration of the
user on top of it. -/
def furnish (startup : Startup) (config : Option ConfigFile) (network : ω) (clock : Nat) :
    Except DispatchError Unit × Dispatcher (Session σ) × Session σ →
      Except DispatchError (Controller ω σ)
  | (.error error, _) => .error error
  | (.ok (), dispatcher, session) =>
    let (dispatcher, session) := match config with
      | some file => file.carryOut dispatcher session
      | none => (dispatcher, session)
    .ok { session, dispatcher, network, server := startup.server, lastRefresh := clock,
          resolver := { timeout := startup.keyTimeout } }

/-- The client as it is before it connects. It cannot be launched unless the standard configuration
is in order. -/
def client? (startup : Startup) (config : Option ConfigFile) (network : ω) (chance : Chance)
    (clock : Nat) : Except DispatchError (Controller ω σ) :=
  startup.furnish config network clock (Script.startingSession { chance })

/-- Launches a client and has it connect. -/
def launch? (startup : Startup) (config : Option ConfigFile) (network : ω) (chance : Chance)
    (clock : Nat) : Except DispatchError (Controller ω σ) :=
  (startup.client? config network chance clock).map fun c => c.connect clock

end Startup

end Jukebox
