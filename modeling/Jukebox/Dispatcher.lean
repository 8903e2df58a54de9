import Jukebox.Command
import Jukebox.Text.Split
import Jukebox.Token.Lexer

/-
# Dispatching command lines

Commands are registered under names, each name once. The first token of a line names the command
that gets the others. A command keeps its state between the lines it gets; it is told to prepare for
each line first.
-/

namespace Jukebox

/-- Why a line is not carried out. -/
inductive DispatchError where
  | notFound (name : String)
  | notACommand (text : String)
  | command (error : CommandError)
deriving DecidableEq, Repr

/-- The error as it is shown. -/
def DispatchError.message : DispatchError → String
  | notFound name => "command not found: " ++ name
  | notACommand text => "Expected a command name, got '" ++ text ++ "'"
  | command error => error.message

/-- Whether the program ends on the spot. -/
def DispatchError.endsProgram : DispatchError → Bool
  | notFound _ | notACommand _ => false
  | command error => error.endsProgram

/-- The error of registering a name a second time. -/
structure DuplicateCommand where
  name : String
deriving DecidableEq, Repr

/-- The error as it is shown. -/
def DuplicateCommand.message (error : DuplicateCommand) : String :=
  "command '" ++ error.name ++ "' is registered twice"

/-- A command with its name and what it remembers. -/
structure RegisteredCommand (ω : Type) where
  name : String
  command : Command ω
  state : command.State

/-- The registered commands. -/
structure Dispatcher (ω : Type) where
  commands : List (RegisteredCommand ω) := []

variable {ω : Type}

namespace Command

/-- Feeds tokens to a command until it gives up or there are no more. -/
def feedAll (command : Command ω) : List Token → command.State → ω →
    Except CommandError Unit × command.State × ω
  | [], state, world => (.ok (), state, world)
  | token :: tokens, state, world =>
    match command.feed token state world with
    | (.ok (), state, world) => command.feedAll tokens state world
    | failure => failure

/-- Has a command prepare for a line and carry it out. -/
def runLine (command : Command ω) (tokens : List Token) (state : command.State) (world : ω) :
    Except CommandError Unit × command.State × ω :=
  let (state, world) := command.reset state world
  command.feedAll tokens state world

end Command

namespace Dispatcher

/-- Registers a command that has not seen a line yet. -/
def register (dispatcher : Dispatcher ω) (name : String) (command : Command ω) :
    Except DuplicateCommand (Dispatcher ω) :=
  if dispatcher.commands.any (·.name == name) then .error ⟨name⟩
  else .ok { commands := dispatcher.commands ++ [{ name, command, state := command.fresh }] }

/-- Registers commands in order, up to the first whose name is taken. -/
def registerAll (dispatcher : Dispatcher ω) : List (String × Command ω) →
    Except DuplicateCommand Unit × Dispatcher ω
  | [] => (.ok (), dispatcher)
  | (name, command) :: rest =>
    match dispatcher.register name command with
    | .ok dispatcher => dispatcher.registerAll rest
    | .error error => (.error error, dispatcher)

/-- The names of the commands in order. -/
def names (dispatcher : Dispatcher ω) : List String :=
  (dispatcher.commands.map (·.name)).mergeSort Text.notAfter

/-- Has the first command of a name carry out a line. There is no result if there is none. -/
def runNamed? (name : String) (tokens : List Token) (world : ω) :
    List (RegisteredCommand ω) →
      Option (Except CommandError Unit × List (RegisteredCommand ω) × ω)
  | [] => none
  | entry :: entries =>
    if entry.name = name then
      let (result, state, world) := entry.command.runLine tokens entry.state world
      some (result, { entry with state } :: entries, world)
    else
      (runNamed? name tokens world entries).map fun (result, entries, world) =>
        (result, entry :: entries, world)

/-- Carries out a command line. Nothing is done for a blank one. -/
def dispatch (dispatcher : Dispatcher ω) (line : String) (world : ω) :
    Except DispatchError Unit × Dispatcher ω × ω :=
  match Token.ofLine line with
  | [] | .endOfLine :: _ => (.ok (), dispatcher, world)
  | .word name :: tokens =>
    match runNamed? name tokens world dispatcher.commands with
    | some (result, commands, world) => (result.mapError .command, { commands }, world)
    | none => (.error (.notFound name), dispatcher, world)
  | token :: _ => (.error (.notACommand token.display), dispatcher, world)

end Dispatcher

end Jukebox
