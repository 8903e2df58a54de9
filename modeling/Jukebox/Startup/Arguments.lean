import Jukebox.Keymap.Resolver
import Jukebox.Text.Integer
import Jukebox.Text.Split
import Jukebox.Wire.Client

/-
# Arguments of the program

The program takes options only, each of them at most once. The value of an option is the next
argument, or is attached to the option: with an equals sign to a long name, with or without one to a
short name. What begins with a dash is never the next argument of an option. An option is complete,
and its value is looked at, when the next option or flag begins or the arguments end; a name that does
not exist is reported even before that. Some options that are not given are taken from the
environment.
-/

namespace Jukebox

/-- The variables of the environment. -/
abbrev Environment := String → Option String

/-- The options of the program. -/
inductive ProgramOption where
  | host | port | password | config | keyTimeout
deriving DecidableEq, Repr

/-- What a name after dashes means. -/
inductive Switch where
  | option (option : ProgramOption)
  | help
  | version
deriving DecidableEq, Repr

/-- Why the program does not start. -/
inductive StartupError where
  | unknownArgument
  /-- The value of an option makes no sense. -/
  | badValue
  /-- An option has no value, or an empty one where that means nothing. -/
  | missingValue
  /-- An option is given again. -/
  | repeated
  /-- A flag is given a value. -/
  | unneededValue
  /-- Help is asked for. -/
  | help
  /-- The version is asked for. -/
  | version
deriving DecidableEq, Repr

/-- The values of the options that are given. -/
structure GivenOptions where
  host : Option String := none
  port : Option Nat := none
  password : Option String := none
  config : Option String := none
  keyTimeout : Option Nat := none
deriving DecidableEq, Repr

namespace GivenOptions

open Text

/-- Whether an option is given. -/
def has (given : GivenOptions) : ProgramOption → Bool
  | .host => given.host.isSome
  | .port => given.port.isSome
  | .password => given.password.isSome
  | .config => given.config.isSome
  | .keyTimeout => given.keyTimeout.isSome

/-- The number of a port. -/
def readPort? (value : String) : Option Nat :=
  (readInt? 0 maxPort value).map Int.toNat

/-- Gives an option a value. -/
def give (given : GivenOptions) (option : ProgramOption) (value : String) :
    Except StartupError GivenOptions :=
  match option with
  | .host => .ok { given with host := some value }
  | .password => .ok { given with password := some value }
  | .config =>
    if value = "" then .error .missingValue else .ok { given with config := some value }
  | .port =>
    match readPort? value with
    | some port => .ok { given with port := some port }
    | none => .error .badValue
  | .keyTimeout =>
    match readNat? maxLong value with
    | some timeout => .ok { given with keyTimeout := some timeout }
    | none => .error .badValue

/-- Completes an option on the command line. -/
def complete (given : GivenOptions) (option : ProgramOption) (value : Option String) :
    Except StartupError GivenOptions :=
  match value with
  | none => .error .missingValue
  | some value => if given.has option then .error .repeated else given.give option value

/-- Takes the value of an option from a variable of the environment, unless it is given. -/
def giveFrom (env : Environment) (name : String) (option : ProgramOption)
    (given : GivenOptions) : Except StartupError GivenOptions :=
  match if given.has option then none else env name with
  | some value => given.give option value
  | none => .ok given

end GivenOptions

namespace Arguments

open Text

/-- What a long name means. -/
def longSwitch? : String → Option Switch
  | "host" => some (.option .host)
  | "port" => some (.option .port)
  | "password" => some (.option .password)
  | "config" => some (.option .config)
  | "key-timeout" => some (.option .keyTimeout)
  | "help" => some .help
  | "version" => some .version
  | _ => none

/-- What a short name means. -/
def shortSwitch? : Char → Option Switch
  | 'p' => some (.option .port)
  | 'c' => some (.option .config)
  | 'h' => some .help
  | 'V' => some .version
  | _ => none

/-- The options so far, and one that is not complete: its value is there already or may follow. -/
structure Progress where
  given : GivenOptions := {}
  waiting : Option (ProgramOption × Option String) := none
deriving DecidableEq, Repr

/-- Completes the option that is not complete. -/
def Progress.settle (progress : Progress) : Except StartupError GivenOptions :=
  match progress.waiting with
  | some (option, value) => progress.given.complete option value
  | none => .ok progress.given

/-- Takes in an option, with the value attached to it if there is one, or a flag. -/
def Progress.takeSwitch (progress : Progress) (switch : Switch) (attached : Option String) :
    Except StartupError Progress := do
  let given ← progress.settle
  match switch, attached with
  | .option option, some value => return { given := ← given.complete option (some value) }
  | .option option, none => return { given, waiting := some (option, none) }
  | .help, _ => throw .help
  | .version, _ => throw .version

/-- Takes in an argument that begins with two dashes. -/
def Progress.takeLong (progress : Progress) (text : String) : Except StartupError Progress :=
  let (name, attached) := match splitOnce text "=" with
    | some (name, value) => (name, some value)
    | none => (text, none)
  match longSwitch? name, attached with
  | some (.option option), attached => progress.takeSwitch (.option option) attached
  | some _, some _ => .error .unneededValue
  | some switch, none => progress.takeSwitch switch none
  | none, _ => .error .unknownArgument

/-- The value attached to a short name. -/
def attachedValue : List Char → Option String
  | [] => none
  | '=' :: value => some (String.ofList value)
  | value => some (String.ofList value)

/-- Takes in an argument that begins with one dash. -/
def Progress.takeShort (progress : Progress) (name : Char) (rest : List Char) :
    Except StartupError Progress :=
  match shortSwitch? name with
  | some switch => progress.takeSwitch switch (attachedValue rest)
  | none => .error .unknownArgument

/-- Takes in an argument that is no switch: it can only be the value of an option. -/
def Progress.takeValue (progress : Progress) (value : String) : Except StartupError Progress :=
  match progress.waiting with
  | some (option, none) => .ok { progress with waiting := some (option, some value) }
  | _ => .error .unknownArgument

/-- Takes in one argument. -/
def Progress.take (progress : Progress) (argument : String) : Except StartupError Progress :=
  match argument.toList with
  | '-' :: '-' :: text => progress.takeLong (String.ofList text)
  | '-' :: name :: rest => progress.takeShort name rest
  | _ => progress.takeValue argument

/-- Takes in arguments. After two dashes there can be no options, and nothing else is expected. -/
def Progress.takeAll (progress : Progress) : List String → Except StartupError GivenOptions
  | [] => progress.settle
  | argument :: rest =>
    if argument = "--" then
      if rest.isEmpty then progress.settle else .error .unknownArgument
    else do (← progress.take argument).takeAll rest

end Arguments

/-- How the program is started. -/
structure Startup where
  host : String := "localhost"
  port : Nat := 6600
  password : Option String := none
  /-- The script with the configuration of the user, if one is named. -/
  config : Option String := none
  /-- How long keys are held, in milliseconds. -/
  keyTimeout : Nat := Resolver.defaultTimeout
deriving DecidableEq, Repr

namespace Startup

/-- Reads the arguments of the program, and for some options the environment. -/
def read (arguments : List String) (env : Environment) : Except StartupError Startup := do
  let given ← Arguments.Progress.takeAll {} arguments
  let given ← given.giveFrom env "MPD_HOST" .host
  let given ← given.giveFrom env "MPD_PORT" .port
  let given ← given.giveFrom env "MPD_PASSWORD" .password
  let usual : Startup := {}
  return {
    host := given.host.getD usual.host
    port := given.port.getD usual.port
    password := given.password
    config := given.config
    keyTimeout := given.keyTimeout.getD usual.keyTimeout }

/-- The parts of a text before and after the last occurrence of a character. -/
def splitLast (mark : Char) (text : String) : Option (String × String) :=
  let after := (text.toList.reverse.takeWhile (· ≠ mark)).reverse
  let before := text.toList.take (text.length - after.length)
  match before.getLast? with
  | some _ => some (String.ofList before.dropLast, String.ofList after)
  | none => none

/-- Where the server is. The host may have the password in front of it, with an at sign between
them; a password given on its own counts for more. -/
def server (startup : Startup) : Wire.ServerAddress :=
  match splitLast '@' startup.host with
  | some (password, host) =>
    { host, port := startup.port, password := startup.password.or (some password) }
  | none => { host := startup.host, port := startup.port, password := startup.password }

end Startup

end Jukebox
