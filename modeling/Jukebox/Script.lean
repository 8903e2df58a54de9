import Jukebox.Dispatcher
import Jukebox.Playback
import Jukebox.Text.Blank
import Jukebox.Text.Utf8

/-
# Scripts

A script is a text of command lines that are carried out in order. Blank lines and lines that begin
with a number sign are passed over. A line that fails does not keep the others from being carried
out; what failed is reported with the number of its line.
-/

namespace Jukebox

/-- A line of a script that failed. -/
structure ScriptError where
  /-- The number of the line, counted from one. -/
  line : Nat
  error : DispatchError
deriving DecidableEq, Repr

/-- The error as it is shown. -/
def ScriptError.message (error : ScriptError) : String :=
  "line " ++ toString error.line ++ ": " ++ error.error.message

namespace Script

variable {ω : Type}

/-- Whether a line is to be carried out. -/
def isCommand (line : String) : Bool :=
  line ≠ "" && (Text.afterStart? line "#").isNone

/-- The command lines of a script, without the blanks around them, with their numbers. -/
def commandLines (script : String) : List (Nat × String) :=
  let lines := (Text.lines script).map Text.trim
  (List.zip (List.range' 1 lines.length) lines).filter fun (_, line) => isCommand line

/-- Carries out numbered lines and gives those that failed. -/
def runLines : List (Nat × String) → Dispatcher ω → ω → List ScriptError × Dispatcher ω × ω
  | [], dispatcher, world => ([], dispatcher, world)
  | (number, line) :: lines, dispatcher, world =>
    let (result, dispatcher, world) := dispatcher.dispatch line world
    let (errors, dispatcher, world) := runLines lines dispatcher world
    match result with
    | .ok () => (errors, dispatcher, world)
    | .error error => (⟨number, error⟩ :: errors, dispatcher, world)

/-- Carries out a script and gives the lines that failed. -/
def run (script : String) (dispatcher : Dispatcher ω) (world : ω) :
    List ScriptError × Dispatcher ω × ω :=
  runLines (commandLines script) dispatcher world

/-- Carries out lines up to the first that fails. -/
def runStrictly : List String → Dispatcher ω → ω →
    Except DispatchError Unit × Dispatcher ω × ω
  | [], dispatcher, world => (.ok (), dispatcher, world)
  | line :: lines, dispatcher, world =>
    match dispatcher.dispatch line world with
    | (.ok (), dispatcher, world) => runStrictly lines dispatcher world
    | failure => failure

/-- Why the bytes of a file are not a script. -/
def noText : String := "stream did not contain valid UTF-8"

/-- Carries out the script that is in a file, if there is one. The result is an error if the bytes of
the file are no text. -/
def runFile (content : Option (List UInt8)) (dispatcher : Dispatcher ω) (world : ω) :
    Except String (List ScriptError) × Dispatcher ω × ω :=
  match content with
  | none => (.ok [], dispatcher, world)
  | some bytes =>
    match Text.decodeUtf8 bytes with
    | .error _ => (.error noText, dispatcher, world)
    | .ok script =>
      let (errors, dispatcher, world) := run script dispatcher world
      (.ok errors, dispatcher, world)

end Script

end Jukebox
