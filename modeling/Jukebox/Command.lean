import Jukebox.Setting
import Jukebox.Playback
import Jukebox.Token

/-
# Commands

A command takes in a command line one token at a time, up to and including the end of the line, and
gives up at the first token it has no use for. It acts on a state that it shares with other commands
and keeps a state of its own from line to line, part of which is set back before each line.

The commands of the client are made of a reader and an action. A reader only collects arguments: it
may look at the shared state but has no means to change it. The action is carried out when the line
is complete.
-/

namespace Jukebox

/-- Why a command fails. -/
inductive CommandError where
  /-- The line is not in the form that the command expects. -/
  | argument (message : String)
  /-- The line is in good form but cannot be carried out. -/
  | failed (message : String)
  | setting (error : SettingError)
  /-- The playback service fails. -/
  | playback (error : PlaybackError)
  /-- A sum does not fit a machine word. This the program does not survive. -/
  | overflow
deriving DecidableEq, Repr

namespace CommandError

/-- The error as it is shown. -/
def message : CommandError → String
  | argument message | failed message => message
  | setting error => error.message
  | playback error => error.message
  | overflow => "attempt to add with overflow"

/-- Whether the program ends on the spot. -/
def endsProgram : CommandError → Bool
  | overflow => true
  | argument _ | failed _ | setting _ | playback _ => false

/-- The complaint about a token where something else was expected. -/
def unexpected (token : Token) (expected : String) : CommandError :=
  match token with
  | .endOfLine => argument ("Unexpected END, expected " ++ expected)
  | token => argument ("Unknown input '" ++ token.display ++ "', expected " ++ expected)

/-- A failure of the playback service during an action. Only when there is no service the message
names the action. -/
def ofPlayback (action : String) : PlaybackError → CommandError
  | .notConnected => failed ("Cannot " ++ action ++ ": " ++ PlaybackError.notConnected.message)
  | error => playback error

end CommandError

/-- Something that is done to a state of type `ω` and may fail, in which case what was done before
stays done. -/
abbrev Act (ω : Type) := ExceptT CommandError (StateM ω)

/-- A command that acts on a state of type `ω`. -/
structure Command (ω : Type) where
  /-- What the command remembers. -/
  State : Type
  /-- What it remembers at first. -/
  fresh : State
  /-- Prepares for a new line. -/
  reset : State → ω → State × ω
  /-- Takes in one token. -/
  feed : Token → State → ω → Except CommandError Unit × State × ω

/-- Collects the arguments of a line into a value of type `α`, with a look at a state of type `ω`. -/
structure Reader (ω α : Type) where
  /-- What is known of the arguments so far. -/
  State : Type
  start : State
  /-- Takes in a token other than the end of the line. -/
  read : ω → State → Token → Except CommandError State
  /-- Concludes at the end of the line. -/
  result : State → Except CommandError α

/-- What a command made of a reader and an action remembers: the arguments so far, and a memory that
outlives the line. -/
structure Remembered (arguments memory : Type) where
  arguments : arguments
  memory : memory

namespace Command

variable {ω α μ : Type}

/-- The command that collects arguments and then acts on them. The action alone may change the
shared state, and the memory that is kept from line to line. -/
def ofReader (reader : Reader ω α) (memory : μ) (act : α → Act (μ × ω) Unit) : Command ω where
  State := Remembered reader.State μ
  fresh := ⟨reader.start, memory⟩
  reset state world := ({ state with arguments := reader.start }, world)
  feed
    | .endOfLine, state, world =>
      match reader.result state.arguments with
      | .error error => (.error error, state, world)
      | .ok arguments =>
        let (result, memory, world) := (act arguments).run.run (state.memory, world)
        (result, { state with memory }, world)
    | token, state, world =>
      match reader.read world state.arguments token with
      | .error error => (.error error, state, world)
      | .ok arguments => (.ok (), { state with arguments }, world)

/-- Lets an action pass by a memory. -/
def besideMemory (act : Act ω α) : Act (μ × ω) α := ExceptT.mk fun (memory, world) =>
  let (result, world) := act.run.run world
  (result, memory, world)

/-- The command that collects arguments, acts on them and remembers nothing. -/
def simple (reader : Reader ω α) (act : α → Act ω Unit) : Command ω :=
  ofReader reader () fun arguments => besideMemory (act arguments)

/-- The command that notes down what it is given, and fails at the text `fail`. -/
def recorder (name : String) : Command (List String) where
  State := Unit
  fresh := ()
  reset _ notes := ((), notes ++ [name ++ " reset"])
  feed token _ notes :=
    let kind := match token with
      | .word _ => "Identifier"
      | .quoted _ => "QuotedString"
      | .stray _ => "Unknown"
      | .endOfLine => "End"
    let result := if token.text = "fail" then .error (.argument "recorder failed") else .ok ()
    (result, (), notes ++ [name ++ " " ++ kind ++ " " ++ token.display])

end Command

namespace Reader

variable {ω α β : Type}

/-- Reads the same arguments, and makes more of them at the end of the line. -/
def andThen (reader : Reader ω α) (f : α → Except CommandError β) : Reader ω β where
  State := reader.State
  start := reader.start
  read := reader.read
  result state := (reader.result state).bind f

/-- Expects the end of the line at once. -/
def nothing : Reader ω Unit where
  State := Unit
  start := ()
  read _ _ token := .error (.unexpected token "END")
  result _ := .ok ()

/-- Expects at most one word. -/
def optionalWord (parse : Token → Except CommandError α) : Reader ω (Option α) where
  State := Option α
  start := none
  read
    | _, none, .word text => (parse (.word text)).map some
    | _, _, token => .error (.unexpected token "END")
  result state := .ok state

/-- Expects exactly one word. -/
def oneWord (expected : String) (parse : Token → Except CommandError α) : Reader ω α :=
  (optionalWord parse).andThen fun
    | some value => .ok value
    | none => .error (.unexpected .endOfLine expected)

/-- Expects any number of words and quoted texts. -/
def texts (expected : String) : Reader ω (List String) where
  State := List String
  start := []
  read
    | _, texts, .word text | _, texts, .quoted text => .ok (texts ++ [text])
    | _, _, token => .error (.unexpected token expected)
  result texts := .ok texts

/-- Expects any number of names of tags. -/
def tags : Reader ω (List String) :=
  (texts "a tag name").andThen fun names => .ok (names.map Text.lowercase)

/-- Expects at least one name of a tag. -/
def someTags : Reader ω (List String) :=
  tags.andThen fun names =>
    if names.isEmpty then .error (.unexpected .endOfLine "a tag name") else .ok names

end Reader

end Jukebox
