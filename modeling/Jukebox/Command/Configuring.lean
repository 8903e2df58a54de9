import Jukebox.Command
import Jukebox.Key.Sequence
import Jukebox.Session
import Jukebox.Text.Split

/-
# Commands that configure

`set` changes settings: several assignments may share a line, all of them are checked while they are
read, and none takes effect unless all are in order. `style` says what a name looks like, `bind` and
`unbind` change key bindings.
-/

namespace Jukebox.Command

open Text

variable {σ : Type}

/-- The assignments of a line so far, and a setting that still waits for its value. -/
structure Assignments where
  list : List (String × SettingValue) := []
  waiting : Option (String × SettingKind) := none
deriving DecidableEq, Repr

/-- The value of a kind that a text means; switches are on or off in several words. -/
def settingValue (name : String) (kind : SettingKind) (text : String) :
    Except CommandError SettingValue :=
  match kind with
  | .text => .ok (.text text)
  | .switch =>
    let word := lowercase text
    if ["true", "yes", "on", "1"].contains word then .ok (.switch true)
    else if ["false", "no", "off", "0"].contains word then .ok (.switch false)
    else .error (.argument
      ("Invalid value '" ++ text ++ "' for boolean option '" ++ name ++ "'"))

/-- What a switch will be once the assignments so far have taken effect. -/
def Assignments.switchValue (assigned : Assignments) (settings : Settings) (name : String) :
    Except SettingError Bool :=
  match assigned.list.reverse.find? fun entry => sameIgnoringAsciiCase entry.1 name with
  | some (_, .switch on) => .ok on
  | _ => settings.switchValue name

/-- The assignments with one more. -/
def Assignments.add (assigned : Assignments) (name : String) (value : SettingValue) :
    Assignments :=
  { assigned with list := assigned.list ++ [(name, value)] }

/-- The setting that a word without a value is about, and what it switches it to. A word that begins
with `no` and is no setting itself switches off the setting named by the rest. -/
def switchWord (settings : Settings) (word : String) : String × Bool :=
  match afterStart? word "no" with
  | some name =>
    if !settings.isRegistered word && settings.isRegistered name then (name, false)
    else (word, true)
  | none => (word, true)

/-- Reads one word: `name=value`, `name=` before a value of its own, `name!`, `name` or `noname`. -/
def Assignments.readWord (assigned : Assignments) (settings : Settings) (word : String) :
    Except CommandError Assignments :=
  match splitOnce word "=" with
  | some (name, value) => do
    let kind ← (settings.kind name).mapError .setting
    if value = "" then return { assigned with waiting := some (name, kind) }
    else return assigned.add name (← settingValue name kind value)
  | none =>
    match beforeEnd? word "!" with
    | some name => do
      let on ← (assigned.switchValue settings name).mapError .setting
      return assigned.add name (.switch !on)
    | none => do
      let (name, on) := switchWord settings word
      match ← (settings.kind name).mapError .setting with
      | .switch => return assigned.add name (.switch on)
      | .text => throw (.setting (.wrongKind name .text))

/-- Gives the setting that waits for a value the text. -/
def Assignments.supply (assigned : Assignments) (name : String) (kind : SettingKind)
    (text : String) : Except CommandError Assignments :=
  (settingValue name kind text).map fun value => { assigned with waiting := none }.add name value

/-- Reads assignments. A value may be a token of its own, or missing at the end of the line. -/
def assignments : Reader (Session σ) (List (String × SettingValue)) where
  State := Assignments
  start := {}
  read session assigned token :=
    match assigned.waiting, token with
    | some _, .stray text => .error (.unexpected (.stray text) "a value")
    | some (name, kind), token => assigned.supply name kind token.text
    | none, .word word => assigned.readWord session.settings word
    | none, token => .error (.unexpected token "an option")
  result assigned := do
    let assigned ← match assigned.waiting with
      | some (name, kind) => assigned.supply name kind ""
      | none => .ok assigned
    if assigned.list.isEmpty then throw (.unexpected .endOfLine "an option")
    return assigned.list

/-- Carries out assignments from left to right, up to the first that fails. -/
def assignAll : List (String × SettingValue) → Settings → Except SettingError Unit × Settings
  | [], settings => (.ok (), settings)
  | (name, value) :: rest, settings =>
    match settings.set name value with
    | .ok settings => assignAll rest settings
    | .error error => (.error error, settings)

/-- Changes settings. -/
def assign : Command (Session σ) :=
  simple assignments fun assigned => ExceptT.mk fun session =>
    let (result, settings) := assignAll assigned session.settings
    (result.mapError .setting, { session with settings })

/-- A style that is being described. -/
structure StyleWords where
  name : Option String := none
  colors : List Color := []
  attributes : Attributes := {}
deriving DecidableEq, Repr

/-- Takes in an attribute or one of at most two colors. -/
def StyleWords.addWord (words : StyleWords) (word : String) : Except CommandError StyleWords :=
  match Attribute.ofWord? word, Color.ofWord? word with
  | some found, _ => .ok { words with attributes := words.attributes.insert found }
  | none, some color =>
    if words.colors.length = 2 then
      .error (.argument ("Too many colors for style '" ++ words.name.getD "" ++ "'"))
    else .ok { words with colors := words.colors ++ [color] }
  | none, none => .error (.argument ("Unknown color or attribute '" ++ word ++ "'"))

/-- The style that was described; the first color is the foreground, the second the background. -/
def StyleWords.style (words : StyleWords) : Style :=
  { foreground := words.colors[0]?, background := words.colors[1]?,
    attributes := words.attributes }

/-- Reads a name and the description of a style. -/
def styleWords : Reader (Session σ) (String × Style) where
  State := StyleWords
  start := {}
  read _ words token :=
    match token with
    | .word word =>
      if words.name.isNone then .ok { words with name := some (lowercase word) }
      else words.addWord word
    | token => .error (.unexpected token "a color or attribute")
  result words :=
    match words.name with
    | some name => .ok (name, words.style)
    | none => .error (.unexpected .endOfLine "a style name")

/-- Says what a name looks like. -/
def restyle : Command (Session σ) :=
  simple styleWords fun (name, style) =>
    modify fun session => { session with styles := session.styles.set name style }

/-- The key sequence that a token means. -/
def keySequence : Token → Except CommandError (List Key)
  | .word text | .quoted text =>
    match Key.readSequence? text with
    | some keys => .ok keys
    | none => .error (.argument Key.emptySequence)
  | token => .error (.unexpected token "a key sequence")

/-- A binding that is being read. -/
structure BindingWords where
  keys : Option (List Key) := none
  words : List String := []
deriving DecidableEq, Repr

/-- Reads a key sequence and a command line. The command line is kept in a form that has the same
tokens. -/
def bindingWords : Reader (Session σ) (List Key × String) where
  State := BindingWords
  start := {}
  read _ binding token :=
    match binding.keys, token with
    | none, token => (keySequence token).map fun keys => { binding with keys := some keys }
    | some _, .stray text => .error (.unexpected (.stray text) "a command")
    | some _, token => .ok { binding with words := binding.words ++ [token.source] }
  result binding :=
    match binding.keys with
    | none => .error (.unexpected .endOfLine "a key sequence")
    | some keys =>
      if binding.words.isEmpty then .error (.unexpected .endOfLine "a command")
      else .ok (keys, String.intercalate " " binding.words)

/-- Binds a key sequence. -/
def bindKeys : Command (Session σ) :=
  simple bindingWords fun (keys, line) =>
    modify fun session => { session with keymap := session.keymap.insert keys line }

/-- Reads a key sequence. -/
def sequenceWord : Reader (Session σ) (List Key) where
  State := Option (List Key)
  start := none
  read
    | _, none, token => (keySequence token).map some
    | _, some _, token => .error (.unexpected token "END")
  result
    | some keys => .ok keys
    | none => .error (.unexpected .endOfLine "a key sequence")

/-- Takes the binding of a key sequence away. -/
def unbindKeys : Command (Session σ) :=
  simple sequenceWord fun keys => do
    let session ← get
    if (session.keymap.get? keys).isNone then
      throw (.failed ("No binding for '" ++ Key.displaySequence keys ++ "'"))
    set { session with keymap := session.keymap.erase keys }

end Jukebox.Command
