import Jukebox.Playback

/-
# What the screen shows besides songs

The input mode with the text being typed, the message on the bottom line, the keys on hold, the last
known status of the player, and two wishes: to quit, and to have the screen drawn anew.
-/

namespace Jukebox

/-- What typed keys are taken for. -/
inductive InputMode where
  /-- Keys run the commands they are bound to. -/
  | normal
  /-- Keys make up a command line. -/
  | input
  /-- Keys make up a search term. -/
  | search
deriving DecidableEq, Repr, Inhabited

/-- A message to the user. -/
inductive Message where
  | info (text : String)
  | error (text : String)
deriving DecidableEq, Repr

/-- What the screen shows besides songs. -/
structure Ui where
  mode : InputMode := .normal
  /-- The text being typed. -/
  input : String := ""
  message : Option Message := none
  /-- The keys on hold, in writing. -/
  heldKeys : String := ""
  status : Status := {}
  quitting : Bool := false
  redraw : Bool := false

namespace Ui

/-- Changes the mode. Nothing is typed yet in the new one. -/
def setMode (ui : Ui) (mode : InputMode) : Ui := { ui with mode, input := "" }

/-- Shows a piece of information. -/
def setInfo (ui : Ui) (text : String) : Ui := { ui with message := some (.info text) }

/-- Shows an error. -/
def setError (ui : Ui) (text : String) : Ui := { ui with message := some (.error text) }

/-- Takes the message away. -/
def clearMessage (ui : Ui) : Ui := { ui with message := none }

end Ui

end Jukebox
