/-
# Keys

A key is what bindings are made of: a key code with the modifiers control, alt and shift. The same
key can be reported in several ways, so a report is brought into one form first. Shift is dropped
from characters, because the character itself already shows it, and a character pressed with
control is taken in small ASCII letters.
-/

namespace Jukebox

/-- What is printed on a key. -/
inductive KeyCode where
  | char (c : Char)
  | function (number : Nat)
  | up | down | left | right
  | pageUp | pageDown | home | bottom
  | enter | tab | backTab | escape
  | backspace | delete | insert
  | null | capsLock | menu
deriving DecidableEq, Repr

/-- The modifier keys held down. -/
structure Modifiers where
  control : Bool := false
  alt : Bool := false
  shift : Bool := false
  super : Bool := false
deriving DecidableEq, Repr

/-- Whether a key went down, came up or is held. -/
inductive KeyMotion where
  | press | release | repeated
deriving DecidableEq, Repr

/-- A report of the keyboard. -/
structure KeyEvent where
  code : KeyCode
  modifiers : Modifiers := {}
  motion : KeyMotion := .press
deriving DecidableEq, Repr

/-- A key in the form in which bindings name it. -/
structure Key where
  code : KeyCode
  control : Bool := false
  alt : Bool := false
  shift : Bool := false
deriving DecidableEq, Repr

namespace Key

/-- The one form of a key pressed with the given modifiers. -/
def ofCode (code : KeyCode) (modifiers : Modifiers) : Key :=
  match code with
  | .char c =>
    { code := .char (if modifiers.control then c.toLower else c)
      control := modifiers.control, alt := modifiers.alt }
  | code => { code, control := modifiers.control, alt := modifiers.alt, shift := modifiers.shift }

/-- The key that a report of the keyboard is about. -/
def ofEvent (event : KeyEvent) : Key := ofCode event.code event.modifiers

/-- A character pressed without modifiers. -/
def ofChar (c : Char) : Key := ofCode (.char c) {}

/-- The modifiers of a key. -/
def modifiers (key : Key) : Modifiers :=
  { control := key.control, alt := key.alt, shift := key.shift }

/-- The report of a key that goes down. -/
def event (key : Key) : KeyEvent := { code := key.code, modifiers := key.modifiers }

/-- Whether a key is in the form that reports are brought into. -/
def IsNormal (key : Key) : Prop := ofCode key.code key.modifiers = key

instance (key : Key) : Decidable key.IsNormal :=
  inferInstanceAs (Decidable (_ = _))

theorem toLower_toLower (c : Char) : c.toLower.toLower = c.toLower := by
  delta Char.toLower
  split
  · next h =>
    split
    · next h' =>
      exfalso
      simp only [UInt32.le_iff_toNat_le] at h h'
      simp only [UInt32.toNat_add] at h'
      simp only [show ('A'.val).toNat = 65 from rfl, show ('Z'.val).toNat = 90 from rfl,
        show ('a'.val - 'A'.val).toNat = 32 from rfl] at h h'
      omega
    · rfl
  · rfl

theorem isNormal_ofCode (code : KeyCode) (modifiers : Modifiers) :
    (ofCode code modifiers).IsNormal := by
  cases code <;> simp only [IsNormal, ofCode, Key.modifiers]
  next c =>
    by_cases h : modifiers.control = true
    · simp only [h, if_true, toLower_toLower]
    · simp [h]

end Key

end Jukebox
