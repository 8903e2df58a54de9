import Jukebox.Text.Blank
import Jukebox.Text.LetterCase
import Jukebox.Text.Split

/-
# Settings

A setting is declared once, with a first value, and keeps the kind of that value for ever: it is
either a switch or a text. Names are compared in small letters. To read or write a setting that was
not declared, or to take it for the other kind, is an error.
-/

namespace Jukebox

/-- The two sorts of settings. -/
inductive SettingKind where
  | switch | text
deriving DecidableEq, Repr

/-- The kind as complaints name it. -/
def SettingKind.display : SettingKind → String
  | switch => "boolean"
  | text => "string"

/-- The value of a setting. -/
inductive SettingValue where
  | switch (on : Bool)
  | text (value : String)
deriving DecidableEq, Repr

namespace SettingValue

/-- The kind a value belongs to. -/
def kind : SettingValue → SettingKind
  | switch _ => .switch
  | text _ => .text

/-- The value in writing. -/
def display : SettingValue → String
  | switch on => if on then "true" else "false"
  | text value => value

end SettingValue

/-- Why a setting cannot be used. -/
inductive SettingError where
  | unregistered (name : String)
  | alreadyRegistered (name : String)
  /-- The setting is of the kind given here, which is not the one it was taken for. -/
  | wrongKind (name : String) (actual : SettingKind)
deriving DecidableEq, Repr

/-- The error as it is shown. -/
def SettingError.message : SettingError → String
  | unregistered name => "No such option: " ++ name
  | alreadyRegistered name => "Option '" ++ name ++ "' is already registered"
  | wrongKind name actual => "Option '" ++ name ++ "' is a " ++ actual.display ++ " option"

/-- The declared settings by their names in small letters, each name at most once. -/
structure Settings where
  entries : List (String × SettingValue) := []
deriving DecidableEq, Repr

namespace Settings

open Text

/-- The value of a setting, if it is declared. -/
def find? (s : Settings) (name : String) : Option SettingValue :=
  s.entries.lookup (lowercase name)

/-- Whether a setting is declared. -/
def isRegistered (s : Settings) (name : String) : Bool := (s.find? name).isSome

/-- Declares a setting. -/
def register (s : Settings) (name : String) (value : SettingValue) :
    Except SettingError Settings :=
  let key := lowercase name
  if s.isRegistered name then .error (.alreadyRegistered key)
  else .ok { entries := s.entries ++ [(key, value)] }

/-- The settings that everything else relies on. -/
def initial : Settings :=
  { entries := [("center", .switch false), ("columns", .text ""), ("sort", .text ""),
      ("topbar", .text "")] }

/-- The value of a declared setting. -/
def get (s : Settings) (name : String) : Except SettingError SettingValue :=
  match s.find? name with
  | some value => .ok value
  | none => .error (.unregistered name)

/-- The kind of a declared setting. -/
def kind (s : Settings) (name : String) : Except SettingError SettingKind :=
  (s.get name).map (·.kind)

/-- Gives a declared setting another value of its kind. -/
def set (s : Settings) (name : String) (value : SettingValue) : Except SettingError Settings :=
  match s.find? name with
  | none => .error (.unregistered name)
  | some old =>
    if old.kind = value.kind then
      .ok { entries := s.entries.map fun entry =>
        if entry.1 = lowercase name then (entry.1, value) else entry }
    else .error (.wrongKind name old.kind)

/-- The value of a switch. -/
def switchValue (s : Settings) (name : String) : Except SettingError Bool := do
  match ← s.get name with
  | .switch on => .ok on
  | .text _ => .error (.wrongKind name .text)

/-- The value of a text setting. -/
def textValue (s : Settings) (name : String) : Except SettingError String := do
  match ← s.get name with
  | .text value => .ok value
  | .switch _ => .error (.wrongKind name .switch)

/-- The parts of a text between commas, without the blanks around them; empty parts are left out. -/
def commaList (text : String) : List String :=
  ((splitChars ',' text.toList).map fun part => trim (String.ofList part)).filter (· ≠ "")

/-- The parts of a text setting that holds a comma list. -/
def listValue (s : Settings) (name : String) : Except SettingError (List String) :=
  (s.textValue name).map commaList

theorem lookup_replace (entries : List (String × SettingValue)) (key other : String)
    (value : SettingValue) :
    (entries.map fun entry => if entry.1 = key then (entry.1, value) else entry).lookup other =
      (entries.lookup other).map fun old => if other = key then value else old := by
  induction entries with
  | nil => rfl
  | cons entry rest ih =>
    obtain ⟨name, old⟩ := entry
    by_cases hother : other = name
    · subst hother
      by_cases hkey : other = key <;> simp [hkey]
    · have hne : (other == name) = false := by simpa using hother
      by_cases hkey : name = key
      · subst hkey
        simpa [List.lookup_cons, hne] using ih
      · simpa [List.lookup_cons, hne, hkey] using ih

/-- Giving a setting a value changes the settings of that name, and no others. -/
theorem find?_set {s after : Settings} {name : String} {value : SettingValue}
    (h : s.set name value = .ok after) (other : String) :
    after.find? other =
      if lowercase other = lowercase name then some value else s.find? other := by
  unfold set at h
  split at h
  · simp at h
  · next old hold =>
    split at h
    · simp only [Except.ok.injEq] at h
      subst h
      simp only [find?, lookup_replace]
      by_cases hname : lowercase other = lowercase name
      · rw [find?] at hold
        simp [hname, hold]
      · simp [hname]
    · simp at h

end Settings

end Jukebox
