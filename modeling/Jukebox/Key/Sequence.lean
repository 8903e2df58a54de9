import Jukebox.Key
import Jukebox.Text.Integer
import Jukebox.Text.LetterCase

/-
# Key sequences in writing

Bindings are written as runs of characters and bracketed names, `gg` or `<C-x><Up>`. A bracketed
name is a list of modifier letters, each with a dash, before the name of a key or a single
character; a single character needs a modifier, since it could stand without brackets. An opening
bracket that begins no such name stands for itself, so every text but the empty one is a sequence.
-/

namespace Jukebox.Key

open Text

/-- The names that keys can be called by in brackets, in small letters. -/
def namedCodes : List (String × KeyCode) :=
  [("up", .up), ("down", .down), ("left", .left), ("right", .right),
   ("pgup", .pageUp), ("pageup", .pageUp), ("pgdn", .pageDown), ("pagedown", .pageDown),
   ("home", .home), ("end", .bottom),
   ("enter", .enter), ("return", .enter), ("cr", .enter),
   ("space", .char ' '), ("tab", .tab), ("backtab", .backTab),
   ("esc", .escape), ("escape", .escape),
   ("backspace", .backspace), ("bs", .backspace),
   ("delete", .delete), ("del", .delete), ("insert", .insert), ("ins", .insert),
   ("lt", .char '<'), ("gt", .char '>')]

/-- The function key called by the letter f and its number, of which there are twelve. -/
def functionCode? (name : String) : Option KeyCode :=
  match name.toList with
  | 'f' :: number =>
    match readNat? maxByte (String.ofList number) with
    | some n => if 1 ≤ n ∧ n ≤ 12 then some (.function n) else none
    | none => none
  | _ => none

/-- The key code called by a name, in whatever case the name is written. -/
def codeNamed? (name : String) : Option KeyCode :=
  let name := lowercase name
  match namedCodes.lookup name with
  | some code => some code
  | none => functionCode? name

/-- Adds the modifier that a letter stands for. -/
def addModifier? (letter : Char) (modifiers : Modifiers) : Option Modifiers :=
  match letter.toUpper with
  | 'C' => some { modifiers with control := true }
  | 'A' | 'M' => some { modifiers with alt := true }
  | 'S' => some { modifiers with shift := true }
  | _ => none

/-- Takes the modifier letters off the inside of brackets. A letter with a dash is one of them only
if something follows; a letter that means no modifier spoils the whole name. -/
def readModifiers? (modifiers : Modifiers) : List Char → Option (Modifiers × List Char)
  | letter :: '-' :: c :: rest =>
    match addModifier? letter modifiers with
    | some modifiers => readModifiers? modifiers (c :: rest)
    | none => none
  | name => some (modifiers, name)

/-- The key that the inside of brackets names. -/
def named? (inside : List Char) : Option Key :=
  match readModifiers? {} inside with
  | none => none
  | some (modifiers, [c]) =>
    if modifiers = {} then none else some (ofCode (.char c) modifiers)
  | some (modifiers, name) =>
    (codeNamed? (String.ofList name)).map (ofCode · modifiers)

/-- A bracketed name at the start of a text, given without its opening bracket, and what follows
its closing one. -/
def bracketed? (text : List Char) : Option (Key × List Char) :=
  match text.dropWhile (· ≠ '>') with
  | _ :: rest => (named? (text.takeWhile (· ≠ '>'))).map fun key => (key, rest)
  | [] => none

theorem length_lt_of_bracketed? {text rest : List Char} {key : Key}
    (h : bracketed? text = some (key, rest)) : rest.length < text.length := by
  unfold bracketed? at h
  have hdrop := (List.dropWhile_sublist (· ≠ '>') (l := text)).length_le
  split at h
  · next c tail htail =>
    rw [htail, List.length_cons] at hdrop
    obtain ⟨_, _, heq⟩ := Option.map_eq_some_iff.1 h
    have : rest = tail := (Prod.mk.inj heq).2.symm
    subst this
    omega
  · simp at h

/-- The keys that a text stands for, one by one. -/
def readKeys : List Char → List Key
  | [] => []
  | '<' :: rest =>
    match _h : bracketed? rest with
    | some (key, after) => key :: readKeys after
    | none => ofChar '<' :: readKeys rest
  | c :: rest => ofChar c :: readKeys rest
termination_by text => text.length
decreasing_by
  · have := length_lt_of_bracketed? (by assumption)
    simp only [List.length_cons]
    omega
  · simp
  · simp

/-- The keys that a text stands for; only the empty text stands for none. -/
def readSequence? (text : String) : Option (List Key) :=
  match readKeys text.toList with
  | [] => none
  | keys => some keys

/-- The complaint about the empty text. -/
def emptySequence : String := "Empty key sequence"

/-- The name that a key code is written by, unless it is a character that can stand for itself. -/
def codeName? : KeyCode → Option String
  | .char ' ' => some "Space"
  | .char '<' => some "lt"
  | .char _ => none
  | .function number => some ("F" ++ toString number)
  | .up => some "Up"
  | .down => some "Down"
  | .left => some "Left"
  | .right => some "Right"
  | .pageUp => some "PgUp"
  | .pageDown => some "PgDn"
  | .home => some "Home"
  | .bottom => some "End"
  | .enter => some "Enter"
  | .tab => some "Tab"
  | .backTab => some "BackTab"
  | .escape => some "Esc"
  | .backspace => some "Backspace"
  | .delete => some "Delete"
  | .insert => some "Insert"
  | .null | .capsLock | .menu => some "?"

/-- What stands between the brackets after the modifiers. -/
def label (code : KeyCode) : List Char :=
  match codeName? code, code with
  | some name, _ => name.toList
  | none, .char c => [c]
  | none, _ => ['?']

/-- A key in writing, as characters. -/
def spell (key : Key) : List Char :=
  match key.code, codeName? key.code, key.control || key.alt || key.shift with
  | .char c, none, false => [c]
  | code, _, _ =>
    '<' :: ((if key.control then ['C', '-'] else []) ++ (if key.alt then ['A', '-'] else []) ++
      (if key.shift then ['S', '-'] else []) ++ label code ++ ['>'])

/-- A key in writing. -/
def display (key : Key) : String := String.ofList key.spell

/-- A key sequence in writing. -/
def displaySequence (keys : List Key) : String :=
  String.ofList (keys.flatMap spell)

end Jukebox.Key
