import Jukebox.Text.Integer
import Jukebox.Text.LetterCase
import Jukebox.Text.Split

/-
# Styles

How a piece of text looks: a foreground, a background and a set of attributes. A style may leave
colors open; laid over another style it changes only what it names. Styles are written as words,
each of which is the name of an attribute or of a color, a palette index or six hexadecimal digits.
-/

namespace Jukebox

/-- The colors of a terminal. -/
inductive Color where
  | reset
  | black | red | green | yellow | blue | magenta | cyan | gray
  | darkGray | lightRed | lightGreen | lightYellow | lightBlue | lightMagenta | lightCyan | white
  /-- A place in the palette of the terminal. -/
  | indexed (index : Nat)
  | rgb (red green blue : Nat)
deriving DecidableEq, Repr

/-- A single attribute of text. -/
inductive Attribute where
  | bold | dim | italic | underline | blink | reverse | strikethrough
deriving DecidableEq, Repr

/-- A set of attributes. -/
structure Attributes where
  bold : Bool := false
  dim : Bool := false
  italic : Bool := false
  underline : Bool := false
  blink : Bool := false
  reverse : Bool := false
  strikethrough : Bool := false
deriving DecidableEq, Repr

namespace Attributes

/-- The attributes of either set. -/
def union (a b : Attributes) : Attributes :=
  { bold := a.bold || b.bold, dim := a.dim || b.dim, italic := a.italic || b.italic,
    underline := a.underline || b.underline, blink := a.blink || b.blink,
    reverse := a.reverse || b.reverse, strikethrough := a.strikethrough || b.strikethrough }

/-- The set with one more attribute. -/
def insert (set : Attributes) : Attribute → Attributes
  | .bold => { set with bold := true }
  | .dim => { set with dim := true }
  | .italic => { set with italic := true }
  | .underline => { set with underline := true }
  | .blink => { set with blink := true }
  | .reverse => { set with reverse := true }
  | .strikethrough => { set with strikethrough := true }

/-- Whether an attribute is in the set. -/
def contains (set : Attributes) : Attribute → Bool
  | .bold => set.bold
  | .dim => set.dim
  | .italic => set.italic
  | .underline => set.underline
  | .blink => set.blink
  | .reverse => set.reverse
  | .strikethrough => set.strikethrough

end Attributes

/-- How a piece of text looks. -/
structure Style where
  foreground : Option Color := none
  background : Option Color := none
  attributes : Attributes := {}
deriving DecidableEq, Repr, Inhabited

/-- The style with another one laid over it. -/
def Style.patch (lower upper : Style) : Style :=
  { foreground := upper.foreground.or lower.foreground
    background := upper.background.or lower.background
    attributes := lower.attributes.union upper.attributes }

namespace Attribute

/-- The names of the attributes, in the order in which they are listed. -/
def names : List (String × Attribute) :=
  [("bold", .bold), ("dim", .dim), ("italic", .italic), ("underline", .underline),
   ("blink", .blink), ("reverse", .reverse), ("strikethrough", .strikethrough)]

/-- The attribute called by a word, in whatever case it is written. -/
def ofWord? (word : String) : Option Attribute :=
  names.lookup (Text.lowercase word)

end Attribute

namespace Color

open Text

/-- The names of the colors in small letters. The plain names of the primary colors mean the light
ones, of which each has a dark companion. -/
def names : List (String × Color) :=
  [("default", .reset), ("black", .black),
   ("maroon", .red), ("darkred", .red), ("red", .lightRed),
   ("darkgreen", .green), ("green", .lightGreen),
   ("olive", .yellow), ("darkyellow", .yellow), ("yellow", .lightYellow),
   ("navy", .blue), ("darkblue", .blue), ("blue", .lightBlue),
   ("purple", .magenta), ("darkmagenta", .magenta),
   ("magenta", .lightMagenta), ("fuchsia", .lightMagenta),
   ("teal", .cyan), ("darkcyan", .cyan), ("cyan", .lightCyan), ("aqua", .lightCyan),
   ("silver", .gray), ("gray", .gray), ("grey", .gray),
   ("darkgray", .darkGray), ("darkgrey", .darkGray), ("white", .white)]

/-- Reads `colorN` as a place in the palette and a number sign with six digits as the amounts of
red, green and blue. -/
def ofNumber? (word : String) : Option Color :=
  match afterStart? word "color" with
  | some index => (readNat? maxByte index).map .indexed
  | none =>
    match word.toList with
    | ['#', r₁, r₀, g₁, g₀, b₁, b₀] => do
      let red ← readHexPair? r₁ r₀
      let green ← readHexPair? g₁ g₀
      let blue ← readHexPair? b₁ b₀
      return .rgb red green blue
    | _ => none

/-- The color called by a word, in whatever case it is written. -/
def ofWord? (word : String) : Option Color :=
  let word := lowercase word
  match names.lookup word with
  | some color => some color
  | none => ofNumber? word

end Color

/-- Lays a word over a style: an attribute is added to it, the first color is the foreground and any
later one the background. Words that mean nothing change nothing. -/
def Style.addWord (style : Style) (word : String) : Style :=
  match Attribute.ofWord? word, Color.ofWord? word with
  | some found, _ => { style with attributes := style.attributes.insert found }
  | none, some color =>
    if style.foreground.isNone then { style with foreground := some color }
    else { style with background := some color }
  | none, none => style

/-- Styles by name. -/
structure Stylesheet where
  entries : List (String × Style) := []
deriving DecidableEq, Repr

namespace Stylesheet

/-- Sets what a name looks like. -/
def set (sheet : Stylesheet) (name : String) (style : Style) : Stylesheet :=
  { entries := (name, style) :: sheet.entries.filter (·.1 ≠ name) }

/-- What a name looks like. A name without a style leaves everything open. -/
def get (sheet : Stylesheet) (name : String) : Style :=
  (sheet.entries.lookup name).getD {}

/-- Whether a name has a style. -/
def contains (sheet : Stylesheet) (name : String) : Bool :=
  (sheet.entries.lookup name).isSome

@[simp] theorem get_set_self (sheet : Stylesheet) (name : String) (style : Style) :
    (sheet.set name style).get name = style := by
  simp [set, get]

end Stylesheet

end Jukebox
