import Jukebox.Text.CharWidth
import Jukebox.Text.Emoji

/-
# The width of texts

A text is as wide as its characters together, but for those that are drawn as one: letters that make
a ligature, emojis that are joined to one picture, and characters that the one after them asks to be
drawn as a picture or as text. What is drawn as one is told by its end. So a text is measured from
its end on, with a note of what the part that is measured begins with.
-/

namespace Jukebox.Text

/-- The character that joins the characters around it. -/
def zeroWidthJoiner : Char := '\u200D'

/-- Characters of no width that keep an Arabic letter from joining the one before it. -/
def opaqueBlocks : List (Nat × Nat) :=
  [(0x605, 0x605), (0x890, 0x891), (0x8E2, 0x8E2), (0x9BE, 0x9BE), (0x9D7, 0x9D7), (0xB3E, 0xB3E),
   (0xB57, 0xB57), (0xBBE, 0xBBE), (0xBD7, 0xBD7), (0xCC0, 0xCC0), (0xCC2, 0xCC2), (0xCC7, 0xCC8),
   (0xCCA, 0xCCB), (0xCD5, 0xCD6), (0xD3E, 0xD3E), (0xD4E, 0xD4E), (0xD57, 0xD57), (0xDCF, 0xDCF),
   (0xDDF, 0xDDF), (0x1160, 0x11FF), (0x1715, 0x1715), (0x1734, 0x1734), (0x180E, 0x180E),
   (0x1B35, 0x1B35), (0x1B3B, 0x1B3B), (0x1B3D, 0x1B3D), (0x1B43, 0x1B44), (0x1BAA, 0x1BAA),
   (0x1BF2, 0x1BF3), (0x200C, 0x200D), (0x2065, 0x2069), (0x302E, 0x302F), (0x3164, 0x3164),
   (0xA8FA, 0xA8FA), (0xA953, 0xA953), (0xA9C0, 0xA9C0), (0xD7B0, 0xD7C6), (0xD7CB, 0xD7FB),
   (0xFFA0, 0xFFA0), (0xFFF0, 0xFFF8), (0x111C0, 0x111C0), (0x111C2, 0x111C3), (0x11235, 0x11235),
   (0x1133E, 0x1133E), (0x1134D, 0x1134D), (0x11357, 0x11357), (0x113B8, 0x113B8),
   (0x113C2, 0x113C2), (0x113C5, 0x113C5), (0x113C7, 0x113C9), (0x113CF, 0x113CF),
   (0x113D1, 0x113D1), (0x114B0, 0x114B0), (0x114BD, 0x114BD), (0x115AF, 0x115AF),
   (0x116B6, 0x116B6), (0x11930, 0x11930), (0x1193D, 0x1193D), (0x1193F, 0x1193F),
   (0x11941, 0x11941), (0x11A84, 0x11A89), (0x11D46, 0x11D46), (0x11F02, 0x11F02),
   (0x11F41, 0x11F41), (0x16FF0, 0x16FF1), (0x1D165, 0x1D166), (0x1D16D, 0x1D172),
   (0xE0000, 0xE0000), (0xE0002, 0xE001F), (0xE0080, 0xE00FF), (0xE01F0, 0xE0FFF)]

/-- Characters of no width over which Arabic letters join. -/
def isTransparent (c : Char) : Bool := isZeroWidth c && !inBlocks opaqueBlocks c.toNat

/-- Marks over which letters join in every script but the Arabic one. -/
def isIgnorableMark (c : Char) : Bool :=
  inBlocks [(0x34F, 0x34F), (0x17B4, 0x17B5), (0x180B, 0x180D), (0x180F, 0x180F), (0xFE00, 0xFE0F),
    (0xE0100, 0xE01EF)] c.toNat

/-- The Arabic letters Alef, which join a Lam before them. -/
def isAlef (c : Char) : Bool :=
  inBlocks [(0x622, 0x623), (0x625, 0x625), (0x627, 0x627), (0x671, 0x673), (0x675, 0x675),
    (0x773, 0x774), (0x870, 0x882)] c.toNat

/-- The Arabic letters Lam. -/
def isLam (c : Char) : Bool :=
  inBlocks [(0x644, 0x644), (0x6B5, 0x6B8), (0x76A, 0x76A), (0x8A6, 0x8A6), (0x8C7, 0x8C7)] c.toNat

/-- The Khmer letters that have a form below the letter before them. -/
def isCoengLetter (c : Char) : Bool :=
  inBlocks [(0x1780, 0x1782), (0x1784, 0x1787), (0x1789, 0x178C), (0x178E, 0x1793),
    (0x1795, 0x1798), (0x179B, 0x179D), (0x17A0, 0x17A0), (0x17A2, 0x17A2), (0x17A7, 0x17A7),
    (0x17AB, 0x17AC), (0x17AF, 0x17AF)] c.toNat

/-- The Tifinagh letters that can be joined two by two. -/
def isTifinagh (c : Char) : Bool := inBlocks [(0x2D31, 0x2D65), (0x2D6F, 0x2D6F)] c.toNat

/-- The quotation marks that come in a narrow and a wide form. -/
def isQuotationMark (c : Char) : Bool :=
  c = '‘' || c = '’' || c = '“' || c = '”'

/-- What a text begins with if it is the end of a ligature. -/
inductive LigatureEnd where
  /-- The Hebrew letter Lamed, after an Alef. -/
  | lamed
  /-- The Buginese letter Ya, after a letter A with a vowel sign I, and that sign with it. -/
  | ya | signAndYa
  /-- A Tifinagh letter, after another one, and the sign that joins the two with it. -/
  | tifinagh | signAndTifinagh
  /-- The Lisu tone letters that come second. -/
  | lisuTone
  /-- The Old Turkic letter I, after a letter Em. -/
  | turkicI
  /-- A Khmer letter, after the sign that puts it below another. -/
  | coengLetter
deriving DecidableEq, Repr

/-- What a text begins with, as far as it can be drawn as one with what stands before it. -/
inductive Beginning where
  | plain
  | lineFeed
  | emoji
  | skinTone
  /-- Letters of flags, one or several. -/
  | flagLetter | flagLetters
  /-- A joiner and an emoji. -/
  | joinedEmoji
  /-- The frame of a key, a joiner and an emoji. -/
  | joinedKeycap
  /-- One letter of a flag, or an even or odd number of them, a joiner and an emoji. -/
  | joinedFlagLetter | joinedFlagLetters (even : Bool)
  /-- The end of a region's name, with so many letters and before them so many digits, a joiner and
  an emoji. -/
  | joinedTags (letters digits : Nat)
  /-- The Kirat Rai vowel signs E and Ai. -/
  | vowelE | vowelAi
  /-- An Arabic letter Alef. -/
  | alef
  /-- The end of a ligature, perhaps with a joiner before it. -/
  | ligature (part : LigatureEnd) (joined : Bool)
deriving DecidableEq, Repr

/-- What a text begins with if it begins with the character. -/
def Beginning.ofChar (c : Char) : Beginning :=
  let n := c.toNat
  if n ≤ 0xA0 then if c = '\n' then lineFeed else plain
  else if n = 0x5DC then ligature .lamed false
  else if isAlef c then alef
  else if isCoengLetter c then ligature .coengLetter false
  else if n = 0x1A10 then ligature .ya false
  else if isTifinagh c then ligature .tifinagh false
  else if n = 0xA4FC || n = 0xA4FD then ligature .lisuTone false
  else if n = 0x10C03 then ligature .turkicI false
  else if n = 0x16D67 then vowelE
  else if n = 0x16D68 then vowelAi
  else if isFlagLetter c then flagLetter
  else if isSkinTone c then skinTone
  else if isPresented c then emoji
  else plain

/-- Whether the beginning is the end of a ligature of letters. -/
def Beginning.isLigature : Beginning → Bool
  | alef | ligature _ _ => true
  | _ => false

/-- If a character is drawn as one with the end of a ligature after it: how much it adds to the
width of the text, and what the text begins with then. -/
def LigatureEnd.before (part : LigatureEnd) (joined : Bool) (c : Char) :
    Option (Int × Beginning) :=
  let n := c.toNat
  match part with
  | lamed => if joined && n = 0x5D0 then some (0, .plain) else none
  | ya => if joined && n = 0x1A17 then some (0, .ligature .signAndYa false) else none
  | signAndYa => if n = 0x1A15 then some (0, .plain) else none
  | tifinagh =>
    if n = 0x2D7F then some (1, .ligature .signAndTifinagh false)
    else if joined && isTifinagh c then some (0, .plain)
    else none
  | signAndTifinagh => if isTifinagh c then some (-1, .plain) else none
  | lisuTone => if 0xA4F8 ≤ n && n ≤ 0xA4FB then some (0, .plain) else none
  | turkicI => if joined && n = 0x10C32 then some (0, .plain) else none
  | coengLetter => if n = 0x17D2 then some (-1, .plain) else none

/-- If a character is drawn as one with what the text after it begins with: how much it adds to the
width of the text, and what the text begins with then. -/
def Beginning.before (beginning : Beginning) (c : Char) : Option (Int × Beginning) :=
  let n := c.toNat
  match beginning with
  | plain | lineFeed | joinedKeycap => none
  | emoji => if c = zeroWidthJoiner then some (0, joinedEmoji) else none
  | skinTone =>
    if c = zeroWidthJoiner then some (0, joinedEmoji)
    else if isToneable c then some (0, emoji)
    else none
  | flagLetter => if isFlagLetter c then some (1, flagLetters) else none
  | flagLetters =>
    if c = zeroWidthJoiner then some (0, joinedEmoji)
    else if isFlagLetter c then some (1, flagLetters)
    else none
  | joinedEmoji =>
    if n = 0x20E3 then some (0, joinedKeycap)
    else if isFlagLetter c then some (1, joinedFlagLetter)
    else if isSkinTone c then some (0, skinTone)
    else if n = 0xE007F then some (0, joinedTags 0 0)
    else if isPresented c then some (0, emoji)
    else none
  | joinedFlagLetter => if isFlagLetter c then some (-1, joinedFlagLetters true) else none
  | joinedFlagLetters even =>
    if c = zeroWidthJoiner then some (0, joinedEmoji)
    else if isFlagLetter c then some (if even then 3 else -1, joinedFlagLetters !even)
    else none
  | joinedTags letters digits =>
    if isTagLetter c && digits = 0 && letters < 6 then some (0, joinedTags (letters + 1) 0)
    else if isTagDigit c && digits < 3 && letters ≤ 4 then some (0, joinedTags letters (digits + 1))
    else if n = 0x1F3F4 && (digits = 3 || (digits = 0 && 3 ≤ letters)) then some (0, emoji)
    else none
  | vowelE =>
    if n = 0x16D63 || n = 0x16D69 then some (0, plain)
    else if n = 0x16D67 then some (0, vowelAi)
    else if n = 0x16D68 then some (1, vowelE)
    else none
  | vowelAi => if n = 0x16D63 then some (0, plain) else none
  | alef =>
    if isLam c then some (0, plain)
    else if isTransparent c then some (0, alef)
    else none
  | ligature part joined =>
    if c = zeroWidthJoiner then some (0, ligature part true)
    else if isIgnorableMark c then some (0, ligature part joined)
    else part.before joined c

/-- Ways of drawing that can be asked for by a character after the one that is drawn. -/
inductive Selector where
  | picture | text
  /-- Forms of quotation marks. -/
  | narrow | wide
deriving DecidableEq, Repr

/-- The way of drawing that a character asks for. -/
def selector? (c : Char) : Option Selector :=
  let n := c.toNat
  if n = 0xFE0F then some .picture
  else if n = 0xFE0E then some .text
  else if n = 0xFE01 then some .wide
  else if n = 0xFE00 || n = 0xFE02 then some .narrow
  else none

/-- What a text begins with, and before it the way of drawing that is asked for. -/
structure Lead where
  beginning : Beginning := .plain
  selector : Option Selector := none
deriving DecidableEq, Repr

/-- The lead if a way of drawing is asked for before the text. That keeps apart what would be drawn
as one, but for ligatures, and but for emojis that are joined to a picture. -/
def Lead.select (lead : Lead) (selector : Selector) : Lead :=
  let beginning := lead.beginning
  let keeps := beginning.isLigature ||
    (selector = .picture && lead.selector = none &&
      (beginning = .joinedEmoji || beginning = .joinedKeycap))
  { beginning := if keeps then beginning else .plain, selector := some selector }

/-- What the text begins with if the character before it does not draw as it is asked to. -/
def Lead.unselected (lead : Lead) : Beginning :=
  if lead.selector = none || lead.beginning.isLigature then lead.beginning else .plain

/-- How much a character adds to the width of a text before which it is put, and the lead of the
text with it, if it draws as the text asks it to. -/
def Lead.selected? (lead : Lead) (c : Char) : Option (Int × Lead) :=
  match lead.selector with
  | none => none
  | some .picture =>
    if isSelectable c then
      let joined := lead.beginning = .joinedEmoji || lead.beginning = .joinedKeycap
      some (if joined then 0 else 2, { beginning := .emoji })
    else none
  | some .text => if isNarrowable c then some (1, {}) else none
  | some .narrow => if isQuotationMark c then some (1, {}) else none
  | some .wide => if isQuotationMark c then some (2, {}) else none

/-- How much a character adds to the width of a text before which it is put, and the lead of the
text with it. -/
def Lead.put (lead : Lead) (c : Char) : Int × Lead :=
  match lead.selected? c with
  | some result => result
  | none =>
    if c = '\r' && lead.beginning = .lineFeed then (0, {})
    else match selector? c with
    | some selector => (0, lead.select selector)
    | none =>
      match if c.toNat ≤ 0xA0 then none else lead.unselected.before c with
      | some (width, beginning) => (width, { beginning })
      | none => (charWidth c, { beginning := .ofChar c })

/-- The width of a text with its lead. -/
def widthAndLead : List Char → Int × Lead
  | [] => (0, {})
  | c :: rest =>
    let (width, lead) := widthAndLead rest
    let (more, lead) := lead.put c
    (width + more, lead)

/-- How many columns a text covers. -/
def textWidth (text : List Char) : Nat := (widthAndLead text).1.toNat

/-- How many columns a cluster is given when it is drawn. Marks that voice a letter are given one
column more than they cover. -/
def clusterWidth (cluster : List Char) : Nat :=
  textWidth cluster + (cluster.filter isVoicingMark).length

end Jukebox.Text
