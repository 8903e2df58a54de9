/-
# Bytes as text

A line from the server is text only if its bytes are well-formed UTF-8. When they are not, the place
of the first fault is reported: the index of the first byte of the faulty sequence and, unless the
bytes simply end too early, how many bytes of it are wrong.
-/

namespace Jukebox.Text

/-- What is wrong with bytes that are not well-formed. -/
inductive Utf8Fault where
  /-- A sequence of `length` bytes at `index` begins no character. -/
  | invalid (length index : Nat)
  /-- The bytes end inside a character that begins at `index`. -/
  | incomplete (index : Nat)
deriving DecidableEq, Repr

/-- The fault in words. -/
def Utf8Fault.message : Utf8Fault → String
  | .invalid length index =>
    "invalid utf-8 sequence of " ++ toString length ++ " bytes from index " ++ toString index
  | .incomplete index => "incomplete utf-8 byte sequence from index " ++ toString index

/-- The bounds of the bytes that have to follow a first byte, or `none` if no character begins with
that byte. -/
def followers (first : UInt8) : Option (List (UInt8 × UInt8)) :=
  let tail : UInt8 × UInt8 := (0x80, 0xBF)
  if first < 0x80 then some []
  else if first < 0xC2 then none
  else if first < 0xE0 then some [tail]
  else if first = 0xE0 then some [(0xA0, 0xBF), tail]
  else if first = 0xED then some [(0x80, 0x9F), tail]
  else if first < 0xF0 then some [tail, tail]
  else if first = 0xF0 then some [(0x90, 0xBF), tail, tail]
  else if first < 0xF4 then some [tail, tail, tail]
  else if first = 0xF4 then some [(0x80, 0x8F), tail, tail]
  else none

/-- How the bytes after a first byte meet the bounds set for them. -/
inductive Following where
  /-- All bounds are met. -/
  | complete
  /-- This many bytes meet their bounds, the next one does not. -/
  | broken (count : Nat)
  /-- The bytes end before the bounds do. -/
  | short

/-- Compares bytes with the bounds set for them. -/
def follow : List (UInt8 × UInt8) → List UInt8 → Following
  | [], _ => .complete
  | _ :: _, [] => .short
  | (least, greatest) :: bounds, b :: bytes =>
    if least ≤ b ∧ b ≤ greatest then
      match follow bounds bytes with
      | .broken count => .broken (count + 1)
      | result => result
    else .broken 0

/-- The first fault in the bytes from `index` on; `owed` bytes were already found to belong to the
character before. -/
def faultFrom (index owed : Nat) : List UInt8 → Option Utf8Fault
  | [] => none
  | b :: bytes =>
    match owed with
    | owed + 1 => faultFrom (index + 1) owed bytes
    | 0 =>
      match followers b with
      | none => some (.invalid 1 index)
      | some bounds =>
        match follow bounds bytes with
        | .complete => faultFrom (index + 1) bounds.length bytes
        | .broken count => some (.invalid (count + 1) index)
        | .short => some (.incomplete index)

/-- The text that well-formed bytes stand for, or the first fault in them. -/
def decodeUtf8 (bytes : List UInt8) : Except Utf8Fault String :=
  match String.fromUTF8? (ByteArray.mk bytes.toArray) with
  | some text => .ok text
  | none => .error ((faultFrom 0 0 bytes).getD (.incomplete 0))

/-- The bytes of a text. -/
def encodeUtf8 (text : String) : List UInt8 :=
  text.toUTF8.data.toList

end Jukebox.Text
