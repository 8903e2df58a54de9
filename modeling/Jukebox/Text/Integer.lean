/-
# Reading whole numbers

The notation of numbers in command arguments, options, replies and tags: ASCII digits after at most
one sign, leading zeros allowed, nothing else. A number beyond the bound of its use is not read at
all; it is never wrapped or cut down.
-/

namespace Jukebox.Text

/-- The number that a run of ASCII digits denotes. -/
def digitsValue (digits : List Char) : Nat :=
  digits.foldl (fun n d => 10 * n + (d.toNat - '0'.toNat)) 0

/-- Reads one or more ASCII digits and nothing else. -/
def readDigits? (text : List Char) : Option Nat :=
  if text.isEmpty || !text.all Char.isDigit then none else some (digitsValue text)

/-- Reads digits after an optional plus sign. -/
def readUnsigned? : List Char → Option Nat
  | '+' :: digits => readDigits? digits
  | digits => readDigits? digits

/-- Reads digits after an optional sign. -/
def readSigned? : List Char → Option Int
  | '-' :: digits => (readDigits? digits).map fun n => -(n : Int)
  | text => (readUnsigned? text).map fun n => (n : Int)

/-- The number written in a text, if it is at most `limit`. -/
def readNat? (limit : Nat) (text : String) : Option Nat :=
  (readUnsigned? text.toList).filter (· ≤ limit)

/-- The number written in a text, if it lies between the bounds. -/
def readInt? (least greatest : Int) (text : String) : Option Int :=
  (readSigned? text.toList).filter fun n => least ≤ n ∧ n ≤ greatest

/-- The greatest number of a byte. -/
def maxByte : Nat := 255

/-- The greatest port number. -/
def maxPort : Nat := 65535

/-- The greatest number of a 32-bit word; ids and seconds stay below it. -/
def maxWord : Nat := 4294967295

/-- The greatest number of a 64-bit word; positions stay below it. -/
def maxLong : Nat := 18446744073709551615

/-- The number written in a text, if it fits a signed 32-bit word. -/
def readInt32? (text : String) : Option Int := readInt? (-2147483648) 2147483647 text

/-- The number written in a text, if it fits a signed 64-bit word. -/
def readInt64? (text : String) : Option Int :=
  readInt? (-9223372036854775808) 9223372036854775807 text

/-- The value of one hexadecimal digit, in either case. -/
def hexDigit? (c : Char) : Option Nat :=
  if c.isDigit then some (c.toNat - '0'.toNat)
  else if 'a' ≤ c ∧ c ≤ 'f' then some (c.toNat - 'a'.toNat + 10)
  else if 'A' ≤ c ∧ c ≤ 'F' then some (c.toNat - 'A'.toNat + 10)
  else none

/-- Reads two characters as a byte: two hexadecimal digits, or a plus sign and one. -/
def readHexPair? (high low : Char) : Option Nat :=
  if high = '+' then hexDigit? low
  else do
    let h ← hexDigit? high
    let l ← hexDigit? low
    return 16 * h + l

end Jukebox.Text
