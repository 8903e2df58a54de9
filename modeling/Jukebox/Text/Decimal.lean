import Jukebox.Text.Integer

/-
# Reading decimal fractions

Durations and elapsed times are decimal fractions: digits with an optional point, of which one side
may be empty, an optional exponent, an optional sign; or one of the words for infinity and for "not
a number" in any case. The value is the double nearest to the number written.
-/

namespace Jukebox.Text

/-- The double nearest to `mantissa * 10 ^ exponent`. Exponents so large or so small that the result
is infinite or zero in any case are not computed with. -/
def nearestDouble (mantissa : Nat) (exponent : Int) : Float :=
  let magnitude : Int := (Nat.toDigits 10 mantissa).length + exponent
  if mantissa = 0 then 0.0
  else if magnitude > 400 then 1.0 / 0.0
  else if magnitude < -400 then 0.0
  else Float.ofScientific mantissa (exponent < 0) exponent.natAbs

/-- Reads the exponent that may follow the digits of a fraction. -/
def readExponent? : List Char → Option Int
  | [] => some 0
  | 'e' :: text | 'E' :: text => readSigned? text
  | _ => none

/-- Reads an unsigned fraction. At least one digit stands before or after the point. -/
def readFraction? (text : List Char) : Option Float :=
  let whole := text.takeWhile Char.isDigit
  let (part, rest) := match text.dropWhile Char.isDigit with
    | '.' :: rest => (rest.takeWhile Char.isDigit, rest.dropWhile Char.isDigit)
    | rest => ([], rest)
  if whole.isEmpty && part.isEmpty then none
  else (readExponent? rest).map fun exponent =>
    nearestDouble (digitsValue (whole ++ part)) (exponent - part.length)

/-- Reads a fraction or one of the words for infinity and "not a number". -/
def readMagnitude? (text : List Char) : Option Float :=
  let word := String.ofList (text.map Char.toLower)
  if word = "inf" || word = "infinity" then some (1.0 / 0.0)
  else if word = "nan" then some (0.0 / 0.0)
  else readFraction? text

/-- The double written in a text. -/
def readFloat? (text : String) : Option Float :=
  match text.toList with
  | '-' :: rest => (readMagnitude? rest).map fun x => -x
  | '+' :: rest => readMagnitude? rest
  | rest => readMagnitude? rest

/-- The whole seconds of a time: the fraction is cut off, what lies outside the range of a 32-bit
word goes to its nearer end, and "not a number" is zero. -/
def wholeSeconds (x : Float) : Nat := x.toUInt32.toNat

/-- The nearest whole number of seconds, a half away from zero, within the same bounds. -/
def nearestSeconds (x : Float) : Nat := wholeSeconds x.round

end Jukebox.Text
