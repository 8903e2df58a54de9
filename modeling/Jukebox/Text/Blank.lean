/-
# White space, control characters and trimming

Command lines, scripts and comma lists are split at white space in the sense of the Unicode
property `White_Space`, which is wider than the blanks of ASCII: it has the no-break space, the
ideographic space and the line and paragraph separators, but no zero-width character.
-/

namespace Jukebox.Text

/-- The characters with the Unicode property `White_Space`. -/
def isBlank (c : Char) : Bool :=
  let n := c.toNat
  (0x09 ≤ n && n ≤ 0x0D) || n == 0x20 || n == 0x85 || n == 0xA0 || n == 0x1680 ||
    (0x2000 ≤ n && n ≤ 0x200A) || n == 0x2028 || n == 0x2029 || n == 0x202F || n == 0x205F ||
    n == 0x3000

/-- The control characters: the blocks C0 and C1 and the delete character. -/
def isControl (c : Char) : Bool :=
  c.toNat < 0x20 || (0x7F ≤ c.toNat && c.toNat < 0xA0)

/-- A text without the characters satisfying `p` at its start. -/
def dropStart (p : Char → Bool) (text : String) : String :=
  String.ofList (text.toList.dropWhile p)

/-- A text without the characters satisfying `p` at its end. -/
def dropEnd (p : Char → Bool) (text : String) : String :=
  String.ofList (text.toList.reverse.dropWhile p).reverse

/-- A text without the blanks around it. -/
def trim (text : String) : String :=
  dropEnd isBlank (dropStart isBlank text)

end Jukebox.Text
