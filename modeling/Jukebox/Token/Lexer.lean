import Jukebox.Text.Blank
import Jukebox.Token

/-
# Reading tokens

The reader never fails. Blanks separate tokens and belong to none. A quote of either sort runs to
the next unescaped quote of the same sort; a backslash inside it makes the next character literal.
A control character that is no blank is a token of its own, and all other characters form words.
-/

namespace Jukebox.Token

open Text

/-- The two characters that open and close a quoted text. -/
def isQuote (c : Char) : Bool := c == '"' || c == '\''

/-- Control characters that do not separate tokens. -/
def isStray (c : Char) : Bool := isControl c && !isBlank c

/-- The characters of words. -/
def isWordChar (c : Char) : Bool := !isBlank c && !isQuote c && !isStray c

/-- The body of a quoted text with the escapes undone, and what follows its closing quote. There is
no such rest if the quote is not closed. -/
def readQuoted (mark : Char) : List Char → List Char × Option (List Char)
  | [] => ([], none)
  | ['\\'] => (['\\'], none)
  | '\\' :: c :: rest =>
    let (body, after) := readQuoted mark rest
    (c :: body, after)
  | c :: rest =>
    if c = mark then ([], some rest)
    else
      let (body, after) := readQuoted mark rest
      (c :: body, after)

theorem length_lt_of_readQuoted {mark : Char} {text body rest : List Char}
    (h : readQuoted mark text = (body, some rest)) : rest.length < text.length := by
  fun_induction readQuoted mark text generalizing body with
  | case1 => simp at h
  | case2 => simp at h
  | case3 c tail inner after hinner ih =>
    simp only [Prod.mk.injEq] at h
    have := @ih inner (by rw [hinner, h.2])
    simp only [List.length_cons]
    omega
  | case4 tail => simp_all
  | case5 c tail _ _ _ inner after hinner ih =>
    simp only [Prod.mk.injEq] at h
    have := @ih inner (by rw [hinner, h.2])
    simp only [List.length_cons]
    omega

/-- The first token of a text and what follows it, or `none` if only blanks are left. -/
def next? (text : List Char) : Option (Token × List Char) :=
  match text.dropWhile isBlank with
  | [] => none
  | c :: rest =>
    if isQuote c then
      match readQuoted c rest with
      | (body, some rest) => some (quoted (String.ofList body), rest)
      | (body, none) => some (stray (String.ofList body), [])
    else if isStray c then some (stray (String.ofList [c]), rest)
    else
      some (word (String.ofList (c :: rest.takeWhile isWordChar)), rest.dropWhile isWordChar)

theorem length_lt_of_next? {text rest : List Char} {token : Token}
    (h : next? text = some (token, rest)) : rest.length < text.length := by
  have hblank := (List.dropWhile_sublist isBlank (l := text)).length_le
  unfold next? at h
  split at h
  · simp at h
  · next c tail htext =>
    rw [htext, List.length_cons] at hblank
    split at h
    · split at h
      · next body after hquoted =>
        simp only [Option.some.injEq, Prod.mk.injEq] at h
        have := length_lt_of_readQuoted hquoted
        rw [← h.2]
        omega
      · simp only [Option.some.injEq, Prod.mk.injEq] at h
        rw [← h.2]
        simp only [List.length_nil]
        omega
    · split at h
      · simp only [Option.some.injEq, Prod.mk.injEq] at h
        rw [← h.2]
        omega
      · simp only [Option.some.injEq, Prod.mk.injEq] at h
        have := (List.dropWhile_sublist isWordChar (l := tail)).length_le
        rw [← h.2]
        omega

/-- The tokens of a text; the last one, and no other, is the end of the line. -/
def scan (text : List Char) : List Token :=
  match _h : next? text with
  | none => [endOfLine]
  | some (token, rest) => token :: scan rest
termination_by text.length
decreasing_by exact length_lt_of_next? (by assumption)

/-- The tokens of a command line. -/
def ofLine (line : String) : List Token := scan line.toList

end Jukebox.Token
