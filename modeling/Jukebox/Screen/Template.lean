import Jukebox.Text.Split

/-
# Templates of the top bar

The line on top of the screen is a template. A semicolon ends a row and a bar ends a piece of a row; a
dollar sign begins a variable, which may have a parameter if it is in braces; a backslash makes the
next character literal. Rows without anything in them are left out at the end.

A template is read in two steps: the characters become marks, and the marks are put together from
the right.
-/

namespace Jukebox

/-- A part of a piece. -/
inductive Fragment where
  | text (content : String)
  | var (name : String) (parameter : Option String)
deriving DecidableEq, Repr

/-- What stands together in one place of a row. -/
abbrev Piece := List Fragment

namespace Template

/-- The meaning of one or more characters of a template. -/
inductive Mark where
  | literal (c : Char)
  | var (name : String) (parameter : Option String)
  | pieceEnd
  | rowEnd
deriving DecidableEq, Repr

/-- The variable that stands between braces. -/
def bracedVariable (inside : List Char) : Mark :=
  match Text.splitAtFirst ['|'] inside with
  | some (name, parameter) =>
    .var (String.ofList name) (some (String.ofList parameter))
  | none => .var (String.ofList inside) none

/-- The variable after a dollar sign, and what follows it. Without braces it goes as far as there are
letters and digits of ASCII, with an opening brace to the closing one. -/
def readVariable : List Char → Mark × List Char
  | '{' :: rest =>
    (bracedVariable (rest.takeWhile (· ≠ '}')), (rest.dropWhile (· ≠ '}')).drop 1)
  | rest =>
    (.var (String.ofList (rest.takeWhile Char.isAlphanum)) none,
      rest.dropWhile Char.isAlphanum)

theorem length_readVariable_le (text : List Char) :
    (readVariable text).2.length ≤ text.length := by
  unfold readVariable
  split
  · next rest =>
    have := (List.dropWhile_sublist (· ≠ '}') (l := rest)).length_le
    simp only [List.length_drop, List.length_cons]
    omega
  · exact (List.dropWhile_sublist _).length_le

/-- The marks of a template. -/
def marks : List Char → List Mark
  | [] => []
  | ['\\'] => []
  | '\\' :: c :: rest => .literal c :: marks rest
  | '$' :: rest => (readVariable rest).1 :: marks (readVariable rest).2
  | '|' :: rest => .pieceEnd :: marks rest
  | ';' :: rest => .rowEnd :: marks rest
  | c :: rest => .literal c :: marks rest
termination_by text => text.length
decreasing_by
  · simp only [List.length_cons]
    omega
  · exact Nat.lt_succ_of_le (length_readVariable_le rest)
  · simp
  · simp
  · simp

/-- Puts a character in front of a piece. -/
def addLiteral (c : Char) : Piece → Piece
  | .text content :: piece => .text (String.ofList (c :: content.toList)) :: piece
  | piece => .text (String.ofList [c]) :: piece

/-- Changes the first piece of the first row. -/
def modifyFirst (f : Piece → Piece) : List (List Piece) → List (List Piece)
  | (piece :: row) :: rows => (f piece :: row) :: rows
  | rows => rows

/-- Puts an empty piece in front of the first row. -/
def addPiece : List (List Piece) → List (List Piece)
  | row :: rows => ([] :: row) :: rows
  | [] => [[[]]]

/-- The rows that marks make up. There is always a row, and in each row a piece. -/
def assemble : List Mark → List (List Piece)
  | [] => [[[]]]
  | .literal c :: rest => modifyFirst (addLiteral c) (assemble rest)
  | .var name parameter :: rest =>
    modifyFirst (.var name parameter :: ·) (assemble rest)
  | .pieceEnd :: rest => addPiece (assemble rest)
  | .rowEnd :: rest => [[]] :: assemble rest

/-- Whether there is nothing in a row. -/
def isEmptyRow (row : List Piece) : Bool := row.all List.isEmpty

/-- Rows without the empty ones at the end. -/
def dropEmptyRows (rows : List (List Piece)) : List (List Piece) :=
  (rows.reverse.dropWhile isEmptyRow).reverse

/-- The rows of a template, each a list of pieces. -/
def parse (template : String) : List (List Piece) :=
  dropEmptyRows (assemble (marks template.toList))

/-- Whether a character has to be written with a backslash to stand for itself. -/
def isSpecial (c : Char) : Bool := c == '\\' || c == '$' || c == '|' || c == ';'

/-- A fragment in the notation of templates. -/
def printFragment : Fragment → List Char
  | .text content => content.toList.flatMap fun c => if isSpecial c then ['\\', c] else [c]
  | .var name none => '$' :: '{' :: name.toList ++ ['}']
  | .var name (some parameter) =>
    '$' :: '{' :: name.toList ++ '|' :: parameter.toList ++ ['}']

/-- Rows in the notation of templates. -/
def print (rows : List (List Piece)) : String :=
  String.ofList <| [';'].intercalate <| rows.map fun row =>
    ['|'].intercalate <| row.map fun piece => piece.flatMap printFragment

end Template

end Jukebox
