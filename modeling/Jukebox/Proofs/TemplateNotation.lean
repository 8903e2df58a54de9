import Mathlib.Data.List.DropRight
import Mathlib.Data.List.Chain
import Jukebox.Proofs.Scanning
import Jukebox.Screen.Template

/-
# Templates read back

Rows that are written down as a template can be read from it again, all but the empty rows at the
end, which a template cannot hold. A variable without a parameter has two notations, with braces and
without; the one without serves just if the name is of letters and digits only and nothing after it
could be taken for more of the name. Which of the two is used is up to the writer, for each variable
by itself: what is read is the same.

What is written of a fragment is read alike whatever follows it, so a piece is followed fragment by
fragment, with the marks of what comes after it already put together.
-/

namespace Jukebox.Template

/-- Whether a template can hold a fragment: a text has something in it, a name ends before the first
bar and a variable at the first closing brace. -/
def Writable : Fragment → Prop
  | .text content => content ≠ ""
  | .var name parameter =>
    '|' ∉ name.toList ∧ '}' ∉ name.toList ∧ ∀ inside ∈ parameter, '}' ∉ inside.toList

instance : DecidablePred Writable
  | .text content => inferInstanceAs (Decidable (content ≠ ""))
  | .var name parameter => inferInstanceAs (Decidable
      ('|' ∉ name.toList ∧ '}' ∉ name.toList ∧ ∀ inside ∈ parameter, '}' ∉ inside.toList))

/-- Whether a fragment is a text. -/
def isText : Fragment → Bool
  | .text _ => true
  | .var _ _ => false

/-- A piece that a template can hold. Texts side by side would be read as one. -/
structure Printable (piece : Piece) : Prop where
  writable : ∀ fragment ∈ piece, Writable fragment
  apart : piece.IsChain fun first second => ¬(isText first ∧ isText second)

instance : DecidablePred Printable := fun piece =>
  decidable_of_iff ((∀ fragment ∈ piece, Writable fragment) ∧
      piece.IsChain fun first second => ¬(isText first ∧ isText second))
    ⟨fun h => ⟨h.1, h.2⟩, fun h => ⟨h.writable, h.apart⟩⟩

/-- A piece is written as the given text when `after` follows it. The last two cases are the two
notations of a variable that has no parameter. -/
inductive PieceWritten (after : List Char) : Piece → List Char → Prop where
  | nil : PieceWritten after [] []
  | printed {piece : Piece} {text : List Char} (fragment : Fragment) :
      PieceWritten after piece text →
      PieceWritten after (fragment :: piece) (printFragment fragment ++ text)
  | short {piece : Piece} {text : List Char} (name : String) :
      name ≠ "" → name.toList.all Char.isAlphanum →
      (text ++ after).head?.any Char.isAlphanum = false →
      PieceWritten after piece text →
      PieceWritten after (.var name none :: piece) ('$' :: name.toList ++ text)

/-- A row is written as the given text when `after` follows it. -/
inductive RowWritten (after : List Char) : List Piece → List Char → Prop where
  | last {piece : Piece} {text : List Char} :
      PieceWritten after piece text → RowWritten after [piece] text
  | cons {piece : Piece} {row : List Piece} {text rest : List Char} :
      PieceWritten ('|' :: rest ++ after) piece text → RowWritten after row rest →
      RowWritten after (piece :: row) (text ++ '|' :: rest)

/-- Rows are written as the given template. -/
inductive Written : List (List Piece) → List Char → Prop where
  | nil : Written [] []
  | last {row : List Piece} {text : List Char} : RowWritten [] row text → Written [row] text
  | cons {row next : List Piece} {rows : List (List Piece)} {text rest : List Char} :
      RowWritten (';' :: rest) row text → Written (next :: rows) rest →
      Written (row :: next :: rows) (text ++ ';' :: rest)

section Printing

theorem pieceWritten_flatMap (after : List Char) (piece : Piece) :
    PieceWritten after piece (piece.flatMap printFragment) := by
  induction piece with
  | nil => exact .nil
  | cons fragment piece ih => exact .printed fragment ih

theorem rowWritten_intercalate (after : List Char) {row : List Piece} (h : row ≠ []) :
    RowWritten after row
      (['|'].intercalate (row.map fun piece => piece.flatMap printFragment)) := by
  induction row with
  | nil => exact absurd rfl h
  | cons piece row ih =>
    cases row with
    | nil =>
      rw [List.map_singleton, List.intercalate_singleton]
      exact .last (pieceWritten_flatMap after piece)
    | cons next row =>
      rw [List.map_cons, List.map_cons, List.intercalate_cons_cons, ← List.map_cons]
      simpa using RowWritten.cons (pieceWritten_flatMap _ piece) (ih (List.cons_ne_nil next row))

/-- Printed rows are written as the notation asks. -/
theorem written_print {rows : List (List Piece)} (h : ∀ row ∈ rows, row ≠ []) :
    Written rows (print rows).toList := by
  unfold print
  rw [String.toList_ofList]
  induction rows with
  | nil => exact .nil
  | cons row rows ih =>
    have hrow : row ≠ [] := h row List.mem_cons_self
    cases rows with
    | nil =>
      rw [List.map_singleton, List.intercalate_singleton]
      exact .last (rowWritten_intercalate [] hrow)
    | cons next rows =>
      have hrest := ih fun row hmem => h row (List.mem_cons_of_mem _ hmem)
      rw [List.map_cons] at hrest
      rw [List.map_cons, List.map_cons, List.intercalate_cons_cons]
      simpa using Written.cons (rowWritten_intercalate _ hrow) hrest

end Printing

section Marks

/-- The mark of a character that stands for itself. -/
theorem marks_character (c : Char) (rest : List Char) :
    marks ((if isSpecial c then ['\\', c] else [c]) ++ rest) = .literal c :: marks rest := by
  split
  · rw [List.cons_append, List.singleton_append, marks]
  · next h =>
    simp only [isSpecial, Bool.or_eq_true, beq_iff_eq, not_or] at h
    obtain ⟨⟨⟨hslash, hdollar⟩, hbar⟩, hsemicolon⟩ := h
    rw [List.singleton_append, marks]
    all_goals simp_all

theorem marks_text (content : String) (rest : List Char) :
    marks (printFragment (.text content) ++ rest) = content.toList.map .literal ++ marks rest := by
  simp only [printFragment]
  induction content.toList with
  | nil => rfl
  | cons c text ih =>
    rw [List.flatMap_cons, List.append_assoc, marks_character, ih, List.map_cons, List.cons_append]

theorem splitAtFirst_singleton_of_not_mem {mark : Char} {text : List Char} (h : mark ∉ text) :
    Text.splitAtFirst [mark] text = none := by
  induction text with
  | nil => rfl
  | cons c text ih =>
    rw [List.mem_cons, not_or] at h
    rw [Text.splitAtFirst, if_neg (by simp [h.1]), ih h.2, Option.map_none]

theorem splitAtFirst_singleton_append {mark : Char} {before : List Char} (h : mark ∉ before)
    (after : List Char) :
    Text.splitAtFirst [mark] (before ++ mark :: after) = some (before, after) := by
  induction before with
  | nil => simp [Text.splitAtFirst]
  | cons c before ih =>
    rw [List.mem_cons, not_or] at h
    rw [List.cons_append, Text.splitAtFirst, if_neg (by simp [h.1]), ih h.2, Option.map_some]

theorem bracedVariable_name {name : String} (h : '|' ∉ name.toList) :
    bracedVariable name.toList = .var name none := by
  simp [bracedVariable, splitAtFirst_singleton_of_not_mem h]

theorem bracedVariable_parameter {name : String} (h : '|' ∉ name.toList) (parameter : String) :
    bracedVariable (name.toList ++ '|' :: parameter.toList) = .var name (some parameter) := by
  simp [bracedVariable, splitAtFirst_singleton_append h]

/-- A variable in braces, whatever follows it. -/
theorem marks_braced {inside : List Char} (h : '}' ∉ inside) (rest : List Char) :
    marks ('$' :: '{' :: inside ++ '}' :: rest) = bracedVariable inside :: marks rest := by
  have hinside : ∀ c ∈ inside, decide (c ≠ '}') = true := by
    intro c hmem
    simpa using ne_of_mem_of_not_mem hmem h
  have hread : readVariable ('{' :: (inside ++ '}' :: rest)) = (bracedVariable inside, rest) := by
    rw [readVariable, Token.takeWhile_append_stop (by decide), List.takeWhile_eq_self_iff.2 hinside,
      Token.dropWhile_append_stop (by decide), List.dropWhile_eq_nil_iff.2 hinside]
    rfl
  rw [List.cons_append, List.cons_append, marks, hread]

/-- A variable without braces ends where no letter or digit follows. -/
theorem marks_short {name : String} {rest : List Char} (hname : name ≠ "")
    (hletters : name.toList.all Char.isAlphanum)
    (hnext : rest.head?.any Char.isAlphanum = false) :
    marks ('$' :: name.toList ++ rest) = .var name none :: marks rest := by
  have h : ∀ c ∈ name.toList, c.isAlphanum := List.all_eq_true.1 hletters
  have htake : (name.toList ++ rest).takeWhile Char.isAlphanum = name.toList := by
    cases rest with
    | nil => simpa using h
    | cons stop rest =>
      have hstop : stop.isAlphanum = false := hnext
      rw [Token.takeWhile_append_stop hstop, List.takeWhile_eq_self_iff.2 h]
  have hdrop : (name.toList ++ rest).dropWhile Char.isAlphanum = rest := by
    cases rest with
    | nil => simpa using h
    | cons stop rest =>
      have hstop : stop.isAlphanum = false := hnext
      rw [Token.dropWhile_append_stop hstop, List.dropWhile_eq_nil_iff.2 h,
        List.nil_append]
  have hread : readVariable (name.toList ++ rest) = (.var name none, rest) := by
    unfold readVariable
    split
    · next tail heq =>
      -- the first character of the name would be a brace
      have hne : name.toList ≠ [] := by simpa using hname
      obtain ⟨c, letters, hletters⟩ := List.exists_cons_of_ne_nil hne
      rw [hletters, List.cons_append, List.cons.injEq] at heq
      have hbrace := h c (hletters ▸ List.mem_cons_self)
      rw [heq.1] at hbrace
      exact absurd hbrace (by decide)
    · rw [htake, hdrop, String.ofList_toList]
  rw [List.cons_append, marks, hread]

/-- The marks of a fragment. -/
def fragmentMarks : Fragment → List Mark
  | .text content => content.toList.map .literal
  | .var name parameter => [.var name parameter]

/-- A fragment is read alike whatever follows it. -/
theorem marks_printFragment {fragment : Fragment} (h : Writable fragment) (rest : List Char) :
    marks (printFragment fragment ++ rest) = fragmentMarks fragment ++ marks rest := by
  match fragment with
  | .text content => exact marks_text content rest
  | .var name none =>
    have hbraced := marks_braced h.2.1 rest
    rw [bracedVariable_name h.1] at hbraced
    simpa [printFragment, fragmentMarks] using hbraced
  | .var name (some parameter) =>
    have hinside : '}' ∉ name.toList ++ '|' :: parameter.toList := by
      simpa using ⟨h.2.1, h.2.2 parameter rfl⟩
    have hbraced := marks_braced hinside rest
    rw [bracedVariable_parameter h.1] at hbraced
    simpa [printFragment, fragmentMarks] using hbraced

end Marks

section Assembling

variable {marks' : List Mark} {piece : Piece} {row : List Piece} {rows : List (List Piece)}

theorem assemble_literals (h : assemble marks' = (piece :: row) :: rows)
    (hpiece : ∀ fragment ∈ piece.head?, isText fragment = false) {text : List Char}
    (htext : text ≠ []) :
    assemble (text.map .literal ++ marks') =
      ((.text (String.ofList text) :: piece) :: row) :: rows := by
  induction text with
  | nil => exact absurd rfl htext
  | cons c text ih =>
    rw [List.map_cons, List.cons_append, assemble]
    cases text with
    | nil =>
      rw [List.map_nil, List.nil_append, h]
      match piece with
      | [] => rfl
      | .var name parameter :: piece => rfl
      | .text content :: piece => exact absurd (hpiece _ rfl) Bool.noConfusion
    | cons d text =>
      rw [ih (List.cons_ne_nil d text), modifyFirst, addLiteral, String.toList_ofList]

/-- A fragment comes in front of the first piece of what follows it. -/
theorem assemble_fragment (h : assemble marks' = (piece :: row) :: rows) {fragment : Fragment}
    (hprintable : Printable (fragment :: piece)) :
    assemble (fragmentMarks fragment ++ marks') = ((fragment :: piece) :: row) :: rows := by
  cases fragment with
  | var name parameter => rw [fragmentMarks, List.singleton_append, assemble, h, modifyFirst]
  | text content =>
    have hcontent : content.toList ≠ [] := by
      simpa [Writable] using hprintable.writable _ List.mem_cons_self
    have hpiece : ∀ next ∈ piece.head?, isText next = false := by
      intro next hnext
      have := (List.isChain_cons.1 hprintable.apart).1 next hnext
      simpa [isText] using this
    rw [fragmentMarks, assemble_literals h hpiece hcontent, String.ofList_toList]

theorem Printable.tail {fragment : Fragment} (h : Printable (fragment :: piece)) :
    Printable piece where
  writable _ hmem := h.writable _ (List.mem_cons_of_mem _ hmem)
  apart := h.apart.tail

end Assembling

section Reading

variable {after text : List Char} {piece : Piece} {row : List Piece} {rows : List (List Piece)}

/-- A piece is read back in front of what follows it, which begins a piece of its own. -/
theorem assemble_of_pieceWritten (h : PieceWritten after piece text) (hprintable : Printable piece)
    (hafter : assemble (marks after) = ([] :: row) :: rows) :
    assemble (marks (text ++ after)) = (piece :: row) :: rows := by
  induction h with
  | nil => exact hafter
  | printed fragment _ ih =>
    rw [List.append_assoc, marks_printFragment (hprintable.writable _ List.mem_cons_self)]
    exact assemble_fragment (ih hprintable.tail) hprintable
  | short name hname hletters hnext _ ih =>
    rw [List.append_assoc, marks_short hname hletters hnext]
    exact assemble_fragment (ih hprintable.tail) hprintable

theorem assemble_of_rowWritten (h : RowWritten after row text)
    (hprintable : ∀ piece ∈ row, Printable piece)
    (hafter : assemble (marks after) = [[]] :: rows) :
    assemble (marks (text ++ after)) = row :: rows := by
  induction h with
  | last hpiece =>
    exact assemble_of_pieceWritten hpiece (hprintable _ (List.mem_singleton_self _)) hafter
  | @cons piece row text rest hpiece _ ih =>
    have hrest := ih fun piece hmem => hprintable piece (List.mem_cons_of_mem _ hmem)
    have hbar : assemble (marks ('|' :: rest ++ after)) = ([] :: row) :: rows := by
      rw [List.cons_append, marks, assemble, hrest, addPiece]
    rw [List.append_assoc]
    exact assemble_of_pieceWritten hpiece (hprintable _ List.mem_cons_self) hbar

theorem assemble_of_written (h : Written rows text) (hne : rows ≠ [])
    (hprintable : ∀ row ∈ rows, ∀ piece ∈ row, Printable piece) :
    assemble (marks text) = rows := by
  induction h with
  | nil => exact absurd rfl hne
  | @last row text hrow =>
    have hend : assemble (marks []) = [[]] :: [] := by rw [marks, assemble]
    have hread := assemble_of_rowWritten hrow (hprintable _ (List.mem_singleton_self _)) hend
    rwa [List.append_nil] at hread
  | @cons row next rows text rest hrow _ ih =>
    have hrest := ih (List.cons_ne_nil next rows) fun row hmem =>
      hprintable row (List.mem_cons_of_mem _ hmem)
    have hend : assemble (marks (';' :: rest)) = [[]] :: next :: rows := by
      rw [marks, assemble, hrest]
    exact assemble_of_rowWritten hrow (hprintable _ List.mem_cons_self) hend

theorem dropEmptyRows_eq (rows : List (List Piece)) :
    dropEmptyRows rows = rows.rdropWhile fun row => ∀ piece ∈ row, piece = [] := by
  unfold dropEmptyRows List.rdropWhile
  congr 2
  funext row
  rw [Bool.eq_iff_iff]
  simp [isEmptyRow]

/-- However rows are written, with or without braces around a name, the template has them again, up to
the last one that is not empty. -/
theorem parse_written (h : Written rows text)
    (hprintable : ∀ row ∈ rows, ∀ piece ∈ row, Printable piece) :
    parse (String.ofList text) = rows.rdropWhile fun row => ∀ piece ∈ row, piece = [] := by
  rw [← dropEmptyRows_eq, parse, String.toList_ofList]
  cases h with
  | nil =>
    rw [marks, assemble]
    rfl
  | last hrow => rw [assemble_of_written (.last hrow) (List.cons_ne_nil _ _) hprintable]
  | cons hrow hrows =>
    rw [assemble_of_written (.cons hrow hrows) (List.cons_ne_nil _ _) hprintable]

end Reading

/-- Rows of pieces that can be written are read back from what is printed of them, all but the empty
rows at their end; and so they are from any way to write them that leaves the braces off where a name
of letters and digits has something else behind it. -/
theorem parse_print {rows : List (List Piece)} (hrows : ∀ row ∈ rows, row ≠ [])
    (hprintable : ∀ row ∈ rows, ∀ piece ∈ row, Printable piece) :
    parse (print rows) = (rows.rdropWhile fun row => ∀ piece ∈ row, piece = []) ∧
      ∀ text, Written rows text → parse (String.ofList text) = parse (print rows) := by
  have hprint : parse (print rows) = rows.rdropWhile fun row => ∀ piece ∈ row, piece = [] := by
    simpa using parse_written (written_print hrows) hprintable
  refine ⟨hprint, ?_⟩
  intro text htext
  rw [hprint, parse_written htext hprintable]

/-- Two pieces with a bar in a text and one in a parameter, and two rows with nothing in them. -/
def barredRows : List (List Piece) :=
  [[[.text "a|b", .var "artist" none, .text ";"], [.var "time" (some "x|y")]], [[], []], [[]]]

/-- The empty rows are lost, and the braces make no difference in front of a backslash. -/
theorem parse_print_barredRows :
    ((∀ row ∈ barredRows, row ≠ []) ∧ ∀ row ∈ barredRows, ∀ piece ∈ row, Printable piece) ∧
      print barredRows = "a\\|b$\x7bartist\x7d\\;|$\x7btime|x|y\x7d;|;" ∧
      parse (print barredRows) = barredRows.take 1 ∧
      Written barredRows "a\\|b$artist\\;|$\x7btime|x|y\x7d;|;".toList ∧
      parse "a\\|b$artist\\;|$\x7btime|x|y\x7d;|;" = parse (print barredRows) := by
  have hrows : ∀ row ∈ barredRows, row ≠ [] := by decide
  have hprintable : ∀ row ∈ barredRows, ∀ piece ∈ row, Printable piece := by decide
  have hwritten : Written barredRows "a\\|b$artist\\;|$\x7btime|x|y\x7d;|;".toList :=
    .cons (.cons (.printed _ <| .short "artist" (by decide) (by decide) (by decide) <|
      .printed (.text ";") .nil) (.last (.printed _ .nil))) <|
    .cons (.cons .nil (.last .nil)) (.last (.last .nil))
  obtain ⟨hprint, hsame⟩ := parse_print hrows hprintable
  exact ⟨⟨hrows, hprintable⟩, by decide, hprint.trans (by decide), hwritten, hsame _ hwritten⟩

end Jukebox.Template
