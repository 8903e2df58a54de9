import Jukebox.Text.Width

/-
# Columns of song lists

A song is shown as one cell for each column, with a blank between cells. Some tags have a fixed
width; the other columns share what is left of the line, and those further left get one more where it
does not come out even. A text that does not fit its cell is cut and marked as cut.
-/

namespace Jukebox.Columns

/-- A text made exactly `width` characters long: filled up with blanks, or cut. Where there is room
for it, three dots mark the cut. -/
def fit (text : String) (width : Nat) : String :=
  if width < text.length then
    if width ≤ 3 then String.ofList (text.toList.take width)
    else String.ofList (text.toList.take (width - 3)) ++ "..."
  else text ++ String.ofList (List.replicate (width - text.length) ' ')

/-- The width of columns whose values have a known length. -/
def fixedWidth? : String → Option Nat
  | "track" | "disc" => some 5
  | "year" => some 4
  | "time" => some 7
  | _ => none

/-- Gives each column its fixed width, or else the share; the first `extra` of the latter get one
more. -/
def spread (share : Nat) : (extra : Nat) → List String → List Nat
  | _, [] => []
  | extra, column :: columns =>
    match fixedWidth? column with
    | some width => width :: spread share extra columns
    | none => (share + min extra 1) :: spread share (extra - 1) columns

/-- The widths of columns that share a line of some width. -/
def widths (columns : List String) (width : Nat) : List Nat :=
  let fixed := Text.totalWidth (columns.filterMap fixedWidth?)
  let flexible := columns.countP fun column => (fixedWidth? column).isNone
  let remaining := width - (fixed + (columns.length - 1))
  spread (remaining / flexible) (remaining % flexible) columns

/-- Cells next to each other, with a blank between them. -/
def join (cells : List String) : String := String.intercalate " " cells

end Jukebox.Columns
