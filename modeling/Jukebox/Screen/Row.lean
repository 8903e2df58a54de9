import Jukebox.Style
import Jukebox.Text.Blank
import Jukebox.Text.Grapheme
import Jukebox.Text.Ligature
import Jukebox.Text.Width

/-
# Rows of the screen

A row of the screen is a list of cells. Text is drawn into it cluster by cluster: a cluster goes
into the cell of its first column, and one that is wide hides the cells after it, which are blank in
the picture that comes of it. There are two ways of drawing. A paragraph draws what fits of its text in
one place of the row, from the left, from the right or in the middle. A line covers a row from its
first cell on and is made of spans, each of which begins where the one before it ends.
-/

namespace Jukebox.Screen

open Text

/-- How a cell looks. -/
structure Look where
  foreground : Color := .reset
  background : Color := .reset
  attributes : Attributes := {}
deriving DecidableEq, Repr

/-- The look with a style laid over it. -/
def Look.patch (look : Look) (style : Style) : Look :=
  { foreground := style.foreground.getD look.foreground
    background := style.background.getD look.background
    attributes := look.attributes.union style.attributes }

/-- A cell of the screen. -/
structure Cell where
  symbol : String := " "
  look : Look := {}
deriving DecidableEq, Repr

/-- The cell with a style laid over it. -/
def Cell.patch (cell : Cell) (style : Style) : Cell :=
  { cell with look := cell.look.patch style }

/-- Cells next to each other. -/
abbrev Row := List Cell

/-- A row in which nothing is drawn yet. -/
def blankRow (width : Nat) : Row := List.replicate width {}

/-- Lays a style over the cells of a row from `start` on. -/
def styleCells (start count : Nat) (style : Style) (row : Row) : Row :=
  row.mapIdx fun i cell => if start ≤ i ∧ i < start + count then cell.patch style else cell

/-- A piece of text in one style. -/
structure Span where
  content : String
  style : Style := {}
deriving DecidableEq, Repr

/-- How many columns a span covers. -/
def Span.width (span : Span) : Nat := textWidth span.content.toList

/-- The clusters of a span that are drawn; those with control characters are not. -/
def Span.clusters (span : Span) : List (List Char) :=
  (Text.clusters span.content.toList).filter fun cluster => !cluster.any isControl

/-- A cluster and the style it is drawn in. -/
structure StyledCluster where
  cluster : List Char
  style : Style

/-- The clusters of spans that are drawn. -/
def styledClusters (spans : List Span) : List StyledCluster :=
  spans.flatMap fun span => span.clusters.map fun cluster => { cluster, style := span.style }

/-- As many clusters as there is room for, with the columns they cover. A cluster that is wider than
all the room is passed over. -/
def cutToRoom (room : Nat) : (used : Nat) → List StyledCluster → List (Nat × StyledCluster)
  | _, [] => []
  | used, c :: rest =>
    let width := clusterWidth c.cluster
    if room < width then cutToRoom room used rest
    else if room < used + width then []
    else (width, c) :: cutToRoom room (used + width) rest

/-- Draws clusters into the cells from `start` on. -/
def drawClusters (start : Nat) : List (Nat × StyledCluster) → Row → Row
  | [], row => row
  | (width, c) :: rest, row =>
    let row :=
      if width = 0 then row
      else row.modify start fun cell =>
        { cell with symbol := String.ofList c.cluster }.patch c.style
    drawClusters (start + width) rest row

/-- Where a text stands in the place that is given to it. -/
inductive Alignment where
  | left | center | right
deriving DecidableEq, Repr

/-- How far from the start of its place a text begins. -/
def Alignment.offset (alignment : Alignment) (room width : Nat) : Nat :=
  match alignment with
  | left => 0
  | center => room / 2 - width / 2
  | right => room - width

/-- Draws a paragraph into `count` cells from `start` on: first its style over all of them, then
what fits of the text. -/
def drawParagraph (start count : Nat) (alignment : Alignment) (style : Style) (spans : List Span)
    (row : Row) : Row :=
  let visible := cutToRoom count 0 (styledClusters spans)
  let offset := alignment.offset count (totalWidth (visible.map (·.1)))
  drawClusters (start + offset) visible (styleCells start count style row)

/-- Adds a cluster to what a cell shows already. -/
def appendTo (cell : Cell) (c : List Char) (style : Style) : Cell :=
  { cell with symbol := cell.symbol ++ String.ofList c }.patch style

/-- Draws the rest of the clusters of a span that begins at `start`, of which the next one comes to
`column`. A cluster that covers no column joins the one before it. -/
def drawSpanFrom (start : Nat) (style : Style) : (isFirst : Bool) → (column : Nat) →
    List (List Char) → Row → Row
  | _, _, [], row => row
  | isFirst, column, c :: rest, row =>
    let width := clusterWidth c
    if row.length < column + width then row
    else
      let put (cell : Cell) : Cell := { cell with symbol := String.ofList c }.patch style
      let row :=
        if isFirst then row.modify column put
        else if column = start then row.modify column fun cell => appendTo cell c style
        else if width = 0 then row.modify (column - 1) fun cell => appendTo cell c style
        else row.modify column put
      let row := row.mapIdx fun i cell => if column < i ∧ i < column + width then {} else cell
      drawSpanFrom start style false (column + width) rest row

/-- Draws spans one after another. Spans that cover no column are left out. -/
def drawSpans : (column : Nat) → List Span → Row → Row
  | _, [], row => row
  | column, span :: rest, row =>
    if span.width = 0 then drawSpans column rest row
    else if row.length ≤ column then row
    else
      drawSpans (column + span.width) rest
        (drawSpanFrom column span.style true column span.clusters row)

/-- Spans in a row of their own, with a style under all of it. -/
structure Line where
  spans : List Span
  style : Style := {}
deriving DecidableEq, Repr

/-- A line in one style. Lines of the text come one after another, each as a span of its own. -/
def Line.styled (text : String) (style : Style) : Line :=
  { spans := (Text.lines text).map fun content => { content }, style }

/-- The text of a line. -/
def Line.text (line : Line) : String := String.join (line.spans.map (·.content))

/-- How many columns a line covers. -/
def Line.width (line : Line) : Nat := totalWidth (line.spans.map Span.width)

/-- Draws a line over a row. A line that covers no column leaves the row as it is. -/
def Line.draw (line : Line) (row : Row) : Row :=
  if line.width = 0 then row
  else drawSpans 0 line.spans (styleCells 0 row.length line.style row)

/-- Blanks the cells of a row that are hidden by a wide symbol before them, and tells how many more
cells are hidden after the row. So many cells at its start are hidden already. -/
def Row.hideCovered : (hidden : Nat) → Row → Row × Nat
  | hidden, [] => ([], hidden)
  | hidden + 1, _ :: rest =>
    let (rest, hidden) := Row.hideCovered hidden rest
    ({} :: rest, hidden)
  | 0, cell :: rest =>
    let (rest, hidden) := Row.hideCovered (clusterWidth cell.symbol.toList - 1) rest
    (cell :: rest, hidden)

/-- Blanks the cells of a screen that are hidden by a wide symbol before them. The rows follow one
another, so that a symbol at the end of a row can hide cells of the next one. -/
def hideCovered : (hidden : Nat) → List Row → List Row
  | _, [] => []
  | hidden, row :: rest =>
    let (row, hidden) := row.hideCovered hidden
    row :: hideCovered hidden rest

end Jukebox.Screen
