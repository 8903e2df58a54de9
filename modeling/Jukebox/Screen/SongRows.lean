import Jukebox.Screen.Columns
import Jukebox.Screen.Row
import Jukebox.Session

/-
# Songs on the screen

The list on screen is drawn as a header with the names of the columns and a row for each song that
has its place on screen. The cursor, the selection and the song that plays stand out: their rows are
in one style throughout. A song that has no tag to show is shown by its place on the server.
-/

namespace Jukebox.Screen

/-- The names of the columns. -/
def headerLine (styles : Stylesheet) (columns : List String) (widths : List Nat) : Line :=
  .styled (Columns.join (List.zipWith Columns.fit columns widths)) (styles.get "header")

/-- The cell of a column, in the style of the row or else in that of the tag. -/
def tagSpan (styles : Stylesheet) (rowStyle : Option Style) (song : Song) (column : String)
    (width : Nat) : Span :=
  let (text, style) := match song.tag? column with
    | some value => (value, styles.get column)
    | none => ("", styles.get "tagmissing")
  { content := Columns.fit text width, style := rowStyle.getD style }

/-- The line of a song that has no tag to show. -/
def untaggedLine (styles : Stylesheet) (rowStyle : Option Style) (song : Song)
    (widths : List Nat) : Line :=
  .styled (Columns.fit (song.file?.getD "") (Text.totalWidth widths + (widths.length - 1)))
    (rowStyle.getD (styles.get "alltagsmissing"))

/-- The line of a song. Its length, which every song has, does not count as a tag to show. -/
def songLine (styles : Stylesheet) (columns : List String) (widths : List Nat)
    (rowStyle : Option Style) (song : Song) : Line :=
  if song.hasOneOf (columns.filter (· ≠ "time")) then
    { spans := List.intersperse { content := " " }
        (List.zipWith (tagSpan styles rowStyle song) columns widths)
      style := rowStyle.getD (styles.get "standard") }
  else untaggedLine styles rowStyle song widths

/-- The style of a row that stands out. -/
def rowStyle? (styles : Stylesheet) (list : Songlist) (current : Option Nat) (row : Nat) :
    Option Style :=
  if row = list.cursor then some (styles.get "cursor")
  else if list.isSelected row then some (styles.get "selection")
  else if current = some row then some (styles.get "currentsong")
  else none

/-- How many songs there is room for in an area, below the header. -/
def songCount (height : Nat) : Nat := height - 1

/-- The lines of the list on screen: the header and the songs that there is room for. -/
def listLines (styles : Stylesheet) (list : Songlist) (columns : List String)
    (current : Option Nat) (width height : Nat) : List Line :=
  let widths := Columns.widths columns width
  let songs := (list.songs.drop list.offset).take (songCount height)
  headerLine styles columns widths ::
    songs.mapIdx fun i song =>
      songLine styles columns widths (rowStyle? styles list current (list.offset + i)) song

/-- The rows of the list on screen. Rows without a song are blank. -/
def drawList (styles : Stylesheet) (list : Songlist) (columns : List String)
    (current : Option Nat) (width height : Nat) : List Row :=
  let standard := styles.get "standard"
  let blank := styleCells 0 width standard (blankRow width)
  let drawn := (listLines styles list columns current width height).map fun line =>
    line.draw (styleCells 0 width standard blank)
  (drawn ++ List.replicate (height - drawn.length) blank).take height

end Jukebox.Screen
