import Jukebox.Song

/-
# Song lists

A list of songs with a cursor, a scroll offset and a selection. The selection is made of rows marked
one by one and of a range that stretches from an anchor to the cursor. Whatever changes the songs
drops the selection, because it refers to rows, and brings the cursor back into the list.
-/

namespace Jukebox

/-- What a list holds. -/
inductive ListKind where
  /-- The queue of the server. -/
  | queue
  /-- Every song of the server. -/
  | library
  /-- The result of a search. -/
  | search
  /-- A list that the user derived. -/
  | custom
deriving DecidableEq, Repr, Inhabited

/-- Songs in order, with the marks of whoever looks at them. -/
structure Songlist where
  name : String
  kind : ListKind
  songs : List Song := []
  cursor : Nat := 0
  /-- The first row on screen. -/
  offset : Nat := 0
  /-- The rows marked one by one. -/
  marked : List Nat := []
  /-- Where the range began, while there is one. -/
  anchor : Option Nat := none
deriving DecidableEq, Repr, Inhabited

namespace Songlist

/-- The number of songs. -/
def size (list : Songlist) : Nat := list.songs.length

/-- Whether there is no song. -/
def isEmpty (list : Songlist) : Bool := list.songs.isEmpty

/-- The song under the cursor; only an empty list has none. -/
def cursorSong? (list : Songlist) : Option Song := list.songs[list.cursor]?

/-- Puts the cursor on a row, or on the last one if there is no such row. -/
def setCursor (list : Songlist) (row : Nat) : Songlist :=
  { list with cursor := min row (list.size - 1) }

/-- Moves the cursor by some rows, as far as the list goes. -/
def moveCursor (list : Songlist) (rows : Int) : Songlist :=
  list.setCursor (list.cursor + rows).toNat

/-- Drops the marks and the range. -/
def clearSelection (list : Songlist) : Songlist :=
  { list with marked := [], anchor := none }

/-- Puts other songs in, with the cursor on the row it was on if there is such a row. -/
def replace (list : Songlist) (songs : List Song) : Songlist :=
  ({ list with songs := songs }.clearSelection).setCursor list.cursor

/-- Whether a range is being selected. -/
def inVisualMode (list : Songlist) : Bool := list.anchor.isSome

/-- Begins a range at the cursor, or ends the one there is. -/
def toggleVisual (list : Songlist) : Songlist :=
  match list.anchor with
  | some _ => { list with anchor := none }
  | none => { list with anchor := some list.cursor }

/-- Whether a row lies in the range. -/
def inRange (list : Songlist) (row : Nat) : Bool :=
  match list.anchor with
  | some anchor => min anchor list.cursor ≤ row && row ≤ max anchor list.cursor
  | none => false

/-- Whether a row is marked or lies in the range. -/
def isSelected (list : Songlist) (row : Nat) : Bool :=
  list.marked.contains row || list.inRange row

/-- Marks a row, or takes its mark away. -/
def toggleMark (list : Songlist) (row : Nat) : Songlist :=
  if row < list.size then
    if list.marked.contains row then { list with marked := list.marked.filter (· ≠ row) }
    else { list with marked := row :: list.marked }
  else list

/-- Whether two songs have the same sorting form of every tag. -/
def agree (tags : List String) (a b : Song) : Bool :=
  tags.all fun tag => a.sortTag tag == b.sortTag tag

/-- How many songs before a row, going back from it, satisfy `p` without a gap. -/
def runBefore (p : Song → Bool) (list : Songlist) (row : Nat) : Nat :=
  ((list.songs.take row).reverse.takeWhile p).length

/-- How many songs after a row satisfy `p` without a gap. -/
def runAfter (p : Song → Bool) (list : Songlist) (row : Nat) : Nat :=
  ((list.songs.drop (row + 1)).takeWhile p).length

/-- Marks the songs around the cursor that have the same tags as the song under it. -/
def selectNearby (list : Songlist) (tags : List String) : Songlist :=
  match list.cursorSong? with
  | none => list
  | some current =>
    let before := list.runBefore (agree tags · current) list.cursor
    let after := list.runAfter (agree tags · current) list.cursor
    let rows := List.range' (list.cursor - before) (before + 1 + after)
    { list with marked := list.marked ++ rows.filter fun row => !list.marked.contains row }

/-- The rows of the range, whether there are such rows or not. -/
def rangeRows (list : Songlist) : List Nat :=
  match list.anchor with
  | some anchor =>
    let first := min anchor list.cursor
    List.range' first (max anchor list.cursor + 1 - first)
  | none => []

/-- Puts a row in its place among rising rows, unless it is there. -/
def insertRow (row : Nat) : List Nat → List Nat
  | [] => [row]
  | first :: rows =>
    if row < first then row :: first :: rows
    else if row = first then first :: rows
    else first :: insertRow row rows

/-- The selected rows from the top: those marked one by one and those of the range, each of them once,
as far as there are such rows. -/
def selection (list : Songlist) : List Nat :=
  ((list.marked ++ list.rangeRows).foldr insertRow []).filter (· < list.size)

/-- The songs in some rows. -/
def songsAt (list : Songlist) (rows : List Nat) : List Song :=
  rows.filterMap fun row => list.songs[row]?

/-- The selected songs, or the song under the cursor if none is selected. -/
def selectedSongs (list : Songlist) : List Song :=
  if list.selection.isEmpty then list.cursorSong?.toList
  else list.songsAt list.selection

/-- The rows that commands act on: the selected ones, or the row of the cursor. -/
def targetRows (list : Songlist) : List Nat :=
  if list.selection.isEmpty && !list.isEmpty then [list.cursor] else list.selection

/-- What is in the rows that satisfy `p`, counting rows from `start`. -/
def keepRows {α : Type} (p : Nat → Bool) : (start : Nat) → List α → List α
  | _, [] => []
  | row, song :: songs =>
    if p row then song :: keepRows p (row + 1) songs else keepRows p (row + 1) songs

/-- Takes rows out of the list and gives the songs that were in them. The cursor goes to what
follows the first of them. Rows that do not exist are ignored. -/
def removeRows (list : Songlist) (rows : List Nat) : List Song × Songlist :=
  let rows := rows.filter (· < list.size)
  match rows.min? with
  | none => ([], list)
  | some first =>
    (keepRows rows.contains 0 list.songs,
      ({ list with songs := keepRows (!rows.contains ·) 0 list.songs }.clearSelection).setCursor
        first)

/-- Puts songs before a row, or at the end if there is no such row. The cursor goes to the first of
them. -/
def insert (list : Songlist) (row : Nat) (songs : List Song) : Songlist :=
  let row := min row list.size
  let longer := { list with
    songs := list.songs.take row ++ songs ++ list.songs.drop row }.clearSelection
  if songs.isEmpty then longer else longer.setCursor row

/-- The first row after the cursor whose tag differs from the tag under the cursor, or else the last
row. -/
def nextOf (list : Songlist) (tag : String) : Nat :=
  match list.cursorSong? with
  | none => 0
  | some current =>
    let run := list.runAfter (fun song => song.sortTag tag == current.sortTag tag) list.cursor
    min (list.cursor + 1 + run) (list.size - 1)

/-- The first row of the songs up to `row` that have the same tag as the song in it. -/
def groupStart (list : Songlist) (tag : String) (row : Nat) : Nat :=
  match list.songs[row]? with
  | none => row
  | some song => row - list.runBefore (fun other => other.sortTag tag == song.sortTag tag) row

/-- Where the group of songs with the same tag as the song under the cursor begins. If that is the
row of the cursor already, where the group before it begins. -/
def prevOf (list : Songlist) (tag : String) : Nat :=
  if list.cursor = 0 ∨ list.isEmpty then 0
  else
    let start := list.groupStart tag list.cursor
    if start < list.cursor then start else list.groupStart tag (list.cursor - 1)

/-- Orders songs by a tag; songs with equal tags stay as they are. -/
def sortByTag (songs : List Song) (tag : String) : List Song :=
  songs.mergeSort fun a b => Text.notAfter (a.sortTag tag) (b.sortTag tag)

/-- Orders the list by several tags, of which the first counts most. -/
def sortByTags (list : Songlist) (tags : List String) : Songlist :=
  { list with
    songs := tags.reverse.foldl sortByTag list.songs
    cursor := 0, offset := 0 }.clearSelection

/-- The row of the queue entry with an id. -/
def positionOf? (list : Songlist) (id : Nat) : Option Nat :=
  list.songs.findIdx? fun song => song.id == some id

/-- The first row of a song by its place on the server. -/
def positionOfFile? (list : Songlist) (file : String) : Option Nat :=
  list.songs.findIdx? fun song => song.file? == some file

/-- Scrolls so that the cursor is among `height` rows on screen, in the middle of them if asked for,
and no row stays blank that could show a song. -/
def scrollToCursor (list : Songlist) (height : Nat) (center : Bool) : Songlist :=
  if height = 0 then list
  else
    let offset :=
      if center then list.cursor - height / 2
      else if list.cursor < list.offset then list.cursor
      else if list.offset + height ≤ list.cursor then list.cursor + 1 - height
      else list.offset
    { list with offset := min offset (list.size - height) }

/-- The songs that contain the term in some tag, as a list of its own. -/
def filter (list : Songlist) (name term : String) : Songlist :=
  let needle := Text.lowercase term
  { name, kind := .search, songs := list.songs.filter (·.isMatch needle) }

/-- The songs that agree with a song on all tags, as a list named for what they share. -/
def isolate (list : Songlist) (song : Song) (tags : List String) : Songlist :=
  { name := String.intercalate " - " (tags.map fun tag => (song.tag? tag).getD "<unknown>")
    kind := .custom
    songs := list.songs.filter (agree tags · song) }

@[simp] theorem songs_clearSelection (list : Songlist) :
    list.clearSelection.songs = list.songs := rfl

@[simp] theorem size_clearSelection (list : Songlist) : list.clearSelection.size = list.size := rfl

@[simp] theorem songs_setCursor (list : Songlist) (row : Nat) :
    (list.setCursor row).songs = list.songs := rfl

@[simp] theorem cursor_setCursor (list : Songlist) (row : Nat) :
    (list.setCursor row).cursor = min row (list.size - 1) := rfl

@[simp] theorem songs_moveCursor (list : Songlist) (rows : Int) :
    (list.moveCursor rows).songs = list.songs := rfl

@[simp] theorem songs_replace (list : Songlist) (songs : List Song) :
    (list.replace songs).songs = songs := rfl

@[simp] theorem isSelected_clearSelection (list : Songlist) (row : Nat) :
    list.clearSelection.isSelected row = false := by
  simp [isSelected, inRange, clearSelection]

theorem mem_rangeRows {list : Songlist} {row : Nat} :
    row ∈ list.rangeRows ↔ list.inRange row = true := by
  unfold rangeRows inRange
  cases list.anchor with
  | none => simp
  | some anchor =>
    simp only [List.mem_range'_1, Bool.and_eq_true, decide_eq_true_eq]
    omega

theorem mem_insertRow {row other : Nat} {rows : List Nat} :
    other ∈ insertRow row rows ↔ other = row ∨ other ∈ rows := by
  induction rows with
  | nil => simp [insertRow]
  | cons first rows ih =>
    unfold insertRow
    split
    · exact List.mem_cons
    · split
      · next hrow => simp [hrow]
      · rw [List.mem_cons, List.mem_cons, ih, or_left_comm]

/-- A row that is put in its place leaves the rows rising. -/
theorem pairwise_insertRow {rows : List Nat} (h : rows.Pairwise (· < ·)) (row : Nat) :
    (insertRow row rows).Pairwise (· < ·) := by
  induction rows with
  | nil => exact List.pairwise_singleton _ row
  | cons first rows ih =>
    obtain ⟨hfirst, hrows⟩ := List.pairwise_cons.1 h
    unfold insertRow
    split
    · next hrow =>
      refine List.pairwise_cons.2 ⟨fun other hother => ?_, h⟩
      rcases List.mem_cons.1 hother with rfl | hother
      · exact hrow
      · exact Nat.lt_trans hrow (hfirst other hother)
    · split
      · exact h
      · refine List.pairwise_cons.2 ⟨fun other hother => ?_, ih hrows⟩
        rcases mem_insertRow.1 hother with rfl | hother
        · omega
        · exact hfirst other hother

theorem mem_foldr_insertRow {rows : List Nat} {row : Nat} :
    row ∈ rows.foldr insertRow [] ↔ row ∈ rows := by
  induction rows with
  | nil => exact Iff.rfl
  | cons first rows ih => rw [List.foldr_cons, mem_insertRow, ih, List.mem_cons]

theorem pairwise_foldr_insertRow (rows : List Nat) :
    (rows.foldr insertRow []).Pairwise (· < ·) := by
  induction rows with
  | nil => exact List.Pairwise.nil
  | cons first rows ih => exact pairwise_insertRow ih first

/-- To be selected is to be marked or to lie in the range. -/
theorem mem_selection {list : Songlist} {row : Nat} :
    row ∈ list.selection ↔ row < list.size ∧ list.isSelected row = true := by
  unfold selection isSelected
  rw [List.mem_filter, mem_foldr_insertRow, List.mem_append, mem_rangeRows]
  simp [and_comm]

theorem pairwise_selection (list : Songlist) : list.selection.Pairwise (· < ·) :=
  (pairwise_foldr_insertRow _).filter _

theorem perm_sortByTag (songs : List Song) (tag : String) :
    (sortByTag songs tag).Perm songs :=
  List.mergeSort_perm _ _

end Songlist

end Jukebox
