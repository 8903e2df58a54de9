import Jukebox.Songlist.Browser

/-
# Operations on song lists

All that can be done to song lists is listed here: to the list on screen, and to the lists as a whole.
Each operation can be read in two ways. As it is carried out it has a result whatever the lists look
like, because a row that is not there is passed over and a list that is not there is taken for an empty
one. Read strictly, it looks for songs and lists one at a time, and has no result as soon as it looks
for one that is not there. While cursors, marks and the place of the active list are within bounds, the
two readings are the same.
-/

namespace Jukebox

namespace Songlist

/-! ### The strict reading of a list -/

/-- Goes up from a row as long as the song above satisfies `p`. -/
def firstOfRun? (p : Song → Bool) (songs : List Song) : (row : Nat) → Option Nat
  | 0 => some 0
  | row + 1 => do
    let above ← songs[row]?
    if p above then firstOfRun? p songs row else return row + 1

/-- Goes down from a row, at most so many rows, as long as the song below satisfies `p`. -/
def lastOfRun? (p : Song → Bool) (songs : List Song) : (rest row : Nat) → Option Nat
  | 0, row => some row
  | rest + 1, row => do
    let below ← songs[row + 1]?
    if p below then lastOfRun? p songs rest (row + 1) else return row

/-- Marks the songs around the cursor that have the same tags as the song under it, reading them one
by one. -/
def selectNearby? (list : Songlist) (tags : List String) : Option Songlist :=
  match list.cursorSong? with
  | none => some list
  | some current => do
    let first ← firstOfRun? (agree tags · current) list.songs list.cursor
    let last ← lastOfRun? (agree tags · current) list.songs (list.size - 1 - list.cursor) list.cursor
    let rows := List.range' first (last + 1 - first)
    return { list with marked := list.marked ++ rows.filter fun row => !list.marked.contains row }

/-- Where the group begins that the song in a row belongs to. -/
def groupStart? (list : Songlist) (tag : String) (row : Nat) : Option Nat := do
  let song ← list.songs[row]?
  firstOfRun? (fun other => other.sortTag tag == song.sortTag tag) list.songs row

/-- Where the group of the cursor begins, or the one before it. -/
def prevOf? (list : Songlist) (tag : String) : Option Nat :=
  if list.cursor = 0 ∨ list.isEmpty then some 0
  else do
    let start ← list.groupStart? tag list.cursor
    if start < list.cursor then return start else list.groupStart? tag (list.cursor - 1)

/-- Cuts a list in two before a row, which may be the one after the last. -/
def splitRows? (songs : List Song) (row : Nat) : Option (List Song × List Song) :=
  if row ≤ songs.length then some (songs.splitAt row) else none

/-- Puts songs before a row, or at the end if there is no such row. -/
def insert? (list : Songlist) (row : Nat) (songs : List Song) : Option Songlist := do
  let row := min row list.size
  let (above, below) ← splitRows? list.songs row
  let longer := { list with songs := above ++ songs ++ below }.clearSelection
  return if songs.isEmpty then longer else longer.setCursor row

/-- The selected songs, or the song under the cursor if none is selected. -/
def selectedSongs? (list : Songlist) : Option (List Song) :=
  if list.selection.isEmpty then some list.cursorSong?.toList
  else list.selection.mapM fun row => list.songs[row]?

/-- What can be done to a list. -/
inductive Edit where
  | setCursor (row : Nat)
  | moveCursor (rows : Int)
  | nextOf (tag : String)
  | prevOf (tag : String)
  | toggleVisual
  | toggleMark (row : Nat)
  | selectNearby (tags : List String)
  | clearSelection
  | replace (songs : List Song)
  | removeRows (rows : List Nat)
  | insert (row : Nat) (songs : List Song)
  | sortByTags (tags : List String)

/-- Carries out an edit. -/
def Edit.apply : Edit → Songlist → Songlist
  | setCursor row, list => list.setCursor row
  | moveCursor rows, list => list.moveCursor rows
  | nextOf tag, list => list.setCursor (list.nextOf tag)
  | prevOf tag, list => list.setCursor (list.prevOf tag)
  | toggleVisual, list => list.toggleVisual
  | toggleMark row, list => list.toggleMark row
  | selectNearby tags, list => list.selectNearby tags
  | clearSelection, list => list.clearSelection
  | replace songs, list => list.replace songs
  | removeRows rows, list => (list.removeRows rows).2
  | insert row songs, list => list.insert row songs
  | sortByTags tags, list => list.sortByTags tags

/-- Carries out an edit read strictly. Only some edits look for songs by their rows. -/
def Edit.apply? : Edit → Songlist → Option Songlist
  | prevOf tag, list => (list.prevOf? tag).map list.setCursor
  | selectNearby tags, list => list.selectNearby? tags
  | insert row songs, list => list.insert? row songs
  | edit, list => some (edit.apply list)

/-! ### Bounds of a list -/

/-- The cursor is on a row, or on the first one of an empty list, and all marks are on rows. -/
structure InBounds (list : Songlist) : Prop where
  cursor_lt : 0 < list.size → list.cursor < list.size
  cursor_eq_zero : list.size = 0 → list.cursor = 0
  marked : ∀ row ∈ list.marked, row < list.size

theorem inBounds_fresh (name : String) (kind : ListKind) (songs : List Song) :
    InBounds { name, kind, songs } := ⟨id, fun _ => rfl, nofun⟩

/-- Wherever the cursor is put, it is put on a row. -/
theorem inBounds_setCursor {list : Songlist} (h : ∀ marked ∈ list.marked, marked < list.size)
    (row : Nat) : (list.setCursor row).InBounds := by
  refine ⟨fun hsize => ?_, fun hsize => ?_, h⟩
  · change 0 < list.size at hsize
    change min row (list.size - 1) < list.size
    omega
  · change list.size = 0 at hsize
    change min row (list.size - 1) = 0
    omega

theorem inBounds_setCursor_clearSelection (list : Songlist) (row : Nat) :
    (list.clearSelection.setCursor row).InBounds := by
  apply inBounds_setCursor
  intro marked hmarked
  cases hmarked

theorem InBounds.clearSelection {list : Songlist} (h : list.InBounds) :
    list.clearSelection.InBounds := ⟨h.cursor_lt, h.cursor_eq_zero, nofun⟩

variable {list : Songlist}

theorem length_runBefore_le (p : Song → Bool) (list : Songlist) (row : Nat) :
    list.runBefore p row ≤ row := by
  have htake : (list.songs.take row).reverse.length ≤ row := by
    rw [List.length_reverse, List.length_take]
    exact Nat.min_le_left row _
  exact Nat.le_trans (List.takeWhile_sublist p).length_le htake

theorem length_runAfter_le (p : Song → Bool) (list : Songlist) (row : Nat) :
    list.runAfter p row ≤ list.size - (row + 1) := by
  have hdrop : (list.songs.drop (row + 1)).length = list.size - (row + 1) := List.length_drop
  exact hdrop ▸ (List.takeWhile_sublist p).length_le

theorem InBounds.selectNearby (h : list.InBounds) (tags : List String) :
    (list.selectNearby tags).InBounds := by
  unfold Songlist.selectNearby
  split
  · exact h
  · next current hcurrent =>
    have hcursor : list.cursor < list.size := (List.getElem?_eq_some_iff.1 hcurrent).1
    refine ⟨h.cursor_lt, h.cursor_eq_zero, fun row hrow => ?_⟩
    rcases List.mem_append.1 hrow with hold | hnew
    · exact h.marked row hold
    · have hbefore := list.length_runBefore_le (agree tags · current) list.cursor
      have hafter := list.length_runAfter_le (agree tags · current) list.cursor
      have hrange := List.mem_range'_1.1 (List.mem_filter.1 hnew).1
      change row < list.size
      omega

/-- Every edit keeps a list within bounds. -/
theorem InBounds.apply (h : list.InBounds) (edit : Edit) : (edit.apply list).InBounds := by
  cases edit with
  | setCursor | moveCursor | nextOf | prevOf => exact inBounds_setCursor h.marked _
  | toggleVisual =>
    simp only [Edit.apply, Songlist.toggleVisual]
    split <;> exact ⟨h.cursor_lt, h.cursor_eq_zero, h.marked⟩
  | toggleMark row =>
    simp only [Edit.apply, Songlist.toggleMark]
    split
    · next hrow =>
      split
      · refine ⟨h.cursor_lt, h.cursor_eq_zero, fun other hother => ?_⟩
        exact h.marked other (List.mem_filter.1 hother).1
      · exact ⟨h.cursor_lt, h.cursor_eq_zero, List.forall_mem_cons.2 ⟨hrow, h.marked⟩⟩
    · exact h
  | selectNearby tags => exact h.selectNearby tags
  | clearSelection => exact h.clearSelection
  | replace songs => exact inBounds_setCursor_clearSelection _ _
  | removeRows rows =>
    simp only [Edit.apply, Songlist.removeRows]
    split
    · exact h
    · exact inBounds_setCursor_clearSelection _ _
  | insert row songs =>
    simp only [Edit.apply, Songlist.insert]
    split
    · next hempty =>
      have hsame : list.songs.take (min row list.size) ++ songs ++
          list.songs.drop (min row list.size) = list.songs := by
        rw [List.isEmpty_iff.1 hempty, List.append_nil, List.take_append_drop]
      rw [hsame]
      exact h.clearSelection
    · exact inBounds_setCursor_clearSelection _ _
  | sortByTags tags => exact ⟨id, fun _ => rfl, nofun⟩

/-! ### The two readings of an edit -/

theorem firstOfRun?_eq (p : Song → Bool) {row : Nat} (h : row ≤ list.size) :
    firstOfRun? p list.songs row = some (row - list.runBefore p row) := by
  induction row with
  | zero => rfl
  | succ row ih =>
    have hrow : row < list.songs.length := h
    have hrun : list.runBefore p (row + 1) =
        if p list.songs[row] then list.runBefore p row + 1 else 0 := by
      unfold runBefore
      rw [List.take_succ_eq_append_getElem hrow, List.reverse_append, List.reverse_singleton,
        List.singleton_append, List.takeWhile_cons]
      split <;> rfl
    rw [firstOfRun?, List.getElem?_eq_getElem hrow, hrun]
    by_cases hp : p list.songs[row]
    · simp only [hp, if_true, Option.bind_eq_bind, Option.bind_some, Nat.add_sub_add_right]
      exact ih (Nat.le_of_lt hrow)
    · simp [hp]

theorem lastOfRun?_eq (p : Song → Bool) {rest row : Nat} (h : row + rest + 1 = list.size) :
    lastOfRun? p list.songs rest row = some (row + list.runAfter p row) := by
  induction rest generalizing row with
  | zero =>
    have hdrop : list.songs.drop (row + 1) = [] := List.drop_eq_nil_of_le (Nat.le_of_eq h.symm)
    simp [lastOfRun?, runAfter, hdrop]
  | succ rest ih =>
    have hrow : row + 1 < list.songs.length := by
      change row + 1 < list.size
      omega
    have hrun : list.runAfter p row =
        if p list.songs[row + 1] then list.runAfter p (row + 1) + 1 else 0 := by
      unfold runAfter
      rw [List.drop_eq_getElem_cons hrow, List.takeWhile_cons]
      split <;> rfl
    rw [lastOfRun?, List.getElem?_eq_getElem hrow, hrun]
    by_cases hp : p list.songs[row + 1]
    · simp only [hp, if_true, Option.bind_eq_bind, Option.bind_some]
      rw [ih (by omega), Nat.add_assoc, Nat.add_comm 1]
    · simp [hp]

theorem selectNearby?_eq (list : Songlist) (tags : List String) :
    list.selectNearby? tags = some (list.selectNearby tags) := by
  unfold selectNearby? selectNearby
  cases hcurrent : list.cursorSong? with
  | none => rfl
  | some current =>
    have hcursor : list.cursor < list.size := (List.getElem?_eq_some_iff.1 hcurrent).1
    have hbefore := list.length_runBefore_le (agree tags · current) list.cursor
    have hrows : list.cursor + list.runAfter (agree tags · current) list.cursor + 1 -
          (list.cursor - list.runBefore (agree tags · current) list.cursor) =
        list.runBefore (agree tags · current) list.cursor + 1 +
          list.runAfter (agree tags · current) list.cursor := by omega
    dsimp only
    rw [firstOfRun?_eq _ (Nat.le_of_lt hcursor), lastOfRun?_eq _ (by omega)]
    simp only [Option.bind_eq_bind, Option.bind_some, hrows]
    rfl

theorem groupStart?_eq {row : Nat} (h : row < list.size) (tag : String) :
    list.groupStart? tag row = some (list.groupStart tag row) := by
  have hrow : row < list.songs.length := h
  unfold groupStart? groupStart
  rw [List.getElem?_eq_getElem hrow]
  exact firstOfRun?_eq _ (Nat.le_of_lt h)

theorem InBounds.prevOf?_eq (h : list.InBounds) (tag : String) :
    list.prevOf? tag = some (list.prevOf tag) := by
  unfold prevOf? prevOf
  by_cases hfirst : list.cursor = 0 ∨ list.isEmpty
  · rw [if_pos hfirst, if_pos hfirst]
  · have hcursor : list.cursor < list.size := by
      apply h.cursor_lt
      apply Nat.pos_of_ne_zero
      intro hnone
      exact hfirst (.inr (List.isEmpty_iff_length_eq_zero.2 hnone))
    rw [if_neg hfirst, if_neg hfirst, groupStart?_eq hcursor, groupStart?_eq (by omega)]
    simp only [Option.bind_eq_bind, Option.bind_some]
    split <;> rfl

theorem insert?_eq (list : Songlist) (row : Nat) (songs : List Song) :
    list.insert? row songs = some (list.insert row songs) := by
  have hrow : min row list.size ≤ list.songs.length := Nat.min_le_right row list.size
  simp only [insert?, splitRows?, if_pos hrow, List.splitAt_eq]
  rfl

theorem selectedSongs?_eq (list : Songlist) : list.selectedSongs? = some list.selectedSongs := by
  have hall : ∀ rows : List Nat, (∀ row ∈ rows, row < list.size) →
      rows.mapM (fun row => list.songs[row]?) = some (list.songsAt rows) := by
    intro rows
    induction rows with
    | nil => exact fun _ => rfl
    | cons row rows ih =>
      intro hrows
      rw [List.forall_mem_cons] at hrows
      have hlt : row < list.songs.length := hrows.1
      have hrow : list.songs[row]? = some list.songs[row] := List.getElem?_eq_getElem hlt
      have hsongs : list.songsAt (row :: rows) = list.songs[row] :: list.songsAt rows :=
        List.filterMap_cons_some hrow
      rw [List.mapM_cons, ih hrows.2, hsongs, hrow]
      rfl
  unfold selectedSongs? selectedSongs
  split
  · rfl
  · exact hall list.selection fun row hrow => (mem_selection.1 hrow).1

/-- Within bounds an edit finds all the songs that it looks for. -/
theorem InBounds.apply?_eq (h : list.InBounds) (edit : Edit) :
    edit.apply? list = some (edit.apply list) := by
  cases edit with
  | prevOf tag => exact congrArg (Option.map list.setCursor) (h.prevOf?_eq tag)
  | selectNearby tags => exact list.selectNearby?_eq tags
  | insert row songs => exact list.insert?_eq row songs
  | _ => rfl

end Songlist

end Jukebox
