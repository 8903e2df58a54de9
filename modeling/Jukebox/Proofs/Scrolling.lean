import Jukebox.Proofs.ListBounds

/-
# Scrolling to the cursor

A list shows as many of its rows as there is room for, from some first row on. That row may be anything
before the screen is drawn: the cursor was moved, songs have gone, or there was more room before.
Scrolling puts it right in one go. The cursor is on screen afterwards, and no row stays blank as long as
there are songs to fill it. So there is nothing left to do a second time, and a list that was right from
the start stays where it is, unless the cursor is wanted in the middle.
-/

namespace Jukebox

namespace Songlist

/-- With room for so many rows the cursor is on screen, and no row is blank that could show a song. -/
structure FillsScreen (list : Songlist) (height : Nat) : Prop where
  offset_le_cursor : 0 < list.size → list.offset ≤ list.cursor
  cursor_lt : 0 < list.size → list.cursor < list.offset + height
  offset_le : list.offset ≤ list.size - height

/-- The row to begin with for the sake of the cursor, whether blank rows come of it or not. -/
def aimedRow (list : Songlist) (height : Nat) (center : Bool) : Nat :=
  if center then list.cursor - height / 2
  else if list.cursor < list.offset then list.cursor
  else if list.offset + height ≤ list.cursor then list.cursor + 1 - height
  else list.offset

variable {list : Songlist} {height : Nat}

theorem scrollToCursor_eq (hheight : 0 < height) (center : Bool) :
    list.scrollToCursor height center =
      { list with offset := min (list.aimedRow height center) (list.size - height) } :=
  if_neg (Nat.ne_of_gt hheight)

/-- A list that fits on the screen is shown from its first row, and it does not matter what was aimed at. -/
theorem scrollToCursor_of_size_le (hheight : 0 < height) (hfits : list.size ≤ height) (center : Bool) :
    list.scrollToCursor height center = { list with offset := 0 } := by
  rw [scrollToCursor_eq hheight, Nat.sub_eq_zero_of_le hfits, Nat.min_zero]

/-- Wherever the list was, the cursor is on screen from there. -/
theorem aimedRow_le_and_lt (list : Songlist) (hheight : 0 < height) (center : Bool) :
    list.aimedRow height center ≤ list.cursor ∧
      list.cursor < list.aimedRow height center + height := by
  unfold aimedRow
  cases center with
  | true => simp only [if_true]; omega
  | false =>
    rw [if_neg Bool.false_ne_true]
    split
    · omega
    · split <;> omega

/-- To leave no row blank cannot push the cursor off the screen, for it is on a row of the list and all
rows from there to the last are shown then. -/
theorem fillsScreen_scrollToCursor (hcursor : 0 < list.size → list.cursor < list.size)
    (hheight : 0 < height) (center : Bool) :
    (list.scrollToCursor height center).FillsScreen height := by
  obtain ⟨hle, hlt⟩ := list.aimedRow_le_and_lt hheight center
  rw [scrollToCursor_eq hheight]
  constructor
  · intro _
    exact Nat.le_trans (Nat.min_le_left _ _) hle
  · intro hsize
    have hrow : list.cursor < list.size := hcursor hsize
    change list.cursor < min (list.aimedRow height center) (list.size - height) + height
    omega
  · exact Nat.min_le_right _ _

/-- Where the cursor is on screen already, the row is as good as any. -/
theorem aimedRow_eq_offset (hle : list.offset ≤ list.cursor)
    (hlt : list.cursor < list.offset + height) : list.aimedRow height false = list.offset := by
  rw [aimedRow, if_neg Bool.false_ne_true, if_neg (Nat.not_lt.2 hle), if_neg (Nat.not_le.2 hlt)]

/-- The list is scrolled up only to a cursor above the screen. -/
theorem offset_le_aimedRow (hle : list.offset ≤ list.cursor) :
    list.offset ≤ list.aimedRow height false := by
  rw [aimedRow, if_neg Bool.false_ne_true, if_neg (Nat.not_lt.2 hle)]
  split <;> omega

/-- A list that fills the screen stays where it is. -/
theorem FillsScreen.scrollToCursor_eq_self (h : list.FillsScreen height) :
    list.scrollToCursor height false = list := by
  rcases Nat.eq_zero_or_pos height with rfl | hheight
  · rfl
  · have hoffset : min (list.aimedRow height false) (list.size - height) = list.offset := by
      have hle := h.offset_le
      rcases Nat.eq_zero_or_pos list.size with hempty | hsize
      · omega
      · rw [aimedRow_eq_offset (h.offset_le_cursor hsize) (h.cursor_lt hsize), Nat.min_eq_left hle]
    rw [scrollToCursor_eq hheight, hoffset]

/-- From the row that was found the same row is found again. -/
theorem min_aimedRow_min (list : Songlist) (hheight : 0 < height) (center : Bool) (most : Nat) :
    min (aimedRow { list with offset := min (list.aimedRow height center) most } height center) most =
      min (list.aimedRow height center) most := by
  cases center with
  | true => rfl
  | false =>
    obtain ⟨hle, hlt⟩ := list.aimedRow_le_and_lt hheight false
    rcases Nat.le_total (list.aimedRow height false) most with hfits | hblank
    · rw [Nat.min_eq_left hfits, aimedRow_eq_offset hle hlt]
      exact Nat.min_eq_left hfits
    · have hbelow : most ≤ list.cursor := Nat.le_trans hblank hle
      rw [Nat.min_eq_right hblank]
      exact Nat.min_eq_right (@offset_le_aimedRow { list with offset := most } height hbelow)

/-- Once is enough, even for a cursor that is on no row. -/
theorem scrollToCursor_scrollToCursor (list : Songlist) (height : Nat) (center : Bool) :
    (list.scrollToCursor height center).scrollToCursor height center =
      list.scrollToCursor height center := by
  rcases Nat.eq_zero_or_pos height with rfl | hheight
  · rfl
  · rw [scrollToCursor_eq hheight, scrollToCursor_eq hheight]
    exact congrArg (fun offset => { list with offset })
      (list.min_aimedRow_min hheight center (list.size - height))

end Songlist

namespace Browser

variable {b : Browser} {f : Songlist → Songlist}

/-- Even where no list is there to be changed, the empty one in its place looks the same to a change
that leaves it alone. -/
theorem shown_modifyShown_of_empty (hf : f { name := "Queue", kind := .queue } =
    { name := "Queue", kind := .queue }) : (b.modifyShown f).shown = f b.shown := by
  by_cases hactive : b.active < b.count
  · exact shown_modifyShown f hactive
  · have hnone : b.lists[b.active]? = none := List.getElem?_eq_none (Nat.le_of_not_lt hactive)
    cases hsearch : b.search with
    | some search => simp [modifyShown, shown, hsearch]
    | none => simp [modifyShown, shown, hsearch, activeList, hnone, hf]

/-- A change that does no more a second time does so to the list on screen. -/
theorem modifyShown_modifyShown (b : Browser) (hf : ∀ list, f (f list) = f list) :
    (b.modifyShown f).modifyShown f = b.modifyShown f := by
  have hcomp : f ∘ f = f := funext hf
  rw [modifyShown_comp, hcomp]

theorem shown_updateViewport (b : Browser) (height : Nat) (center : Bool) :
    (b.updateViewport height center).shown = b.shown.scrollToCursor height center := by
  have hempty : Songlist.scrollToCursor { name := "Queue", kind := .queue } height center =
      { name := "Queue", kind := .queue } := by
    rcases Nat.eq_zero_or_pos height with rfl | hheight
    · rfl
    · apply Songlist.scrollToCursor_of_size_le hheight
      exact Nat.zero_le height
  exact shown_modifyShown_of_empty (b := { b with pageSize := max height 1 }) hempty

theorem updateViewport_updateViewport (b : Browser) (height : Nat) (center : Bool) :
    (b.updateViewport height center).updateViewport height center =
      b.updateViewport height center := by
  have hpage : { b.updateViewport height center with pageSize := max height 1 } =
      b.updateViewport height center := by
    unfold updateViewport modifyShown
    split <;> rfl
  rw [updateViewport, hpage]
  exact modifyShown_modifyShown _ fun list => list.scrollToCursor_scrollToCursor height center

/-- Whatever was done to the list on screen before, after a look at how many rows there are for songs the
cursor is on screen and no row is blank that could show a song. Nothing else is changed in the list. A
second look changes nothing, and neither does the first if all was right already, unless the cursor is
to be in the middle. -/
theorem viewport_follows_cursor (b : Browser) (hreached : b.shown.Reached) (height : Nat)
    (hheight : 0 < height) (center : Bool) :
    let after := b.updateViewport height center
    after.shown = { b.shown with offset := after.shown.offset } ∧
    after.shown.FillsScreen height ∧
    after.updateViewport height center = after ∧
    (center = false → b.shown.FillsScreen height → after.shown = b.shown) := by
  intro after
  have hafter : after.shown = b.shown.scrollToCursor height center :=
    b.shown_updateViewport height center
  refine ⟨?_, ?_, b.updateViewport_updateViewport height center, ?_⟩
  · rw [hafter, Songlist.scrollToCursor_eq hheight]
  · rw [hafter]
    exact Songlist.fillsScreen_scrollToCursor hreached.inBounds.cursor_lt hheight center
  · rintro rfl hfills
    rw [hafter, hfills.scrollToCursor_eq_self]

/-- A list that was scrolled to the last of five songs and then lost the first three. -/
def scrolledAndCut : Songlist :=
  let songs := ["a", "b", "c", "d", "e"].map fun file => Song.ofTags [("file", file)]
  let scrolled := (({ name := "Found", kind := .search, songs } : Songlist).setCursor 4).scrollToCursor
    2 false
  (scrolled.removeRows [0, 1, 2]).2

/-- Only two songs are left, and the list still begins with its fourth row. -/
theorem cut_list_is_scrolled_back :
    let b : Browser := { search := some scrolledAndCut }
    let after := b.updateViewport 2 false
    b.shown.Reached ∧ 0 < 2 ∧ b.shown.offset = 3 ∧ b.shown.size = 2 ∧
      after.shown.FillsScreen 2 ∧ after.shown.offset = 0 ∧ after.updateViewport 2 false = after := by
  intro b after
  have hreached : b.shown.Reached :=
    (((Songlist.Reached.fresh _ _ _).edit (.setCursor 4)).scroll 2 false).edit (.removeRows [0, 1, 2])
  obtain ⟨-, hfills, hagain, -⟩ := viewport_follows_cursor b hreached 2 (by decide) false
  exact ⟨hreached, by decide, by decide, by decide, hfills, by decide, hagain⟩

end Browser

end Jukebox
