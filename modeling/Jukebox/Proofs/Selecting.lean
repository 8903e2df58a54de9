import Jukebox.Proofs.ListBounds
import Jukebox.Proofs.TagOrder

/-
# What is selected

A row is selected if it is marked or lies in the range between the anchor and the cursor. The rows that
commands act on are collected from both, and it comes to the same: they are the selected rows of the
list, each once, from the top. To select what is near the cursor adds a block of rows to them. It goes
from the cursor as far up and as far down as songs agree with the one under the cursor on all the tags,
so it is the largest block around the cursor of which all songs do so.
-/

namespace Jukebox.Songlist

section Runs

variable {p : Song → Bool} {songs : List Song}

/-- All the way up to where a run begins songs satisfy `p`, and the next one does not. -/
theorem of_firstOfRun? {row first : Nat} (h : firstOfRun? p songs row = some first) :
    first ≤ row ∧
      (∀ other song, first ≤ other → other < row → songs[other]? = some song → p song = true) ∧
      ∀ other song, other + 1 = first → songs[other]? = some song → p song = false := by
  induction row with
  | zero =>
    cases h
    exact ⟨Nat.le_refl 0, fun _ _ _ hlt => absurd hlt (Nat.not_lt_zero _), nofun⟩
  | succ row ih =>
    obtain ⟨above, habove, hgo⟩ := Option.bind_eq_some_iff.1 h
    by_cases hp : p above = true
    · rw [if_pos hp] at hgo
      obtain ⟨hle, hrun, hstop⟩ := ih hgo
      refine ⟨Nat.le_succ_of_le hle, fun other song hfirst hlt hsong => ?_, hstop⟩
      rcases Nat.lt_succ_iff_lt_or_eq.1 hlt with hother | rfl
      · exact hrun other song hfirst hother hsong
      · cases habove.symm.trans hsong
        exact hp
    · rw [if_neg hp] at hgo
      cases hgo
      refine ⟨Nat.le_refl _, fun other _ hfirst hlt => absurd hlt (Nat.not_lt.2 hfirst), ?_⟩
      intro other song hother hsong
      cases hother
      cases habove.symm.trans hsong
      exact eq_false_of_ne_true hp

/-- All the way down to where a run ends songs satisfy `p`, and the next one does not. -/
theorem of_lastOfRun? {rest row last : Nat} (hrest : row + rest + 1 = songs.length)
    (h : lastOfRun? p songs rest row = some last) :
    row ≤ last ∧ last < songs.length ∧
      (∀ other song, row < other → other ≤ last → songs[other]? = some song → p song = true) ∧
      ∀ song, songs[last + 1]? = some song → p song = false := by
  induction rest generalizing row with
  | zero =>
    cases h
    refine ⟨Nat.le_refl _, by omega, fun other _ hlt hle => absurd hle (Nat.not_le.2 hlt), ?_⟩
    intro song hsong
    have hlt := (List.getElem?_eq_some_iff.1 hsong).1
    omega
  | succ rest ih =>
    obtain ⟨below, hbelow, hgo⟩ := Option.bind_eq_some_iff.1 h
    by_cases hp : p below = true
    · rw [if_pos hp] at hgo
      obtain ⟨hle, hlast, hrun, hstop⟩ := ih (by omega) hgo
      refine ⟨by omega, hlast, fun other song hlt hother hsong => ?_, hstop⟩
      rcases Nat.eq_or_lt_of_le hlt with rfl | hfurther
      · cases hbelow.symm.trans hsong
        exact hp
      · exact hrun other song hfurther hother hsong
    · rw [if_neg hp] at hgo
      cases hgo
      refine ⟨Nat.le_refl _, by omega, fun other _ hlt hle => absurd hle (Nat.not_le.2 hlt), ?_⟩
      intro song hsong
      cases hbelow.symm.trans hsong
      exact eq_false_of_ne_true hp

end Runs

/-- The cursor is in a block of rows of which all songs agree with the one under it on the tags. -/
structure IsNearby (list : Songlist) (tags : List String) (first last : Nat) : Prop where
  first_le : first ≤ list.cursor
  le_last : list.cursor ≤ last
  last_lt : last < list.size
  agrees : ∀ row, first ≤ row → row ≤ last → ∀ tag ∈ tags,
    list.songs[row]?.map (·.sortTag tag) = list.cursorSong?.map (·.sortTag tag)

/-- It is the largest of its kind. -/
structure IsAllNearby (list : Songlist) (tags : List String) (first last : Nat) : Prop extends
    IsNearby list tags first last where
  largest : ∀ first' last', IsNearby list tags first' last' → first ≤ first' ∧ last' ≤ last

variable {list : Songlist} {tags : List String} {first last : Nat} {current : Song}

theorem IsNearby.agree (h : list.IsNearby tags first last) (hcurrent : list.cursorSong? = some current)
    {row : Nat} (hfirst : first ≤ row) (hlast : row ≤ last) {song : Song}
    (hsong : list.songs[row]? = some song) : agree tags song current = true := by
  apply agree_iff.2
  intro tag htag
  simpa [hsong, hcurrent] using h.agrees row hfirst hlast tag htag

/-- A block around the cursor cannot be made larger if the songs right above and below it, where there
are any, do not agree with the one under the cursor. -/
theorem IsNearby.isAllNearby (h : list.IsNearby tags first last)
    (hcurrent : list.cursorSong? = some current)
    (habove : ∀ row song, row + 1 = first → list.songs[row]? = some song →
      Songlist.agree tags song current = false)
    (hbelow : ∀ song, list.songs[last + 1]? = some song → Songlist.agree tags song current = false) :
    list.IsAllNearby tags first last := by
  refine { h with largest := fun first' last' h' => ⟨?_, ?_⟩ }
  · by_contra hlt
    obtain ⟨row, rfl⟩ : ∃ row, first = row + 1 := Nat.exists_eq_add_one.2 (by omega)
    have hrow : row < list.songs.length := Nat.lt_trans (Nat.lt_of_lt_of_le (Nat.lt_succ_self row)
      (Nat.le_trans h.first_le h'.le_last)) h'.last_lt
    have hsong : list.songs[row]? = some list.songs[row] := List.getElem?_eq_getElem hrow
    have hagree := h'.agree hcurrent (by omega) (by have := h.first_le; have := h'.le_last; omega) hsong
    rw [habove row _ rfl hsong] at hagree
    cases hagree
  · by_contra hlt
    have hrow : last + 1 < list.songs.length := by
      have hlast : last' < list.songs.length := h'.last_lt
      omega
    have hsong : list.songs[last + 1]? = some list.songs[last + 1] := List.getElem?_eq_getElem hrow
    have hcursor : first' ≤ last + 1 :=
      Nat.le_succ_of_le (Nat.le_trans h'.first_le h.le_last)
    have hagree := h'.agree hcurrent hcursor (by omega) hsong
    rw [hbelow _ hsong] at hagree
    cases hagree

/-- Where the songs that agree with the one under the cursor begin and end, going from it. -/
theorem isAllNearby_of_run (hcurrent : list.cursorSong? = some current) :
    list.IsAllNearby tags (list.cursor - list.runBefore (Songlist.agree tags · current) list.cursor)
      (list.cursor + list.runAfter (Songlist.agree tags · current) list.cursor) := by
  have hcursor : list.cursor < list.size := (List.getElem?_eq_some_iff.1 hcurrent).1
  have hrest : list.cursor + (list.size - 1 - list.cursor) + 1 = list.size := by omega
  obtain ⟨hle, hbefore, habove⟩ := of_firstOfRun?
    (firstOfRun?_eq (Songlist.agree tags · current) (Nat.le_of_lt hcursor))
  obtain ⟨hle', hlt, hafter, hbelow⟩ := of_lastOfRun? hrest
    (lastOfRun?_eq (Songlist.agree tags · current) hrest)
  apply IsNearby.isAllNearby ⟨hle, hle', hlt, ?_⟩ hcurrent habove hbelow
  intro row hfirst hlast tag htag
  have hrow : row < list.songs.length := Nat.lt_of_le_of_lt hlast hlt
  have hsong : list.songs[row]? = some list.songs[row] := List.getElem?_eq_getElem hrow
  have hagree : Songlist.agree tags list.songs[row] current = true := by
    rcases Nat.lt_trichotomy row list.cursor with hup | rfl | hdown
    · exact hbefore row _ hfirst hup hsong
    · cases hsong.symm.trans hcurrent
      exact agree_iff.2 fun _ _ => rfl
    · exact hafter row _ hdown hlast hsong
  rw [hsong, hcurrent, Option.map_some, Option.map_some, agree_iff.1 hagree tag htag]

/-- The rows of the block come to the marks. -/
theorem mem_marked_selectNearby (hcurrent : list.cursorSong? = some current) {row : Nat} :
    row ∈ (list.selectNearby tags).marked ↔ row ∈ list.marked ∨
      list.cursor - list.runBefore (Songlist.agree tags · current) list.cursor ≤ row ∧
        row ≤ list.cursor + list.runAfter (Songlist.agree tags · current) list.cursor := by
  have hbefore := list.length_runBefore_le (Songlist.agree tags · current) list.cursor
  have hrows {before after : Nat} (hle : before ≤ list.cursor) :
      row ∈ List.range' (list.cursor - before) (before + 1 + after) ↔
        list.cursor - before ≤ row ∧ row ≤ list.cursor + after := by
    rw [List.mem_range'_1]
    omega
  rw [selectNearby, hcurrent]
  by_cases hmarked : row ∈ list.marked
  · simp [hmarked]
  · simpa only [List.mem_append, List.mem_filter, hmarked, false_or, List.contains_iff_mem,
      Bool.not_eq_true', decide_false, List.contains_eq_mem, and_true] using hrows hbefore

/-- The range stays as it is. -/
theorem inRange_selectNearby (list : Songlist) (tags : List String) (row : Nat) :
    (list.selectNearby tags).inRange row = list.inRange row := by
  unfold selectNearby
  split <;> rfl

theorem size_selectNearby (list : Songlist) (tags : List String) :
    (list.selectNearby tags).size = list.size := by
  unfold selectNearby
  split <;> rfl

theorem mem_selection_selectNearby (hcurrent : list.cursorSong? = some current) {row : Nat} :
    row ∈ (list.selectNearby tags).selection ↔ row ∈ list.selection ∨
      list.cursor - list.runBefore (Songlist.agree tags · current) list.cursor ≤ row ∧
        row ≤ list.cursor + list.runAfter (Songlist.agree tags · current) list.cursor := by
  have hlast : list.cursor + list.runAfter (Songlist.agree tags · current) list.cursor < list.size :=
    (isAllNearby_of_run hcurrent).last_lt
  simp only [mem_selection, isSelected, size_selectNearby, inRange_selectNearby, Bool.or_eq_true,
    List.contains_iff_mem, mem_marked_selectNearby hcurrent]
  constructor
  · rintro ⟨hrow, (hmarked | hnearby) | hrange⟩
    · exact .inl ⟨hrow, .inl hmarked⟩
    · exact .inr hnearby
    · exact .inl ⟨hrow, .inr hrange⟩
  · rintro (⟨hrow, hmarked | hrange⟩ | hnearby)
    · exact ⟨hrow, .inl (.inl hmarked)⟩
    · exact ⟨hrow, .inr hrange⟩
    · exact ⟨Nat.lt_of_le_of_lt hnearby.2 hlast, .inl (.inr hnearby)⟩

/-- What is selected in a list, whatever was done to it, is each of its rows that are marked or in the
range, once and from the top. What is near the cursor comes to it as the largest block around the cursor
of which all songs agree with the one under it, and nothing else; there is no such block in an empty
list, which stays as it is. -/
theorem nearby_block_joins_selection (list : Songlist) (hreached : list.Reached) (tags : List String) :
    (list.selection.Pairwise (· < ·) ∧
      ∀ row, row ∈ list.selection ↔ row < list.size ∧ list.isSelected row = true) ∧
    (list.size = 0 → list.selectNearby tags = list) ∧
    (0 < list.size → ∃ first last, list.IsAllNearby tags first last ∧
      ∀ row, row ∈ (list.selectNearby tags).selection ↔
        row ∈ list.selection ∨ first ≤ row ∧ row ≤ last) := by
  refine ⟨⟨list.pairwise_selection, fun _ => mem_selection⟩, fun hempty => ?_, fun hsize => ?_⟩
  · have hnone : list.cursorSong? = none :=
      List.getElem?_eq_none (Nat.le_trans (Nat.le_of_eq hempty) (Nat.zero_le _))
    rw [selectNearby, hnone]
  · have hcursor : list.cursor < list.songs.length := hreached.inBounds.cursor_lt hsize
    have hcurrent : list.cursorSong? = some list.songs[list.cursor] := List.getElem?_eq_getElem hcursor
    exact ⟨_, _, isAllNearby_of_run hcurrent, fun _ => mem_selection_selectNearby hcurrent⟩

/-- Songs of three albums, with a range that was begun on the last song and has grown upwards. -/
def selectedUpwards : Songlist :=
  let songs := ["A", "A", "B", "B", "B", "C"].map fun album => Song.ofTags [("album", album)]
  let list : Songlist := { name := "Found", kind := .search, songs }
  ((list.setCursor 5).toggleVisual).setCursor 3

/-- The songs of the second album are selected with those of the range, and the range is no part of
what is near the cursor. -/
theorem album_joins_selection :
    selectedUpwards.Reached ∧ selectedUpwards.selection = [3, 4, 5] ∧
      (selectedUpwards.selectNearby ["album"]).selection = [2, 3, 4, 5] ∧
      ∃ first last, selectedUpwards.IsAllNearby ["album"] first last ∧
        ∀ row, row ∈ (selectedUpwards.selectNearby ["album"]).selection ↔
          row ∈ selectedUpwards.selection ∨ first ≤ row ∧ row ≤ last := by
  have hreached : selectedUpwards.Reached :=
    (((Reached.fresh _ _ _).edit (.setCursor 5)).edit .toggleVisual).edit (.setCursor 3)
  obtain ⟨-, -, hnearby⟩ := nearby_block_joins_selection selectedUpwards hreached ["album"]
  exact ⟨hreached, by decide, by decide, hnearby (by decide)⟩

end Jukebox.Songlist
