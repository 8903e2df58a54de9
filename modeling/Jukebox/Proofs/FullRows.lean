import Mathlib.Data.List.Basic
import Jukebox.Proofs.UsualOrder
import Jukebox.Screen.SongRows

/-
# Full rows

The columns of a song list share a line so that nothing of it is left: whatever the fixed widths and
the blanks between the columns leave goes to the other columns, and what cannot be divided among
them goes to the first of them, one character each. A text is cut or filled up for its column, so
that a line of columns has as many characters as the row has cells, and so has the line that names a
song's place on the server instead.

There is one exception. A text that is made a line in one style, as the header and the place of a
song are, loses the line ends that are in it. No song list of a server holds a line end, since the
server sends its answers line by line, and neither does a command line that names columns; but where
there is one, the line is shorter than the row. No line is longer.
-/

namespace Jukebox

namespace Text

/-! ### Texts without their line ends -/

/-- Splitting takes out the marks and nothing else. -/
theorem flatten_splitChars (mark : Char) (text : List Char) :
    (splitChars mark text).flatten = text.filter (· ≠ mark) := by
  induction text with
  | nil => rfl
  | cons c text ih =>
    unfold splitChars
    by_cases hc : c = mark
    · rw [if_pos hc, List.flatten_cons, List.nil_append, ih,
        List.filter_cons_of_neg (by simp [hc])]
    · rw [if_neg hc, List.filter_cons_of_pos (by simp [hc]), ← ih]
      cases splitChars mark text <;> rfl

theorem withoutReturn_sublist (line : List Char) : (withoutReturn line).Sublist line := by
  unfold withoutReturn
  split
  · exact List.dropLast_sublist line
  · exact List.Sublist.refl line

theorem flatten_map_withoutReturn_sublist (parts : List (List Char)) :
    (parts.map withoutReturn).flatten.Sublist parts.flatten := by
  induction parts with
  | nil => exact List.Sublist.refl []
  | cons part parts ih => exact (withoutReturn_sublist part).append ih

theorem toList_join_lines (text : String) : (String.join (lines text)).toList =
    ((splitChars '\n' text.toList).dropLast.map withoutReturn).flatten ++
      (splitChars '\n' text.toList).getLast?.getD [] := by
  have hflatten (parts : List (List Char)) :
      (parts.map String.ofList).flatMap String.toList = parts.flatten := by
    rw [List.flatMap_map, List.flatten_eq_flatMap]
    exact congrArg (parts.flatMap ·) (funext fun part => String.toList_ofList)
  rw [String.toList_join, lines, hflatten, List.flatten_append]
  split
  · next hlast => rw [hlast, List.flatten_nil]
  · rw [List.flatten_singleton]

/-- The lines of a text hold nothing but characters of it, in order, and no newline. -/
theorem join_lines_sublist (text : String) :
    (String.join (lines text)).toList.Sublist (text.toList.filter (· ≠ '\n')) := by
  have hne : splitChars '\n' text.toList ≠ [] := by
    rw [splitChars_eq_splitOn]
    exact List.splitOn_ne_nil _ _
  rw [toList_join_lines, List.getLast?_eq_some_getLast hne, ← flatten_splitChars]
  conv_rhs => rw [← List.dropLast_append_getLast hne, List.flatten_append, List.flatten_singleton]
  exact (flatten_map_withoutReturn_sublist _).append (List.Sublist.refl _)

theorem join_lines_of_not_mem {text : String} (h : '\n' ∉ text.toList) :
    String.join (lines text) = text := by
  apply String.toList_injective
  rw [toList_join_lines, splitChars_eq_splitOn, List.splitOn_eq_singleton h]
  rfl

/-- The lines of a text together are not longer than the text. -/
theorem length_join_lines_le (text : String) : (String.join (lines text)).length ≤ text.length :=
  ((join_lines_sublist text).trans List.filter_sublist).length_le

/-- A text is as long as its lines together just if there is no line end in it. -/
theorem length_join_lines_eq_iff (text : String) :
    (String.join (lines text)).length = text.length ↔ '\n' ∉ text.toList := by
  refine ⟨fun hlength hmem => ?_, fun h => congrArg String.length (join_lines_of_not_mem h)⟩
  have hsublist := join_lines_sublist text
  have hsame := (hsublist.trans List.filter_sublist).eq_of_length hlength
  rw [hsame] at hsublist
  have hkept := hsublist.subset hmem
  simp at hkept

end Text

open Text

namespace Columns

/-- How many columns share what the others leave. -/
def flexibleCount (columns : List String) : Nat :=
  columns.countP fun column => (fixedWidth? column).isNone

/-- The widths of the columns that share what the others leave. -/
def flexibleWidths (columns : List String) (widths : List Nat) : List Nat :=
  ((columns.zip widths).filter fun cell => (fixedWidth? cell.1).isNone).map (·.2)

/-- What a line must have room for: the fixed widths, and a blank between any two columns. -/
def leastWidth (columns : List String) : Nat :=
  totalWidth (columns.filterMap fixedWidth?) + (columns.length - 1)

/-- The widths make columns a line with nothing left of it, and deal fairly with the columns that
have no width of their own. -/
structure FillLine (columns : List String) (width : Nat) (widths : List Nat) : Prop where
  length_eq : widths.length = columns.length
  fixed : ∀ column given own, (column, given) ∈ columns.zip widths →
    fixedWidth? column = some own → given = own
  total : totalWidth widths + (columns.length - 1) = width
  fair : (flexibleWidths columns widths).Pairwise fun left right =>
    right ≤ left ∧ left ≤ right + 1

section Spread

variable {column : String} {columns : List String} {share extra width given : Nat}
  {widths : List Nat}

theorem flexibleCount_cons_of_fixed (h : fixedWidth? column = some width) :
    flexibleCount (column :: columns) = flexibleCount columns :=
  List.countP_cons_of_neg (by simp [h])

theorem flexibleCount_cons_of_flexible (h : fixedWidth? column = none) :
    flexibleCount (column :: columns) = flexibleCount columns + 1 :=
  List.countP_cons_of_pos (by simp [h])

theorem flexibleWidths_cons_of_fixed (h : fixedWidth? column = some width) :
    flexibleWidths (column :: columns) (given :: widths) = flexibleWidths columns widths := by
  rw [flexibleWidths, List.zip_cons_cons, List.filter_cons_of_neg (by simp [h])]
  rfl

theorem flexibleWidths_cons_of_flexible (h : fixedWidth? column = none) :
    flexibleWidths (column :: columns) (given :: widths) =
      given :: flexibleWidths columns widths := by
  rw [flexibleWidths, List.zip_cons_cons, List.filter_cons_of_pos (by simp [h])]
  rfl

theorem spread_cons_of_fixed (h : fixedWidth? column = some width) :
    spread share extra (column :: columns) = width :: spread share extra columns := by
  rw [spread, h]

theorem spread_cons_of_flexible (h : fixedWidth? column = none) :
    spread share extra (column :: columns) =
      (share + min extra 1) :: spread share (extra - 1) columns := by
  rw [spread, h]

theorem length_spread (share extra : Nat) (columns : List String) :
    (spread share extra columns).length = columns.length := by
  induction columns generalizing extra with
  | nil => rfl
  | cons column columns ih =>
    cases h : fixedWidth? column with
    | some width => rw [spread_cons_of_fixed h, List.length_cons, List.length_cons, ih]
    | none => rw [spread_cons_of_flexible h, List.length_cons, List.length_cons, ih]

theorem eq_of_mem_zip_spread (hmem : (column, given) ∈ columns.zip (spread share extra columns))
    (hfixed : fixedWidth? column = some width) : given = width := by
  induction columns generalizing extra with
  | nil => cases hmem
  | cons first columns ih =>
    cases h : fixedWidth? first with
    | some own =>
      rw [spread_cons_of_fixed h, List.zip_cons_cons, List.mem_cons] at hmem
      rcases hmem with heq | hrest
      · cases heq
        exact Option.some.inj (h.symm.trans hfixed)
      · exact ih hrest
    | none =>
      rw [spread_cons_of_flexible h, List.zip_cons_cons, List.mem_cons] at hmem
      rcases hmem with heq | hrest
      · cases heq
        cases h.symm.trans hfixed
      · exact ih hrest

/-- Nothing is lost as long as there are enough columns to give one more to. -/
theorem totalWidth_spread (h : extra ≤ flexibleCount columns) :
    totalWidth (spread share extra columns) =
      totalWidth (columns.filterMap fixedWidth?) + (share * flexibleCount columns + extra) := by
  induction columns generalizing extra with
  | nil =>
    obtain rfl : extra = 0 := Nat.le_zero.1 h
    rfl
  | cons column columns ih =>
    cases hwidth : fixedWidth? column with
    | some width =>
      rw [flexibleCount_cons_of_fixed hwidth] at h ⊢
      rw [spread_cons_of_fixed hwidth, totalWidth_cons, ih h, List.filterMap_cons_some hwidth,
        totalWidth_cons, Nat.add_assoc]
    | none =>
      rw [flexibleCount_cons_of_flexible hwidth] at h ⊢
      rw [spread_cons_of_flexible hwidth, totalWidth_cons, ih (Nat.sub_le_of_le_add h),
        List.filterMap_cons_none hwidth, Nat.mul_succ]
      omega

/-- Of the columns that share the rest the wider ones come first. -/
theorem flexibleWidths_spread (h : extra ≤ flexibleCount columns) :
    flexibleWidths columns (spread share extra columns) =
      List.replicate extra (share + 1) ++ List.replicate (flexibleCount columns - extra) share := by
  induction columns generalizing extra with
  | nil =>
    obtain rfl : extra = 0 := Nat.le_zero.1 h
    rfl
  | cons column columns ih =>
    cases hwidth : fixedWidth? column with
    | some width =>
      rw [flexibleCount_cons_of_fixed hwidth] at h ⊢
      rw [spread_cons_of_fixed hwidth, flexibleWidths_cons_of_fixed hwidth, ih h]
    | none =>
      rw [flexibleCount_cons_of_flexible hwidth] at h ⊢
      rw [spread_cons_of_flexible hwidth, flexibleWidths_cons_of_flexible hwidth,
        ih (Nat.sub_le_of_le_add h)]
      cases extra with
      | zero => rfl
      | succ extra =>
        rw [Nat.add_sub_add_right (flexibleCount columns) 1 extra,
          Nat.min_eq_right (Nat.succ_pos extra), List.replicate_succ]
        rfl

theorem pairwise_flexibleWidths_spread (h : extra ≤ flexibleCount columns) :
    (flexibleWidths columns (spread share extra columns)).Pairwise fun left right =>
      right ≤ left ∧ left ≤ right + 1 := by
  rw [flexibleWidths_spread h, List.pairwise_append, List.pairwise_replicate,
    List.pairwise_replicate]
  refine ⟨.inr (by omega), .inr (by omega), fun left hleft right hright => ?_⟩
  rw [List.eq_of_mem_replicate hleft, List.eq_of_mem_replicate hright]
  omega

/-- What is left is divided among the columns without a width of their own, if there is one. -/
theorem fillLine_widths (hflexible : ∃ column ∈ columns, fixedWidth? column = none)
    (hroom : leastWidth columns ≤ width) :
    FillLine columns width (Columns.widths columns width) := by
  have hcount : 0 < flexibleCount columns := by
    obtain ⟨column, hmem, hnone⟩ := hflexible
    exact List.countP_pos_iff.2 ⟨column, hmem, by rw [hnone]; rfl⟩
  have hwidths : Columns.widths columns width =
      spread ((width - leastWidth columns) / flexibleCount columns)
        ((width - leastWidth columns) % flexibleCount columns) columns := rfl
  have hextra := (Nat.mod_lt (width - leastWidth columns) hcount).le
  rw [hwidths]
  refine ⟨length_spread _ _ columns, fun _ _ _ => eq_of_mem_zip_spread, ?_,
    pairwise_flexibleWidths_spread hextra⟩
  rw [totalWidth_spread hextra, Nat.div_add_mod']
  unfold leastWidth at hroom ⊢
  omega

end Spread

theorem length_fit (text : String) (width : Nat) : (fit text width).length = width := by
  unfold fit
  split
  · split
    · rw [String.length_ofList, List.length_take, String.length_toList]
      omega
    · rw [String.length_append, String.length_ofList, List.length_take, String.length_toList,
        show "...".length = 3 from rfl]
      omega
  · rw [String.length_append, String.length_ofList, List.length_replicate]
    omega

/-- What a text is filled up with or cut off with is blanks and dots. -/
theorem mem_of_mem_fit {c : Char} (hblank : c ≠ ' ') (hdot : c ≠ '.') {text : String} {width : Nat}
    (h : c ∈ (fit text width).toList) : c ∈ text.toList := by
  unfold fit at h
  split at h
  · split at h
    · rw [String.toList_ofList] at h
      exact List.mem_of_mem_take h
    · rw [String.toList_append, String.toList_ofList, List.mem_append] at h
      refine h.elim List.mem_of_mem_take fun hdots => ?_
      exact absurd hdots (by simp [hdot])
  · rw [String.toList_append, String.toList_ofList, List.mem_append] at h
    exact h.resolve_right fun hblanks => hblank (List.eq_of_mem_replicate hblanks)

theorem length_join (cells : List String) :
    (join cells).length = totalWidth (cells.map String.length) + (cells.length - 1) := by
  unfold join
  induction cells with
  | nil => rfl
  | cons cell cells ih =>
    cases cells with
    | nil => simp
    | cons next cells =>
      have hblank : " ".length = 1 := rfl
      rw [String.intercalate_cons_cons, String.length_append, String.length_append, ih, hblank]
      simp only [List.map_cons, totalWidth_cons, List.length_cons]
      omega

/-- What stands in cells next to each other is blanks and what is in the cells. -/
theorem mem_join_iff {c : Char} (hc : c ≠ ' ') (cells : List String) :
    c ∈ (join cells).toList ↔ ∃ cell ∈ cells, c ∈ cell.toList := by
  unfold join
  induction cells with
  | nil => simp
  | cons cell cells ih =>
    cases cells with
    | nil => simp
    | cons next cells =>
      rw [String.intercalate_cons_cons, String.toList_append, String.toList_append,
        List.mem_append, List.mem_append, ih]
      simp [hc]

/-- Cells as wide as their columns fill a row together. -/
theorem length_join_zipWith {columns : List String} {width : Nat} {widths : List Nat}
    (h : FillLine columns width widths) {cell : String → Nat → String}
    (hcell : ∀ column given, (cell column given).length = given) :
    (join (List.zipWith cell columns widths)).length = width := by
  have hcells {columns : List String} {widths : List Nat} (h : widths.length = columns.length) :
      (List.zipWith cell columns widths).map String.length = widths := by
    rw [List.map_zipWith]
    induction widths generalizing columns with
    | nil => rw [List.zipWith_nil_right]
    | cons given widths ih =>
      cases columns with
      | nil => cases h
      | cons column columns =>
        rw [List.zipWith_cons_cons, hcell, ih (Nat.succ.inj h)]
  rw [length_join, hcells h.length_eq, List.length_zipWith, h.length_eq, Nat.min_self, h.total]

end Columns

namespace Screen

open Columns

theorem text_styled (text : String) (style : Style) :
    (Line.styled text style).text = String.join (lines text) := by
  rw [Line.text, Line.styled, List.map_map]
  exact congrArg String.join (List.map_id _)

/-- Spans with a blank between them show what their contents do. -/
theorem join_intersperse (spans : List Span) :
    String.join ((List.intersperse { content := " " } spans).map Span.content) =
      Columns.join (spans.map Span.content) := by
  unfold Columns.join
  induction spans with
  | nil => rfl
  | cons span spans ih =>
    cases spans with
    | nil => simp
    | cons next spans =>
      rw [List.intersperse_cons_cons, List.map_cons, List.map_cons, String.join_cons,
        String.join_cons, ih]
      simp only [List.map_cons]
      rw [String.intercalate_cons_cons, String.append_assoc]

theorem length_content_tagSpan (styles : Stylesheet) (rowStyle : Option Style) (song : Song)
    (column : String) (width : Nat) :
    (tagSpan styles rowStyle song column width).content.length = width :=
  length_fit _ width

/-- A text that is made a line in one style does not get longer, and it is as long as before just if
no line end was in it. -/
theorem length_text_styled {text : String} {style : Style} {width : Nat} (h : text.length = width) :
    (Line.styled text style).text.length ≤ width ∧
      ((Line.styled text style).text.length = width ↔ '\n' ∉ text.toList) := by
  rw [text_styled, ← h]
  exact ⟨length_join_lines_le text, length_join_lines_eq_iff text⟩

theorem length_text_headerLine (styles : Stylesheet) {columns : List String} {width : Nat}
    {widths : List Nat} (h : FillLine columns width widths) :
    (headerLine styles columns widths).text.length ≤ width ∧
      ((headerLine styles columns widths).text.length = width ↔
        ∀ name ∈ List.zipWith fit columns widths, '\n' ∉ name.toList) := by
  have hnames : '\n' ∉ (join (List.zipWith fit columns widths)).toList ↔
      ∀ name ∈ List.zipWith fit columns widths, '\n' ∉ name.toList := by
    rw [mem_join_iff (by decide)]
    simp only [not_exists, not_and]
  rw [← hnames]
  exact length_text_styled (length_join_zipWith h length_fit)

theorem length_text_untaggedLine (styles : Stylesheet) (rowStyle : Option Style) (song : Song)
    {columns : List String} {width : Nat} {widths : List Nat} (h : FillLine columns width widths) :
    (untaggedLine styles rowStyle song widths).text.length ≤ width ∧
      ((untaggedLine styles rowStyle song widths).text.length = width ↔
        '\n' ∉ (fit (song.file?.getD "") width).toList) := by
  have htotal : totalWidth widths + (widths.length - 1) = width := by rw [h.length_eq, h.total]
  rw [untaggedLine, htotal]
  exact length_text_styled (length_fit _ width)

/-- The cells of a song's tags keep all of their characters, line ends too. -/
theorem length_text_tagSpans (styles : Stylesheet) (rowStyle : Option Style) (song : Song)
    {columns : List String} {width : Nat} {widths : List Nat} (h : FillLine columns width widths)
    (style : Style) :
    ({ spans := List.intersperse { content := " " }
        (List.zipWith (tagSpan styles rowStyle song) columns widths), style } : Line).text.length =
      width := by
  rw [Line.text, join_intersperse, List.map_zipWith]
  exact length_join_zipWith h (length_content_tagSpan styles rowStyle song)

theorem length_text_songLine (styles : Stylesheet) (rowStyle : Option Style) (song : Song)
    {columns : List String} {width : Nat} {widths : List Nat} (h : FillLine columns width widths) :
    let line := songLine styles columns widths rowStyle song
    line.text.length ≤ width ∧
      if song.hasOneOf (columns.filter (· ≠ "time")) then line.text.length = width
      else (line.text.length = width ↔ '\n' ∉ (fit (song.file?.getD "") width).toList) := by
  intro line
  subst line
  unfold songLine
  split
  · have hlength := length_text_tagSpans styles rowStyle song h
      (rowStyle.getD (styles.get "standard"))
    exact ⟨hlength.le, hlength⟩
  · exact length_text_untaggedLine styles rowStyle song h

/-- Columns with the widths that they are given fill a row, be it with their names or with the tags
of a song, and so does the place of a song that has no tag to show, as long as there is no line end in
the names or in the place. No line is longer than the row, and only a line end among what is shown of
the names or of the place makes a line shorter. -/
theorem lines_fill_row (styles : Stylesheet) {columns : List String} {width : Nat}
    (hflexible : ∃ column ∈ columns, fixedWidth? column = none)
    (hroom : leastWidth columns ≤ width) :
    let widths := Columns.widths columns width
    let header := headerLine styles columns widths
    FillLine columns width widths ∧
    ((∀ name ∈ columns, '\n' ∉ name.toList) → header.text.length = width) ∧
    header.text.length ≤ width ∧
    (header.text.length = width ↔ ∀ name ∈ List.zipWith fit columns widths, '\n' ∉ name.toList) ∧
    ∀ (rowStyle : Option Style) (song : Song),
      let line := songLine styles columns widths rowStyle song
      let file := song.file?.getD ""
      ('\n' ∉ file.toList → line.text.length = width) ∧
      line.text.length ≤ width ∧
      if song.hasOneOf (columns.filter (· ≠ "time")) then line.text.length = width
      else (line.text.length = width ↔ '\n' ∉ (fit file width).toList) := by
  intro widths header
  have hfill : FillLine columns width widths := fillLine_widths hflexible hroom
  have hfit {text : String} {given : Nat} (h : '\n' ∉ text.toList) : '\n' ∉ (fit text given).toList :=
    fun hmem => h (mem_of_mem_fit (by decide) (by decide) hmem)
  obtain ⟨hle, hiff⟩ := length_text_headerLine styles hfill
  refine ⟨hfill, fun hnames => hiff.2 ?_, hle, hiff, fun rowStyle song => ?_⟩
  · intro name hname
    rw [← List.map_uncurry_zip_eq_zipWith] at hname
    obtain ⟨⟨column, given⟩, hcell, rfl⟩ := List.mem_map.1 hname
    exact hfit (hnames column (List.of_mem_zip hcell).1)
  · intro line file
    obtain ⟨hle, hline⟩ := length_text_songLine styles rowStyle song hfill
    refine ⟨fun hfile => ?_, hle, hline⟩
    split at hline
    · exact hline
    · exact hline.2 (hfit hfile)

/-- Of forty columns the time and the track take twelve and the blanks three; the rest is odd. -/
theorem song_with_title_fills_row :
    let columns := ["artist", "track", "title", "time"]
    let widths := Columns.widths columns 40
    let song := Song.ofTags [("file", "a.flac"), ("title", "A title that is too long")]
    ((∃ column ∈ columns, fixedWidth? column = none) ∧ leastWidth columns ≤ 40) ∧
      widths = [13, 5, 12, 7] ∧ FillLine columns 40 widths ∧
      (songLine {} columns widths none song).text =
        "                    A title t... --:--  " ∧
      (songLine {} columns widths none song).text.length = 40 := by
  intro columns widths song
  have hflexible : ∃ column ∈ columns, fixedWidth? column = none := ⟨"artist", by decide, by decide⟩
  have hroom : leastWidth columns ≤ 40 := by decide
  obtain ⟨hfill, -, -, -, hsong⟩ := lines_fill_row {} hflexible hroom
  obtain ⟨hlength, -, -⟩ := hsong none song
  exact ⟨⟨hflexible, hroom⟩, by decide, hfill, by decide +kernel, hlength (by decide +kernel)⟩

/-- A line end between two characters of no width: of the three characters that fill the row two are
left. -/
theorem line_end_shortens_line :
    let song := Song.ofTags [("file", "\u200b\n\u200b")]
    let widths := Columns.widths ["title"] 3
    ((∃ column ∈ ["title"], fixedWidth? column = none) ∧ leastWidth ["title"] ≤ 3) ∧
      widths = [3] ∧ (songLine {} ["title"] widths none song).text.length = 2 := by
  decide +kernel

end Screen

end Jukebox
