import Jukebox.Proofs.CutInStep

/-
# Cut and pasted

A cut splits a list of the user in two, and both parts stay in order: what is cut waits in the
clipboard, the rest stays on screen. If what is cut stood together, it goes back to where it was: the
cursor has moved to what came after it, so it is pasted before that, or, if nothing came after it, behind
the last song. Then the list is what it was, with the cursor on the first song that came back.
-/

namespace Jukebox

open Songlist

section Rows

variable {α : Type} {p : Nat → Bool} {start : Nat}

theorem keepRows_append (p : Nat → Bool) (start : Nat) (above below : List α) :
    keepRows p start (above ++ below) =
      keepRows p start above ++ keepRows p (start + above.length) below := by
  induction above generalizing start with
  | nil => rfl
  | cons item above ih =>
    rw [List.cons_append, keepRows, keepRows, ih, List.length_cons, Nat.add_assoc,
      Nat.add_comm 1]
    split <;> rfl

/-- If all rows are alike, everything is kept or nothing. -/
theorem keepRows_of_forall {items : List α} {kept : Bool}
    (h : ∀ row, start ≤ row → row < start + items.length → p row = kept) :
    keepRows p start items = if kept then items else [] := by
  induction items generalizing start with
  | nil => simp [keepRows]
  | cons item items ih =>
    rw [List.length_cons] at h
    rw [keepRows, h start (Nat.le_refl start) (by omega),
      ih fun row hrow hlt => h row (by omega) (by omega)]
    cases kept <;> rfl

/-- What is in some rows and what is in the others is all there is. -/
theorem perm_keepRows (p : Nat → Bool) (start : Nat) (items : List α) :
    (keepRows p start items ++ keepRows (fun row => !p row) start items).Perm items := by
  induction items generalizing start with
  | nil => exact .refl []
  | cons item items ih =>
    rw [keepRows, keepRows]
    cases p start with
    | true => exact (ih (start + 1)).cons item
    | false => exact List.perm_middle.trans ((ih (start + 1)).cons item)

section Block

variable (above block below : List α)

/-- If the rows of a block are alike, and so are the others, then what is kept is known. -/
theorem keepRows_block_of_forall {inside outside : Bool}
    (hinside : ∀ row, above.length ≤ row → row < above.length + block.length → p row = inside)
    (houtside : ∀ row, row < above.length ∨ above.length + block.length ≤ row →
      p row = outside) :
    keepRows p 0 (above ++ block ++ below) =
      (if outside then above else []) ++ (if inside then block else []) ++
        if outside then below else [] := by
  rw [keepRows_append, keepRows_append, keepRows_of_forall, keepRows_of_forall, keepRows_of_forall]
  · intro row hrow _
    rw [List.length_append] at hrow
    exact houtside row (.inr (by omega))
  · intro row hrow hlt
    exact hinside row (by omega) (by omega)
  · intro row _ hlt
    exact houtside row (.inl (by omega))

theorem contains_block (row : Nat) (hrow : above.length ≤ row)
    (hlt : row < above.length + block.length) :
    (List.range' above.length block.length).contains row = true := by
  rw [List.contains_iff_mem, List.mem_range'_1]
  exact ⟨hrow, hlt⟩

theorem contains_block_eq_false (row : Nat)
    (hrow : row < above.length ∨ above.length + block.length ≤ row) :
    (List.range' above.length block.length).contains row = false := by
  rw [List.contains_eq_mem, decide_eq_false_iff_not, List.mem_range'_1]
  omega

/-- What is in the rows of a block. -/
theorem keepRows_block :
    keepRows (List.range' above.length block.length).contains 0 (above ++ block ++ below) =
      block := by
  rw [keepRows_block_of_forall above block below (contains_block above block)
    (contains_block_eq_false above block)]
  simp

/-- What is in the rows above a block and below it. -/
theorem keepRows_beside_block :
    keepRows (fun row => !(List.range' above.length block.length).contains row) 0
      (above ++ block ++ below) = above ++ below := by
  rw [keepRows_block_of_forall above block below
    (fun row hrow hlt => congrArg not (contains_block above block row hrow hlt))
    (fun row hrow => congrArg not (contains_block_eq_false above block row hrow))]
  simp

end Block

end Rows

namespace Songlist

/-- Whether a list is the user's own: derived from others, or found by a search. -/
def IsOwn (list : Songlist) : Prop := list.kind = .custom ∨ list.kind = .search

/-- The songs that are left on screen are those in the rows that were not taken out. -/
theorem songsAt_others (list : Songlist) (rows : List Nat) :
    list.songsAt ((List.range list.size).filter (· ∉ rows)) =
      keepRows (fun row => !rows.contains row) 0 list.songs := by
  have hrising : ((List.range list.size).filter (· ∉ rows)).Pairwise (· < ·) :=
    List.pairwise_lt_range.filter _
  refine (filterMap_getElem?_eq_keepRows hrising fun row _ => row.zero_le).trans ?_
  refine keepRows_congr fun row _ hlt => ?_
  rw [Nat.zero_add] at hlt
  simp [Songlist.size, hlt]

variable {list : Songlist} {above block below : List Song}

/-- Only where there are no songs there is nothing to act on. -/
theorem songs_eq_nil_of_targetRows (h : list.targetRows = []) : list.songs = [] := by
  unfold targetRows at h
  split at h
  · cases h
  · next hsome =>
    rw [h] at hsome
    simpa [isEmpty] using hsome

/-- The songs of a list around a block of its rows. -/
theorem exists_block {first last : Nat} (hrows : first ≤ last) (hlast : last < list.size) :
    ∃ above block below, list.songs = above ++ block ++ below ∧ above.length = first ∧
      block.length = last + 1 - first ∧ above.length + block.length + below.length = list.size := by
  have hsize : list.size = list.songs.length := rfl
  refine ⟨list.songs.take first, (list.songs.drop first).take (last + 1 - first),
    list.songs.drop (last + 1), ?_, ?_, ?_, ?_⟩
  · have hdrop : list.songs.drop (last + 1) =
        (list.songs.drop first).drop (last + 1 - first) := by
      rw [List.drop_drop, Nat.add_sub_cancel' (by omega)]
    rw [hdrop, List.append_assoc, List.take_append_drop, List.take_append_drop]
  all_goals
    simp only [List.length_take, List.length_drop]
    omega

/-- A block is taken out. -/
theorem removeRows_block (hsongs : list.songs = above ++ block ++ below) (hblock : block ≠ []) :
    list.removeRows (List.range' above.length block.length) =
      (block, ({ list with songs := above ++ below }.clearSelection).setCursor above.length) := by
  have hlength : 0 < block.length := List.length_pos_iff.2 hblock
  have hall : (List.range' above.length block.length).filter (· < list.size) =
      List.range' above.length block.length := by
    refine List.filter_eq_self.2 fun row hrow => ?_
    simp only [size, hsongs, List.length_append, decide_eq_true_iff]
    have := (List.mem_range'_1.1 hrow).2
    omega
  have hfirst : (List.range' above.length block.length).min? = some above.length := by
    refine List.min?_eq_some_iff.2 ⟨List.mem_range'_1.2 ⟨Nat.le_refl _, by omega⟩, ?_⟩
    exact fun row hrow => (List.mem_range'_1.1 hrow).1
  unfold removeRows
  rw [hall]
  dsimp only
  rw [hfirst, hsongs, keepRows_block]
  dsimp only
  rw [keepRows_beside_block]

/-- A block is put in. -/
theorem insert_block (hsongs : list.songs = above ++ below) (hblock : block ≠ []) :
    list.insert above.length block =
      ({ list with songs := above ++ block ++ below }.clearSelection).setCursor above.length := by
  have hrow : min above.length list.size = above.length := by
    rw [size, hsongs, List.length_append]
    omega
  unfold insert
  dsimp only
  rw [hrow, hsongs, List.take_left, List.drop_left, if_neg (by simpa using hblock)]

/-- After a block was taken out, it goes back to where it was before the cursor, or after it if nothing
came after the block. -/
theorem pastePosition_setCursor {after : Bool} (hsongs : list.songs = above ++ below)
    (hback : if after then below = [] else below ≠ [] ∨ above = []) :
    Command.pastePosition (list.setCursor above.length) after = above.length := by
  have hsize : list.size = above.length + below.length := by
    rw [size, hsongs, List.length_append]
  unfold Command.pastePosition
  -- The cursor was clamped when the block was at the end, and a list may have become empty.
  rw [isEmpty, songs_setCursor, hsongs, cursor_setCursor, hsize]
  cases after with
  | true =>
    obtain rfl : below = [] := hback
    cases above with
    | nil => rfl
    | cons song above => simp
  | false =>
    rcases (show below ≠ [] ∨ above = [] from hback) with hbelow | rfl
    · have hlength : 0 < below.length := List.length_pos_iff.2 hbelow
      rw [if_neg (by simp [hbelow]), if_neg Bool.false_ne_true]
      omega
    · simp

/-- A block that was taken out is put back. -/
theorem insert_removeRows {after : Bool} (hsongs : list.songs = above ++ block ++ below)
    (hblock : block ≠ []) (hback : if after then below = [] else below ≠ [] ∨ above = []) :
    let cut := list.removeRows (List.range' above.length block.length)
    cut.2.insert (Command.pastePosition cut.2 after) cut.1 =
      { list with cursor := above.length, marked := [], anchor := none } := by
  -- The block is not empty, so its first row is in the list again and the cursor can go there.
  have hcursor : min above.length (list.songs.length - 1) = above.length := by
    have hlength : 0 < block.length := List.length_pos_iff.2 hblock
    rw [hsongs, List.length_append, List.length_append]
    omega
  rw [removeRows_block hsongs hblock]
  dsimp only
  rw [pastePosition_setCursor rfl hback, insert_block rfl hblock]
  simp only [setCursor, clearSelection, size, ← hsongs, hcursor]

end Songlist

/-- If a list of the user is on screen, it is there to be changed. -/
theorem Browser.shown_modifyShown_of_own {browser : Browser} (f : Songlist → Songlist)
    (h : browser.shown.IsOwn) : (browser.modifyShown f).shown = f browser.shown := by
  cases hsearch : browser.search with
  | some search => simp [modifyShown, shown, hsearch]
  | none =>
    refine shown_modifyShown f (Nat.lt_of_not_le fun hle => ?_)
    have hmissing : browser.lists[browser.active]? = none := List.getElem?_eq_none hle
    simp [Songlist.IsOwn, shown, hsearch, activeList, hmissing] at h

/-- What is read of a single word. -/
theorem Reader.readLine_optionalWord {ω α : Type} (parse : Token → Except CommandError α) (world : ω)
    (word : String) :
    (optionalWord parse).readLine world [.word word] = (parse (.word word)).map some := by
  rw [readLine, List.foldlM_cons]
  simp only [optionalWord]
  cases parse (.word word) <;> rfl

section Commands

variable {σ : Type} [Service σ] {dispatcher : Dispatcher (Session σ)} {line : String}
  {session : Session σ}

/-- Songs are cut from a list of the user unless there are none. -/
theorem dispatch_cut_own (hoffers : dispatcher.Offers Command.builtin)
    (hline : Token.ofLine line = [.word "cut", .endOfLine])
    (hown : session.browser.shown.IsOwn) :
    let list := session.browser.shown
    let cut := dispatcher.dispatch line session
    (list.targetRows = [] → (∃ error, cut.1 = .error error) ∧ cut.2.2 = session) ∧
    (list.targetRows ≠ [] → cut.1 = .ok () ∧
      cut.2.2.browser.clipboard = (list.removeRows list.targetRows).1 ∧
      cut.2.2.browser.shown = (list.removeRows list.targetRows).2) := by
  have hmem : ("cut", Command.cut) ∈ (Command.builtin : List (String × Command (Session σ))) := by
    simp [Command.builtin]
  obtain ⟨words, hwords, ⟨error, hread, -⟩ | ⟨⟨⟩, -, hresult, hafter⟩⟩ :=
    hoffers.dispatch_simple Dispatcher.nodup_names_builtin hmem hline session
  · obtain rfl : words = [] := List.append_cancel_right hwords.symm
    cases hread
  · rw [Act.run_run_get_bind] at hresult hafter
    refine ⟨fun hnone => ?_, fun hrows => ?_⟩
    · rw [if_pos (List.isEmpty_iff.2 hnone), run_run_bind_of_error (run_run_throw session _)]
        at hresult hafter
      exact ⟨⟨_, hresult⟩, hafter⟩
    · obtain ⟨next, htake, -, hbrowser⟩ := run_run_takeOut session.browser.shown.targetRows session
      rw [if_neg (by simpa using hrows)] at hresult hafter
      have hchange (f) := Browser.shown_modifyShown_of_own f hown
      rcases hown with hkind | hkind
      all_goals
        simp only [hkind] at hresult hafter
        rw [htake] at hresult hafter
        rw [hafter, hbrowser]
        exact ⟨hresult, rfl, hchange _⟩

/-- What is in the clipboard is pasted into a list of the user. -/
theorem dispatch_paste_own (hoffers : dispatcher.Offers Command.builtin) {word : String}
    (hline : Token.ofLine line = [.word "paste", .word word, .endOfLine]) {after : Bool}
    (hword : Command.afterCursor (.word word) = .ok after)
    (hown : session.browser.shown.IsOwn) (hclipboard : session.browser.clipboard ≠ []) :
    let list := session.browser.shown
    (dispatcher.dispatch line session).1 = .ok () ∧
      (dispatcher.dispatch line session).2.2.browser.shown =
        list.insert (Command.pastePosition list after) session.browser.clipboard := by
  have hmem : ("paste", Command.paste) ∈
      (Command.builtin : List (String × Command (Session σ))) := by simp [Command.builtin]
  have hreader : Reader.readLine (.optionalWord Command.afterCursor) session [.word word] =
      .ok (some after) := by
    rw [Reader.readLine_optionalWord, hword]
    rfl
  obtain ⟨words, hwords, ⟨error, hread, -⟩ | ⟨value, hread, hresult, hafter⟩⟩ :=
    hoffers.dispatch_simple Dispatcher.nodup_names_builtin hmem hline session
  · obtain rfl : words = [.word word] := List.append_cancel_right hwords.symm
    cases hread.symm.trans hreader
  · obtain rfl : words = [.word word] := List.append_cancel_right hwords.symm
    obtain rfl : value = some after := Except.ok.inj (hread.symm.trans hreader)
    rw [Act.run_run_get_bind, if_neg (by simpa using hclipboard)] at hresult hafter
    have hchange (f) := Browser.shown_modifyShown_of_own f hown
    rcases hown with hkind | hkind
    all_goals
      simp only [hkind] at hresult hafter
      rw [hafter]
      exact ⟨hresult, hchange _⟩

/-- A block that was cut from a list of the user is pasted back. -/
theorem paste_undoes_cut (hoffers : dispatcher.Offers Command.builtin)
    (hline : Token.ofLine line = [.word "cut", .endOfLine]) (hown : session.browser.shown.IsOwn)
    {above block below : List Song} (hsongs : session.browser.shown.songs = above ++ block ++ below)
    (hblock : block ≠ [])
    (htargets : session.browser.shown.targetRows = List.range' above.length block.length)
    {back word : String} (hback : Token.ofLine back = [.word "paste", .word word, .endOfLine])
    {after : Bool} (hword : Command.afterCursor (.word word) = .ok after)
    (hplace : if after then below = [] else below ≠ [] ∨ above = []) :
    let cut := dispatcher.dispatch line session
    let paste := cut.2.1.dispatch back cut.2.2
    cut.1 = .ok () ∧ paste.1 = .ok () ∧ paste.2.2.browser.shown =
      { session.browser.shown with cursor := above.length, marked := [], anchor := none } := by
  intro cut paste
  have hrows : session.browser.shown.targetRows ≠ [] := by simpa [htargets] using hblock
  obtain ⟨hdone, hclipboard, hshown⟩ := (dispatch_cut_own hoffers hline hown).2 hrows
  have hleft : cut.2.2.browser.shown.IsOwn := by
    rw [IsOwn, hshown, kind_removeRows]
    exact hown
  have hsome : cut.2.2.browser.clipboard ≠ [] := by
    rw [hclipboard, htargets, removeRows_block hsongs hblock]
    exact hblock
  obtain ⟨hpasted, hlast⟩ :=
    dispatch_paste_own (hoffers.dispatch line session) hback hword hleft hsome
  refine ⟨hdone, hpasted, ?_⟩
  rw [hlast, hshown, hclipboard, htargets]
  exact insert_removeRows hsongs hblock hplace

/-- What is cut from a list of the user waits in the clipboard, in the order it had, and the rest stays in
the list, in the order it had: nothing is lost and nothing is there twice. If the songs stood together,
then pasted before the cursor, or after it if they stood at the end, they stand again where they were,
with the cursor on the first of them and nothing selected. -/
theorem cut_and_paste (dispatcher : Dispatcher (Session σ)) (session : Session σ) (line : String)
    (hoffers : dispatcher.Offers Command.builtin)
    (hline : Token.ofLine line = [.word "cut", .endOfLine])
    (hown : session.browser.shown.IsOwn) :
    let list := session.browser.shown
    let cut := dispatcher.dispatch line session
    (list.targetRows = [] → list.songs = [] ∧ (∃ error, cut.1 = .error error) ∧ cut.2.2 = session) ∧
    (list.targetRows ≠ [] → cut.1 = .ok () ∧ list.targetRows.Pairwise (· < ·) ∧
      cut.2.2.browser.clipboard = list.songsAt list.targetRows ∧
      cut.2.2.browser.shown.songs =
        list.songsAt ((List.range list.size).filter (· ∉ list.targetRows)) ∧
      (cut.2.2.browser.clipboard ++ cut.2.2.browser.shown.songs).Perm list.songs) ∧
    ∀ (first last : Nat) (back word : String), first ≤ last → last < list.size →
      list.targetRows = List.range' first (last + 1 - first) →
      Token.ofLine back = [.word "paste", .word word, .endOfLine] →
      word = "before" ∧ (last + 1 < list.size ∨ first = 0 ∧ last + 1 = list.size) ∨
        word = "after" ∧ last + 1 = list.size →
      let paste := cut.2.1.dispatch back cut.2.2
      cut.1 = .ok () ∧ paste.1 = .ok () ∧
        paste.2.2.browser.shown = { list with cursor := first, marked := [], anchor := none } := by
  intro list cut
  obtain ⟨hrefused, hcut⟩ := dispatch_cut_own hoffers hline hown
  refine ⟨fun hnone => ⟨songs_eq_nil_of_targetRows hnone, hrefused hnone⟩, fun hrows => ?_, ?_⟩
  · obtain ⟨hdone, hclipboard, hshown⟩ := hcut hrows
    have hrising := list.pairwise_targetRows
    refine ⟨hdone, hrising, ?_, ?_, ?_⟩
    · rw [hclipboard, removed_removeRows]
      exact (filterMap_getElem?_eq_keepRows hrising fun row _ => row.zero_le).symm
    · rw [hshown, songs_removeRows, songsAt_others]
    · rw [hclipboard, hshown, removed_removeRows, songs_removeRows]
      exact perm_keepRows list.targetRows.contains 0 list.songs
  · intro first last back word hfirst hlast htargets hback hword
    obtain ⟨above, block, below, hsongs, rfl, hblock, hsize⟩ := exists_block hfirst hlast
    obtain ⟨after, hafter, hplace⟩ : ∃ after, Command.afterCursor (.word word) = .ok after ∧
        if after then below = [] else below ≠ [] ∨ above = [] := by
      rcases hword with ⟨rfl, hbelow | ⟨habove, -⟩⟩ | ⟨rfl, hend⟩
      · exact ⟨false, rfl, .inl (List.length_pos_iff.1 (by omega))⟩
      · exact ⟨false, rfl, .inr (List.length_eq_zero_iff.1 habove)⟩
      · exact ⟨true, rfl, List.length_eq_zero_iff.1 (by omega)⟩
    exact paste_undoes_cut hoffers hline hown hsongs (List.length_pos_iff.1 (by omega))
      (hblock ▸ htargets) hback hafter hplace

end Commands

/-- The last two of three songs are cut and pasted. -/
theorem last_two_cut_and_pasted :
    let list : Songlist := {
      name := "Mine", kind := .custom, marked := [2], anchor := some 1, cursor := 1
      songs := ["a.flac", "b.flac", "c.flac"].map fun file => Song.ofTags [("file", file)] }
    let session : Session QueueServer :=
      { browser := { lists := [list], active := 0 }, chance := .first }
    let cut := Dispatcher.standard.dispatch "cut" session
    let paste := cut.2.1.dispatch "paste after" cut.2.2
    cut.1 = .ok () ∧ paste.1 = .ok () ∧
      cut.2.2.browser.clipboard = list.songs.drop 1 ∧
      cut.2.2.browser.shown.songs = list.songs.take 1 ∧
      paste.2.2.browser.shown = { list with cursor := 1, marked := [], anchor := none } := by
  intro list session cut paste
  obtain ⟨-, hcut, hpaste⟩ := cut_and_paste .standard session "cut" Dispatcher.offers_standard
    ofLine_cut (.inl rfl)
  obtain ⟨hdone, -, hclipboard, hshown, -⟩ := hcut (by decide)
  obtain ⟨-, hpasted, hback⟩ := hpaste 1 2 "paste after" "after" (by decide) (by decide) (by decide)
    (by decide +kernel) (.inr ⟨rfl, rfl⟩)
  exact ⟨hdone, hpasted, hclipboard.trans (by decide), hshown.trans (by decide), hback⟩

end Jukebox
