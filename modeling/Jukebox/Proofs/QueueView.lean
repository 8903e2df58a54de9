import Jukebox.Proofs.Act
import Jukebox.Proofs.DeleteAll
import Jukebox.Proofs.Dispatch
import Jukebox.Proofs.Listing

/-
# The queue on screen

While no news of the queue comes in, the list on screen changes only by what the user does. Motions
and selections leave its songs alone. A cut has the selected songs deleted, in the order in which they
are listed, and takes them out of the list if that succeeds.
-/

namespace Jukebox

open Service

namespace Songlist

theorem pairwise_targetRows (list : Songlist) : list.targetRows.Pairwise (· < ·) := by
  unfold targetRows
  split
  · exact List.pairwise_singleton _ _
  · exact list.pairwise_selection

/-- The selected songs are those in the rows that commands act on. -/
theorem selectedSongs_eq_songsAt (list : Songlist) :
    list.selectedSongs = list.songsAt list.targetRows := by
  unfold selectedSongs targetRows
  cases hselection : list.selection.isEmpty with
  | false => simp
  | true =>
    rw [if_pos rfl, Bool.true_and, List.isEmpty_iff.1 hselection]
    cases hsongs : list.songs with
    | nil => simp [cursorSong?, songsAt, hsongs]
    | cons song songs =>
      simp only [isEmpty, hsongs, List.isEmpty_cons, Bool.not_false, if_true, songsAt,
        List.filterMap_cons, List.filterMap_nil, cursorSong?]
      cases (song :: songs)[list.cursor]? <;> rfl

theorem selectedSongs_eq_keepRows (list : Songlist) :
    list.selectedSongs = keepRows list.targetRows.contains 0 list.songs := by
  rw [selectedSongs_eq_songsAt]
  exact filterMap_getElem?_eq_keepRows list.pairwise_targetRows fun row _ => Nat.zero_le row

theorem kind_removeRows (list : Songlist) (rows : List Nat) :
    (list.removeRows rows).2.kind = list.kind := by
  unfold removeRows
  dsimp only
  split <;> rfl

theorem songs_removeRows (list : Songlist) (rows : List Nat) :
    (list.removeRows rows).2.songs = keepRows (!rows.contains ·) 0 list.songs := by
  have hsame : keepRows (!(rows.filter (· < list.size)).contains ·) 0 list.songs =
      keepRows (!rows.contains ·) 0 list.songs :=
    keepRows_congr fun row _ hlt => congrArg not (contains_filter_lt hlt)
  unfold removeRows
  dsimp only
  split
  · next hnone =>
    rw [← hsame, List.min?_eq_none_iff.1 hnone]
    exact (keepRows_true list.songs).symm
  · exact hsame

end Songlist

namespace Command

/-- A motion does nothing but put the cursor somewhere. -/
theorem Motion.exists_cursor {motion : Motion} {chance : Chance} {browser : Browser}
    {list : Songlist} (h : motion.apply? chance browser = some list) :
    ∃ cursor, list = { browser.shown with cursor } := by
  cases motion with
  | current =>
    obtain ⟨row, -, rfl⟩ := Option.map_eq_some_iff.1 h
    exact ⟨_, rfl⟩
  | random =>
    obtain rfl := Option.some.inj h
    split
    · exact ⟨_, rfl⟩
    · exact ⟨_, rfl⟩
  | _ => exact ⟨_, (Option.some.inj h).symm⟩

/-- No way of selecting changes what is listed. -/
theorem Selecting.apply_same (selecting : Selecting) (list : Songlist) :
    (selecting.apply list).songs = list.songs ∧ (selecting.apply list).kind = list.kind := by
  cases selecting with
  | visual =>
    simp only [apply, Songlist.toggleVisual]
    split <;> exact ⟨rfl, rfl⟩
  | toggle =>
    simp only [apply, Songlist.toggleMark]
    split
    · split <;> exact ⟨rfl, rfl⟩
    · exact ⟨rfl, rfl⟩
  | nearby tags =>
    simp only [apply, Songlist.selectNearby]
    split <;> exact ⟨rfl, rfl⟩

end Command

@[simp]
theorem Browser.active_modifyShown (b : Browser) (f : Songlist → Songlist) :
    (b.modifyShown f).active = b.active := by
  unfold modifyShown
  split <;> rfl

section Commands

variable {σ : Type} [Service σ] {dispatcher : Dispatcher (Session σ)} {line : String}
  {tokens : List Token} {session : Session σ}

omit [Service σ] in
theorem run_run_takeOut (rows : List Nat) (session : Session σ) :
    ∃ next, (Command.takeOut rows).run.run session = (.ok (), next) ∧
      next.player = session.player ∧
      next.browser = { session.browser.modifyShown fun _ =>
        (session.browser.shown.removeRows rows).2 with
          clipboard := (session.browser.shown.removeRows rows).1 } := ⟨_, rfl, rfl, rfl⟩

/-- What becomes of a line that is to cut songs of the queue. It is refused at once if it says more than
that, or if there is nothing to cut. -/
theorem dispatch_cut (hoffers : dispatcher.Offers Command.builtin)
    (hline : Token.ofLine line = .word "cut" :: tokens) {service : σ}
    (hplayer : session.player = some service) (hkind : session.browser.shown.kind = .queue) :
    ((tokens ≠ [.endOfLine] ∨ session.browser.shown.targetRows.isEmpty) ∧
      (∃ error, (dispatcher.dispatch line session).1 = .error error) ∧
      (dispatcher.dispatch line session).2.2 = session) ∨
    (∃ error next, (deleteAll session.browser.shown.selectedSongs).run.run service =
        (.error error, next) ∧
      (∃ error, (dispatcher.dispatch line session).1 = .error error) ∧
      (dispatcher.dispatch line session).2.2 = { session with player := some next }) ∨
    ∃ next, (deleteAll session.browser.shown.selectedSongs).run.run service = (.ok (), next) ∧
      (dispatcher.dispatch line session).1 = .ok () ∧
      (dispatcher.dispatch line session).2.2.player = some next ∧
      (dispatcher.dispatch line session).2.2.browser = { session.browser.modifyShown fun _ =>
        (session.browser.shown.removeRows session.browser.shown.targetRows).2 with
          clipboard :=
            (session.browser.shown.removeRows session.browser.shown.targetRows).1 } := by
  have hmem : ("cut", Command.cut) ∈ (Command.builtin : List (String × Command (Session σ))) := by
    simp [Command.builtin]
  obtain ⟨words, rfl, ⟨error, hread, herror, hsame⟩ | ⟨⟨⟩, -, hresult, hafter⟩⟩ :=
    hoffers.dispatch_simple Dispatcher.nodup_names_builtin hmem hline session
  · refine .inl ⟨.inl ?_, ⟨_, herror⟩, hsame⟩
    intro hbare
    obtain rfl : words = [] := List.append_cancel_right hbare
    cases hread
  · rw [Act.run_run_get_bind] at hresult hafter
    simp only [hkind] at hresult hafter
    by_cases hrows : session.browser.shown.targetRows.isEmpty = true
    · rw [if_pos hrows, run_run_bind_of_error (run_run_throw session _)] at hresult hafter
      exact .inl ⟨.inr hrows, ⟨_, hresult⟩, hafter⟩
    · rw [if_neg hrows] at hresult hafter
      rcases hrun : (deleteAll session.browser.shown.selectedSongs : Exchange σ Unit).run.run
        service with ⟨error | ⟨⟩, next⟩
      · have hrequest := run_run_request hplayer "cut" hrun
        rw [run_run_bind_of_error hrequest] at hresult hafter
        exact .inr (.inl ⟨error, next, rfl, ⟨_, hresult⟩, hafter⟩)
      · have hrequest := run_run_request hplayer "cut" hrun
        obtain ⟨last, htake, hlast, hbrowser⟩ := run_run_takeOut
          session.browser.shown.targetRows { session with player := some next }
        rw [run_run_bind_of_ok hrequest, htake] at hresult hafter
        rw [hafter]
        exact .inr (.inr ⟨next, rfl, hresult, hlast, hbrowser⟩)

/-- A motion or a selection leaves the songs of the list on screen alone. A motion may use up some
chance. -/
theorem dispatch_browsing (hoffers : dispatcher.Offers Command.builtin)
    (hline : Token.ofLine line = .word "cursor" :: tokens ∨
      Token.ofLine line = .word "select" :: tokens) (session : Session σ) :
    (dispatcher.dispatch line session).2.2 = session ∨
    ∃ (f : Songlist → Songlist) (chance : Chance),
      (f session.browser.shown).songs = session.browser.shown.songs ∧
      (f session.browser.shown).kind = session.browser.shown.kind ∧
      (dispatcher.dispatch line session).2.2 = { session.modifyShown f with chance } := by
  rcases hline with hline | hline
  · have hmem : ("cursor", Command.cursor) ∈
        (Command.builtin : List (String × Command (Session σ))) := by simp [Command.builtin]
    obtain ⟨_, -, ⟨_, -, -, hsame⟩ | ⟨motion, -, -, hafter⟩⟩ :=
      hoffers.dispatch_simple Dispatcher.nodup_names_builtin hmem hline session
    · exact .inl hsame
    · rw [Act.run_run_get_bind] at hafter
      cases happly : motion.apply? session.chance session.browser with
      | none =>
        simp only [happly, run_run_throw] at hafter
        exact .inl hafter
      | some list =>
        simp only [happly, run_run_modify] at hafter
        obtain ⟨row, rfl⟩ := Command.Motion.exists_cursor happly
        exact .inr ⟨_, _, rfl, rfl, hafter⟩
  · have hmem : ("select", Command.select) ∈
        (Command.builtin : List (String × Command (Session σ))) := by simp [Command.builtin]
    obtain ⟨_, -, ⟨_, -, -, hsame⟩ | ⟨selecting, -, -, hafter⟩⟩ :=
      hoffers.dispatch_simple Dispatcher.nodup_names_builtin hmem hline session
    · exact .inl hsame
    · rw [run_run_modify] at hafter
      obtain ⟨hsongs, hkind⟩ := selecting.apply_same session.browser.shown
      exact .inr ⟨selecting.apply, session.chance, hsongs, hkind, hafter⟩

end Commands

end Jukebox
