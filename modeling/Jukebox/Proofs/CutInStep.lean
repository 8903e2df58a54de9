import Jukebox.Proofs.CutRun
import Jukebox.Proofs.KeptQueue
import Jukebox.Proofs.ListBounds

/-
# A cut keeps two queues in step

A cut acts on two queues: the songs that are selected are deleted from that of the service, one after
another in the order of the places stored with them, and the rows that are selected are taken out of the
list on screen. The songs are named by their ids there and by their rows here. If both queues have the
same ids in the same order, then these are the same songs, and what is left is in step again. For that it
does not matter where the stored places say that the songs are.
-/

namespace Jukebox

open Service Songlist

section Rows

variable {α : Type}

theorem mem_keepRows_iff {p : Nat → Bool} {start : Nat} {items : List α} {item : α} :
    item ∈ keepRows p start items ↔ ∃ row, items[row]? = some item ∧ p (start + row) = true := by
  induction items generalizing start with
  | nil => simp [keepRows]
  | cons first items ih =>
    have hrest : (∃ row, (first :: items)[row]? = some item ∧ p (start + row) = true) ↔
        (first = item ∧ p start = true) ∨ item ∈ keepRows p (start + 1) items := by
      rw [ih]
      constructor
      · rintro ⟨_ | row, hitem, hp⟩
        · exact .inl ⟨Option.some.inj hitem, hp⟩
        · exact .inr ⟨row, hitem, by rwa [Nat.add_right_comm, Nat.add_assoc]⟩
      · rintro (⟨rfl, hp⟩ | ⟨row, hitem, hp⟩)
        · exact ⟨0, rfl, hp⟩
        · exact ⟨row + 1, hitem, by rwa [Nat.add_right_comm, Nat.add_assoc] at hp⟩
    rw [hrest, keepRows]
    by_cases hp : p start = true
    · rw [if_pos hp, List.mem_cons, eq_comm, and_iff_left hp]
    · rw [if_neg hp, or_iff_right fun h => hp h.2]

/-- Without the items of some rows, what is in the other rows is left. -/
theorem filter_not_mem_keepRows [DecidableEq α] {items : List α} (hnodup : items.Nodup)
    (p : Nat → Bool) :
    items.filter (· ∉ keepRows p 0 items) = keepRows (fun row => !p row) 0 items := by
  refine filter_eq_keepRows fun row item hitem => ?_
  have hmem : item ∈ keepRows p 0 items ↔ p row = true := by
    rw [mem_keepRows_iff]
    constructor
    · rintro ⟨other, hother, hp⟩
      rwa [Nat.zero_add, row_eq_of_nodup hnodup hother hitem] at hp
    · exact fun hp => ⟨row, hitem, by rwa [Nat.zero_add]⟩
  rw [Nat.zero_add, decide_not, Bool.not_inj_iff, Bool.eq_iff_iff, decide_eq_true_iff]
  exact hmem

end Rows

namespace Songlist

theorem removed_removeRows (list : Songlist) (rows : List Nat) :
    (list.removeRows rows).1 = keepRows rows.contains 0 list.songs := by
  have hsame : keepRows (rows.filter (· < list.size)).contains 0 list.songs =
      keepRows rows.contains 0 list.songs :=
    keepRows_congr fun row _ hlt => contains_filter_lt hlt
  unfold removeRows
  dsimp only
  cases hmin : (rows.filter (· < list.size)).min? with
  | none =>
    rw [← hsame, List.min?_eq_none_iff.1 hmin]
    exact filterMap_getElem?_eq_keepRows List.Pairwise.nil fun row _ => row.zero_le
  | some first => exact hsame

variable {list : Songlist}

/-- The rows that commands act on all hold songs. -/
theorem InBounds.lt_size_of_mem_targetRows (h : list.InBounds) {row : Nat}
    (hrow : row ∈ list.targetRows) : row < list.size := by
  unfold targetRows at hrow
  split at hrow
  · next hempty =>
    obtain rfl := List.mem_singleton.1 hrow
    refine h.cursor_lt (List.length_pos_iff.2 fun hnil => ?_)
    simp [isEmpty, hnil] at hempty
  · exact (mem_selection.1 hrow).1

end Songlist

namespace QueueKeeper

variable {σ : Type} [Service σ] [QueueKeeper σ] {s next : σ}

/-- What is deleted was not refused. -/
theorem refusal?_eq_none_of_ok {request : Request} {reply : request.Reply}
    (h : (answer request s).1 = .ok reply) : refusal? request s = none := by
  cases hrefusal : refusal? request s with
  | none => rfl
  | some message => cases (rejected hrefusal).symm.trans h

/-- Songs of the queue that were deleted one after another are gone then, and the rest is as it was. -/
theorem queue_after_deletable {entries : List QueueEntry} (hall : deletable entries s = entries)
    (hdistinct : (entries.map (·.id)).Nodup)
    (hids : ∀ entry ∈ entries, entry.id ∈ (queue s).map Prod.fst) :
    queue (after (entries.map QueueEntry.deletion) s) =
      (queue s).filter (·.1 ∉ entries.map (·.id)) := by
  induction entries generalizing s with
  | nil => simp [after]
  | cons entry entries ih =>
    obtain ⟨hfirst, hrest⟩ := List.nodup_cons.1 hdistinct
    rcases hanswer : (answer entry.deletion s).1 with error | ⟨⟩
    · rw [deletable_cons_of_error hanswer] at hall
      cases hall
    rw [deletable_cons_of_ok hanswer] at hall
    obtain ⟨hid, hothers⟩ := List.forall_mem_cons.1 hids
    have hgranted := refusal?_eq_none_of_ok hanswer
    have hpresent : ∀ other ∈ entries,
        other.id ∈ (queue (answer entry.deletion s).2).map Prod.fst :=
      fun other hother => mem_queue_of_deleted hgranted hid (hothers other hother)
        fun heq => hfirst (List.mem_map.2 ⟨other, hother, heq⟩)
    rw [List.map_cons, after_cons, ih (List.cons.inj hall).2 hrest hpresent,
      (deleted hgranted hid).2, List.map_cons, filter_not_mem_cons]

/-- The list on screen and the queue of the service have the same ids in the same order, and each song
of the list is known well enough to be deleted. -/
structure InStep (list : Songlist) (s : σ) : Prop where
  ids : list.songs.map (·.id) = (queue s).map fun entry => some entry.1
  known : ∀ song ∈ list.songs, song.id.isSome ∧ song.position.isSome ∧ song.file?.isSome

variable {list : Songlist}

theorem InStep.exists_entries (h : InStep list s) {songs : List Song}
    (hsongs : ∀ song ∈ songs, song ∈ list.songs) :
    ∃ entries : List QueueEntry, songs.map Song.queueEntry? = entries.map some := by
  induction songs with
  | nil => exact ⟨[], rfl⟩
  | cons song songs ih =>
    obtain ⟨hsong, hrest⟩ := List.forall_mem_cons.1 hsongs
    obtain ⟨hid, hposition, hfile⟩ := h.known song hsong
    obtain ⟨entry, hentry⟩ : ∃ entry, song.queueEntry? = some entry := by
      refine Option.ne_none_iff_exists'.1 fun hnone => ?_
      rcases Song.queueEntry?_eq_none_iff.1 hnone with heq | heq | heq
      · simp [heq] at hid
      · simp [heq] at hposition
      · simp [heq] at hfile
    obtain ⟨entries, hentries⟩ := ih hrest
    exact ⟨entry :: entries, by rw [List.map_cons, List.map_cons, hentry, hentries]⟩

/-- The rows of the list are those of the queue. -/
theorem InStep.map_id_keepRows (h : InStep list s) (p : Nat → Bool) :
    (keepRows p 0 list.songs).map (·.id) = (keepRows p 0 ((queue s).map Prod.fst)).map some := by
  rw [← keepRows_map, ← keepRows_map, h.ids, List.map_map]
  rfl

/-- Where the selected songs can be deleted, the list without them is in step with what is left. -/
theorem InStep.removeRows (h : InStep list s) (hdistinct : ((queue s).map Prod.fst).Nodup)
    (hrun : (deleteAll list.selectedSongs : Exchange σ Unit).run.run s = (.ok (), next)) :
    InStep (list.removeRows list.targetRows).2 next := by
  rw [list.selectedSongs_eq_keepRows] at hrun
  obtain ⟨entries, hentries⟩ : ∃ entries : List QueueEntry,
      (keepRows list.targetRows.contains 0 list.songs).map Song.queueEntry? = entries.map some :=
    h.exists_entries fun song hsong => (keepRows_sublist _ 0 list.songs).mem hsong
  have hids : entries.map (·.id) = keepRows list.targetRows.contains 0 ((queue s).map Prod.fst) := by
    refine List.map_injective_iff.2 (fun _ _ => Option.some.inj) ?_
    rw [← h.map_id_keepRows, QueueServer.map_id_of_entries hentries, List.map_map]
    rfl
  -- In whatever order the songs are deleted, the same ones are gone.
  have hperm := List.mergeSort_perm entries fun a b => a.position ≤ b.position
  rw [deleteAll_of_map_eq hentries] at hrun
  generalize (entries.mergeSort fun a b => a.position ≤ b.position) = sorted at hperm hrun
  have hgone : ∀ id, id ∈ sorted.map (·.id) ↔
      id ∈ keepRows list.targetRows.contains 0 ((queue s).map Prod.fst) := fun id => by
    rw [(hperm.map _).mem_iff, hids]
  have hpart := keepRows_sublist list.targetRows.contains 0 ((queue s).map Prod.fst)
  rcases deleteFrom_cases [] sorted s with ⟨hall, hcases⟩ | ⟨_, _, _, -, -, hcases⟩
  · obtain rfl : next = _ := congrArg Prod.snd (hrun.symm.trans hcases)
    have hqueue := queue_after_deletable hall
      ((hperm.map _).nodup_iff.2 (hids ▸ hdistinct.sublist hpart))
      fun entry hentry => hpart.mem ((hgone entry.id).1 (List.mem_map_of_mem hentry))
    constructor
    · rw [songs_removeRows, h.map_id_keepRows, hqueue, ← filter_not_mem_keepRows hdistinct,
        List.filter_map, List.map_map]
      refine congrArg (List.map _) (List.filter_congr fun entry _ => ?_)
      exact decide_eq_decide.2 (not_congr (hgone entry.1).symm)
    · intro song hsong
      rw [songs_removeRows] at hsong
      exact h.known song ((keepRows_sublist _ 0 list.songs).mem hsong)
  · cases hrun.symm.trans hcases

end QueueKeeper

section Cut

open QueueKeeper

/-- A cut of the queue that succeeds takes the same songs out of the list on screen and of the queue of
the service, and keeps them in the clipboard in the order of the list. The songs that are selected are
those in the rows that commands act on, in order, and each of these rows holds a song. -/
theorem cut_keeps_queues_in_step (σ : Type) [Service σ] [QueueKeeper σ] :
    (∀ (dispatcher : Dispatcher (Session σ)) (session : Session σ) (line : String)
      (tokens : List Token) (server : σ), dispatcher.Offers Command.builtin →
      Token.ofLine line = .word "cut" :: tokens →
      session.player = some server → ((queue server).map Prod.fst).Nodup →
      session.browser.active < session.browser.count → session.browser.shown.kind = .queue →
      InStep session.browser.shown server →
      (dispatcher.dispatch line session).1 = .ok () →
      let before := session.browser.shown
      let after := (dispatcher.dispatch line session).2.2
      (∃ next, after.player = some next ∧ InStep after.browser.shown next) ∧
        after.browser.clipboard = keepRows before.targetRows.contains 0 before.songs ∧
        after.browser.shown.songs = keepRows (!before.targetRows.contains ·) 0 before.songs) ∧
    ∀ list : Songlist, list.selectedSongs = list.songsAt list.targetRows ∧
      (list.InBounds → ∀ row ∈ list.targetRows, row < list.size) := by
  constructor
  · intro dispatcher session line tokens server hoffers hline hplayer hdistinct hactive hkind hstep hok
      before after
    rcases dispatch_cut hoffers hline hplayer hkind with
      ⟨-, ⟨_, herror⟩, -⟩ | ⟨_, _, -, ⟨_, herror⟩, -⟩ | ⟨next, hrun, -, hnext, hbrowser⟩
    · cases herror.symm.trans hok
    · cases herror.symm.trans hok
    · have hshown : after.browser.shown = (before.removeRows before.targetRows).2 := by
        rw [hbrowser]
        exact Browser.shown_modifyShown (fun _ => _) hactive
      have hclipboard : after.browser.clipboard = (before.removeRows before.targetRows).1 := by
        rw [hbrowser]
      rw [hshown, hclipboard]
      exact ⟨⟨next, hnext, hstep.removeRows hdistinct hrun⟩, removed_removeRows _ _,
        songs_removeRows _ _⟩
  · exact fun list => ⟨list.selectedSongs_eq_songsAt, fun h row => h.lt_size_of_mem_targetRows⟩

/-- The second song of three is marked and cut while the cursor is on the first. -/
theorem cut_of_marked_song_keeps_in_step :
    let after := (Dispatcher.standard.dispatch "cut" (showsKeepsLast [1])).2.2
    InStep (showsKeepsLast [1]).browser.shown keepsLast ∧
    (Dispatcher.standard.dispatch "cut" (showsKeepsLast [1])).1 = .ok () ∧
    (∃ next, after.player = some next ∧ InStep after.browser.shown next) ∧
    after.browser.clipboard.map (·.id) = [some 11] ∧
    after.browser.shown.songs.map (·.id) = [some 10, some 12] := by
  intro after
  have hstep : InStep (showsKeepsLast [1]).browser.shown keepsLast := ⟨rfl, by decide⟩
  have hok : (Dispatcher.standard.dispatch "cut" (showsKeepsLast [1])).1 = .ok () :=
    failure?_eq_none_iff.1 (by decide +kernel)
  obtain ⟨hnext, hclipboard, hsongs⟩ := (cut_keeps_queues_in_step QueueServer).1 .standard
    (showsKeepsLast [1]) "cut" [.endOfLine] keepsLast Dispatcher.offers_standard ofLine_cut rfl
    keepsLast.nodup Nat.zero_lt_one rfl hstep hok
  refine ⟨hstep, hok, hnext, ?_, ?_⟩
  · rw [hclipboard]
    decide
  · rw [hsongs]
    decide

end Cut

end Jukebox
