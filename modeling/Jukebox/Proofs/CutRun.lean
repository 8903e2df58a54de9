import Mathlib.Data.List.Induction
import Jukebox.Proofs.Observed
import Jukebox.Proofs.QueueView

/-
# Cuts of the queue, one after another

A cut that fails puts back what it deleted, each song at the place that the list knows of it. A cut
that succeeds takes rows out of the list, but the songs below keep the places that they had when the
list was loaded. So in a run of cuts with no news of the queue in between, it is a matter of those
places whether a cut that fails leaves the queue as it was. It does if the songs that it deleted stood
in the rows that are their places; where songs can be told apart, it does only then.
-/

namespace Jukebox

open Service QueueServer

namespace Session

/-- What the list on screen knows of the songs that a server had and later has no more. -/
def missing (session : Session QueueServer) (server later : QueueServer) : List QueueEntry :=
  (session.browser.shown.songs.filterMap Song.queueEntry?).filter fun entry =>
    entry.id ∈ server.ids ∧ entry.id ∉ later.ids

/-- The songs that were deleted on the way to a later session stood in the rows that are their
places. -/
def DeletedInPlace (before after : Session QueueServer) : Prop :=
  ∀ server ∈ before.player, ∀ later ∈ after.player, ∀ entry ∈ before.missing server later,
    server.entries[entry.position]? = some (entry.id, entry.file)

/-- In the rows that are the places of the songs that were deleted stood the same songs, and in the
other rows the same songs as are left, in the same order. -/
def DeletedAlike (before after : Session QueueServer) : Prop :=
  ∀ server ∈ before.player, ∀ later ∈ after.player,
    (∀ entry ∈ before.missing server later, server.uris[entry.position]? = some entry.file) ∧
    (server.entries.filter (·.1 ∈ later.ids)).map Prod.snd =
      Songlist.keepRows (· ∉ (before.missing server later).map (·.position)) 0 server.uris

/-- The songs of the queue are the same, and in the same order. -/
def SameQueue (before after : Session QueueServer) : Prop :=
  after.player.map (·.uris) = before.player.map (·.uris)

/-- Whether the queue is the same as before is a matter of the places of what was deleted. -/
structure TurnsOnPlaces (before after : Session QueueServer) : Prop where
  same_iff : before.SameQueue after ↔ before.DeletedAlike after
  same_of_in_place : before.DeletedInPlace after → before.SameQueue after
  in_place_of_same : (∀ server ∈ before.player, server.uris.Nodup) → before.SameQueue after →
    before.DeletedInPlace after

/-- A session shows the queue of a server, of whose songs this is known. -/
structure Mirrors (session : Session QueueServer) (server : QueueServer)
    (known : List QueueEntry) : Prop where
  player : session.player = some server
  accepts : server.AcceptsInsertions
  active : session.browser.active < session.browser.count
  kind : session.browser.shown.kind = .queue
  songs : session.browser.shown.songs.map Song.queueEntry? = known.map some
  known : server.BearsOut known

variable {session after : Session QueueServer} {server later : QueueServer}
  {known : List QueueEntry}

theorem Mirrors.modifyShown (h : session.Mirrors server known) {f : Songlist → Songlist}
    (hsongs : (f session.browser.shown).songs = session.browser.shown.songs)
    (hkind : (f session.browser.shown).kind = session.browser.shown.kind) :
    (session.modifyShown f).Mirrors server known := by
  have hshown : (session.modifyShown f).browser.shown = f session.browser.shown :=
    Browser.shown_modifyShown f h.active
  refine ⟨h.player, h.accepts, ?_, ?_, ?_, h.known⟩
  · change (session.browser.modifyShown f).active < (session.browser.modifyShown f).count
    rw [Browser.active_modifyShown, Browser.count_modifyShown]
    exact h.active
  · rw [hshown, hkind, h.kind]
  · rw [hshown, hsongs, h.songs]

/-- What is known of the songs that a cut deletes. -/
theorem Mirrors.deleteAll_eq (h : session.Mirrors server known) :
    (deleteAll session.browser.shown.selectedSongs : Exchange QueueServer Unit) =
      deleteFrom [] (Songlist.keepRows session.browser.shown.targetRows.contains 0 known) := by
  have hentries : session.browser.shown.selectedSongs.map Song.queueEntry? =
      (Songlist.keepRows session.browser.shown.targetRows.contains 0 known).map some := by
    rw [Songlist.selectedSongs_eq_keepRows, ← keepRows_map, h.songs, keepRows_map]
  have hrising := h.known.rising.sublist
    (keepRows_sublist session.browser.shown.targetRows.contains 0 known)
  rw [deleteAll_of_map_eq hentries, List.mergeSort_of_pairwise]
  exact hrising.imp fun hless => decide_eq_true (Nat.le_of_lt hless)

theorem Mirrors.missing_eq (h : session.Mirrors server known) (later : QueueServer) :
    session.missing server later =
      known.filter fun entry => entry.id ∈ server.ids ∧ entry.id ∉ later.ids := by
  have hknown : session.browser.shown.songs.filterMap Song.queueEntry? = known := by
    have hmap := congrArg (List.filterMap id) h.songs
    rw [List.filterMap_map, List.filterMap_map] at hmap
    exact hmap.trans List.filterMap_some
  rw [missing, hknown]

/-- When what was deleted has been put back, all turns on the places. -/
theorem Mirrors.turnsOnPlaces (h : session.Mirrors server known) {gone : List QueueEntry}
    {reached : QueueServer} (hdeleted : server.Deleted gone reached)
    (hgone : List.Sublist gone known) (hlater : after.player = some later)
    (huris : later.uris = (Service.after (gone.map QueueEntry.restoration) reached.counted).uris)
    (hids : ∀ id ∈ server.ids, id ∉ later.ids ↔ id ∈ gone.map (·.id)) :
    session.TurnsOnPlaces after := by
  have hrising := h.known.rising.sublist hgone
  have hmissing : session.missing server later = gone :=
    (h.missing_eq later).trans (h.known.filter_missing hids hgone hdeleted.known)
  have hsame : session.SameQueue after ↔ later.uris = server.uris := by
    rw [SameQueue, h.player, hlater]
    exact Option.some_inj
  have halike : session.DeletedAlike after ↔
      (∀ entry ∈ gone, server.uris[entry.position]? = some entry.file) ∧
        reached.uris = Songlist.keepRows (· ∉ gone.map (·.position)) 0 server.uris := by
    simp only [DeletedAlike, h.player, hlater, Option.mem_def, Option.some.injEq, forall_eq',
      hmissing, hdeleted.filter_remaining hids]
  have hplace : session.DeletedInPlace after ↔
      ∀ entry ∈ gone, server.entries[entry.position]? = some (entry.id, entry.file) := by
    simp only [DeletedInPlace, h.player, hlater, Option.mem_def, Option.some.injEq, forall_eq',
      hmissing]
  have hiff := hdeleted.uris_restored_eq_iff h.accepts hrising
  rw [← huris] at hiff
  constructor
  · rw [hsame, hiff, halike]
  · intro hstood
    rw [hsame, huris]
    exact hdeleted.uris_restored_eq h.accepts hrising (hplace.1 hstood)
  · intro hdistinct hqueue
    apply hplace.2
    intro entry hentry
    exact getElem?_entries_of_uris (hdistinct server h.player)
      (h.known.mem_entries (hgone.subset hentry) (hdeleted.known entry hentry))
      ((hiff.1 (hsame.1 hqueue)).1 entry hentry)

end Session

variable {dispatcher : Dispatcher (Session QueueServer)} {line : String}
  {session : Session QueueServer} {server : QueueServer} {known : List QueueEntry}

/-- After a line that is to cut songs the session still shows the queue, and if the line failed then
all turns on the places. -/
theorem Session.Mirrors.cut (h : session.Mirrors server known)
    (hoffers : dispatcher.Offers Command.builtin) {tokens : List Token}
    (hline : Token.ofLine line = .word "cut" :: tokens) :
    (∃ next left, (dispatcher.dispatch line session).2.2.Mirrors next left) ∧
      ((∃ error, (dispatcher.dispatch line session).1 = .error error) →
        session.TurnsOnPlaces (dispatcher.dispatch line session).2.2) := by
  have hasked := Exchange.asks_deleteAll session.browser.shown.selectedSongs server
  rcases dispatch_cut hoffers hline h.player h.kind with
    ⟨-, -, hsame⟩ | ⟨error, next, hrun, -, hafter⟩ | ⟨next, hrun, hok, hplayer, hbrowser⟩
  · rw [hsame]
    refine ⟨⟨server, known, h⟩, fun _ => ?_⟩
    exact h.turnsOnPlaces (deleted_nil server) (List.nil_sublist _) h.player rfl
      fun id hid => by simp [hid]
  · rw [hrun] at hasked
    rw [hafter]
    refine ⟨⟨next, known, rfl, accepts_later h.accepts hasked, h.active, h.kind, h.songs,
      h.known.later hasked⟩, fun _ => ?_⟩
    rw [h.deleteAll_eq] at hrun
    rcases deleteFrom_server_cases _ server with
      ⟨-, hdone, -⟩ | ⟨entry, rest, message, reached, -, hdeleted, -, hlast⟩
    · rw [hrun] at hdone
      cases hdone
    · rw [hrun] at hlast
      obtain ⟨-, rfl⟩ := Prod.mk.inj hlast
      have hgone := (deletable_sublist _ server).trans
        (keepRows_sublist session.browser.shown.targetRows.contains 0 known)
      exact h.turnsOnPlaces hdeleted hgone rfl rfl fun id =>
        hdeleted.not_mem_ids_restored_iff h.accepts
  · rw [hrun] at hasked
    have hshown : (dispatcher.dispatch line session).2.2.browser.shown =
        (session.browser.shown.removeRows session.browser.shown.targetRows).2 := by
      rw [hbrowser]
      exact Browser.shown_modifyShown _ h.active
    have hleft := keepRows_sublist (!session.browser.shown.targetRows.contains ·) 0 known
    refine ⟨⟨next, _, hplayer, accepts_later h.accepts hasked, ?_, ?_, ?_,
      (h.known.later hasked).sublist hleft⟩, ?_⟩
    · rw [hbrowser]
      change (session.browser.modifyShown _).active < (session.browser.modifyShown _).count
      rw [Browser.active_modifyShown, Browser.count_modifyShown]
      exact h.active
    · rw [hshown, Songlist.kind_removeRows, h.kind]
    · rw [hshown, Songlist.songs_removeRows, ← keepRows_map, h.songs, keepRows_map]
    · rintro ⟨error, herror⟩
      rw [hok] at herror
      cases herror

/-- A line begins with the name of a command that moves about or cuts. -/
def Edits (line : String) : Prop :=
  ∃ name ∈ ["cursor", "select", "cut"], ∃ tokens, Token.ofLine line = .word name :: tokens

/-- A line is to cut songs and fails. -/
def FailsToCut (dispatcher : Dispatcher (Session QueueServer)) (session : Session QueueServer)
    (line : String) : Prop :=
  (∃ tokens, Token.ofLine line = .word "cut" :: tokens) ∧
    ∃ error, (dispatcher.dispatch line session).1 = .error error

/-- After each line the session still shows the queue, and if the line was to cut songs and failed
then all turns on the places. -/
theorem Session.Mirrors.step (h : session.Mirrors server known)
    (hoffers : dispatcher.Offers Command.builtin) (hline : Edits line) :
    (∃ next left, (dispatcher.dispatch line session).2.2.Mirrors next left) ∧
      (FailsToCut dispatcher session line →
        session.TurnsOnPlaces (dispatcher.dispatch line session).2.2) := by
  obtain ⟨name, hname, tokens, htokens⟩ := hline
  by_cases hcut : name = "cut"
  · subst hcut
    obtain ⟨hnext, hplaces⟩ := h.cut hoffers htokens
    exact ⟨hnext, fun hfails => hplaces hfails.2⟩
  · have hbrowsing : Token.ofLine line = .word "cursor" :: tokens ∨
        Token.ofLine line = .word "select" :: tokens := by
      simp only [List.mem_cons, hcut, List.not_mem_nil, or_false] at hname
      rcases hname with rfl | rfl
      · exact .inl htokens
      · exact .inr htokens
    constructor
    · rcases dispatch_browsing hoffers hbrowsing session with
        hsame | ⟨f, chance, hsongs, hkind, hafter⟩
      · rw [hsame]
        exact ⟨server, known, h⟩
      · rw [hafter]
        exact ⟨server, known, { h.modifyShown hsongs hkind with }⟩
    · rintro ⟨⟨tokens', htokens'⟩, -⟩
      rw [htokens] at htokens'
      cases htokens'
      exact absurd rfl hcut

/-- Carries out lines one after another. -/
def Dispatcher.afterLines {ω : Type} (dispatcher : Dispatcher ω) (lines : List String) (world : ω) :
    Dispatcher ω × ω :=
  lines.foldl (fun reached line => (reached.1.dispatch line reached.2).2) (dispatcher, world)

theorem Dispatcher.afterLines_concat {ω : Type} (dispatcher : Dispatcher ω) (done : List String)
    (line : String) (world : ω) :
    dispatcher.afterLines (done ++ [line]) world =
      ((dispatcher.afterLines done world).1.dispatch line
        (dispatcher.afterLines done world).2).2 := by
  rw [afterLines, List.foldl_append]
  rfl

theorem Dispatcher.Offers.afterLines {ω : Type} {dispatcher : Dispatcher ω}
    {commands : List (String × Command ω)} (h : dispatcher.Offers commands) (lines : List String)
    (world : ω) : (dispatcher.afterLines lines world).1.Offers commands := by
  induction lines using List.reverseRecOn with
  | nil => exact h
  | append_singleton done line ih =>
    rw [afterLines_concat]
    exact ih.dispatch line _

/-- The list on screen was loaded from the queue of the server, and nothing has happened since. -/
structure Session.Loaded (session : Session QueueServer) (server : QueueServer) : Prop where
  player : session.player = some server
  active : session.browser.active < session.browser.count
  kind : session.browser.shown.kind = .queue
  songs : session.browser.shown.songs.map Song.queueEntry? = server.listing.map some

/-- Something holds of each cut in a run that fails, of the sessions before and after it. -/
def EachFailingCut (dispatcher : Dispatcher (Session QueueServer)) (session : Session QueueServer)
    (lines : List String) (P : Session QueueServer → Session QueueServer → Prop) : Prop :=
  ∀ done line, done ++ [line] <+: lines →
    FailsToCut (dispatcher.afterLines done session).1 (dispatcher.afterLines done session).2 line →
    P (dispatcher.afterLines done session).2 (dispatcher.afterLines (done ++ [line]) session).2

theorem Session.Loaded.mirrors (h : session.Loaded server) (haccepts : server.AcceptsInsertions) :
    session.Mirrors server server.listing :=
  ⟨h.player, haccepts, h.active, h.kind, h.songs, server.bearsOut_listing⟩

/-- As long as nothing was cut, every song stands in its place. -/
theorem Session.Loaded.deletedInPlace (h : session.Loaded server) (haccepts : server.AcceptsInsertions)
    (after : Session QueueServer) : session.DeletedInPlace after := by
  intro server' hserver later _ entry hentry
  obtain rfl : server = server' := Option.some.inj (h.player.symm.trans hserver)
  rw [(h.mirrors haccepts).missing_eq] at hentry
  exact getElem?_of_mem_listing (List.mem_of_mem_filter hentry)

/-- All through a run the session shows the queue. -/
theorem mirrors_afterLines (hoffers : dispatcher.Offers Command.builtin)
    (h : session.Mirrors server known) {lines : List String} (hlines : ∀ line ∈ lines, Edits line) :
    ∃ reached left, (dispatcher.afterLines lines session).2.Mirrors reached left := by
  induction lines using List.reverseRecOn with
  | nil => exact ⟨server, known, h⟩
  | append_singleton done line ih =>
    rw [List.forall_mem_append, List.forall_mem_singleton] at hlines
    obtain ⟨reached, left, hreached⟩ := ih hlines.1
    rw [Dispatcher.afterLines_concat]
    exact (hreached.step (hoffers.afterLines done session) hlines.2).1

/-- In a run of motions, selections and cuts from a list that was just loaded, a failing cut leaves the
queue as it was just if the rows that are the places of the songs that it deleted held the same songs as
those, and the other rows the same songs as are left. So it does if the songs stood in their places;
where no song is in the queue twice, only then. -/
theorem failing_cut_turns_on_places (dispatcher : Dispatcher (Session QueueServer))
    (session : Session QueueServer) (server : QueueServer) (lines : List String)
    (hoffers : dispatcher.Offers Command.builtin) (hloaded : session.Loaded server)
    (haccepts : server.AcceptsInsertions) (hlines : ∀ line ∈ lines, Edits line) :
    EachFailingCut dispatcher session lines Session.TurnsOnPlaces := by
  intro done line hpart hfails
  have hdone := (List.prefix_append done [line]).trans hpart
  have hline := hlines line (hpart.subset (List.mem_append_right _ List.mem_cons_self))
  obtain ⟨reached, left, hreached⟩ := mirrors_afterLines hoffers (hloaded.mirrors haccepts)
    fun other hother => hlines other (hdone.subset hother)
  rw [Dispatcher.afterLines_concat]
  exact (hreached.step (hoffers.afterLines done session) hline).2 hfails

/-- A client that has just loaded the queue of the server that does not delete the last song, with some
rows marked. -/
def showsKeepsLast (marked : List Nat) : Session QueueServer where
  browser := { lists := [{
    name := "Queue", kind := .queue, songs := keepsLast.entries.mapIdx describe, marked }] }
  player := some keepsLast
  chance := .first

theorem loaded_showsKeepsLast (marked : List Nat) :
    (showsKeepsLast marked).Loaded keepsLast := ⟨rfl, Nat.zero_lt_one, rfl, rfl⟩

theorem ofLine_cut : Token.ofLine "cut" = [.word "cut", .endOfLine] := by decide +kernel

theorem edits_cut : Edits "cut" := ⟨"cut", by simp, [.endOfLine], ofLine_cut⟩

/-- The first song and the last are to be cut; the first is deleted and put back. -/
theorem first_cut_keeps_queue :
    FailsToCut .standard (showsKeepsLast [0, 2]) "cut" ∧
      EachFailingCut .standard (showsKeepsLast [0, 2]) ["cut"] Session.SameQueue := by
  have hloaded := loaded_showsKeepsLast [0, 2]
  have hfails : FailsToCut .standard (showsKeepsLast [0, 2]) "cut" := by
    refine ⟨⟨[.endOfLine], ofLine_cut⟩, ?_⟩
    rcases dispatch_cut Dispatcher.offers_standard ofLine_cut hloaded.player hloaded.kind with
      ⟨-, hfailed, -⟩ | ⟨_, _, -, hfailed, -⟩ | ⟨next, hrun, -⟩
    · exact hfailed
    · exact hfailed
    · rw [(hloaded.mirrors fun _ _ _ => rfl).deleteAll_eq] at hrun
      have hdone : failure? _ = none := congrArg (fun outcome => failure? outcome.1) hrun
      exact absurd hdone (by decide +kernel)
  have hturns := failing_cut_turns_on_places .standard (showsKeepsLast [0, 2]) keepsLast ["cut"]
    Dispatcher.offers_standard hloaded (fun _ _ _ => rfl) (by simpa using edits_cut)
  refine ⟨hfails, fun done line hpart hfailed => (hturns done line hpart hfailed).same_of_in_place ?_⟩
  obtain ⟨rfl, -⟩ : done = [] ∧ line = "cut" := by
    simpa [List.prefix_cons_iff, List.append_eq_cons_iff] using hpart
  exact hloaded.deletedInPlace (fun _ _ _ => rfl) _

/-- After the first song is cut, the other two are to be cut as well; the second is deleted and then put
back behind the last, for in the list it is still the second. -/
theorem second_cut_reorders_queue :
    (showsKeepsLast []).Loaded keepsLast ∧ keepsLast.AcceptsInsertions ∧
    ∃ done line, (∀ other ∈ done ++ [line], Edits other) ∧
      FailsToCut (Dispatcher.standard.afterLines done (showsKeepsLast [])).1
        (Dispatcher.standard.afterLines done (showsKeepsLast [])).2 line ∧
      (Dispatcher.standard.afterLines done (showsKeepsLast [])).2.player.map (·.uris) =
        some ["b.flac", "c.flac"] ∧
      (Dispatcher.standard.afterLines (done ++ [line]) (showsKeepsLast [])).2.player.map (·.uris) =
        some ["c.flac", "b.flac"] := by
  have hselect : Edits "select visual" :=
    ⟨"select", by simp, [.word "visual", .endOfLine], by decide +kernel⟩
  have hcursor : Edits "cursor down" :=
    ⟨"cursor", by simp, [.word "down", .endOfLine], by decide +kernel⟩
  refine ⟨loaded_showsKeepsLast [], fun _ _ _ => rfl, ["cut", "select visual", "cursor down"], "cut",
    by simpa using ⟨edits_cut, hselect, hcursor, edits_cut⟩, ?_⟩
  rw [Dispatcher.afterLines_concat]
  have hoffers := Dispatcher.offers_standard.afterLines ["cut", "select visual", "cursor down"]
    (showsKeepsLast [])
  -- The run up to the last line can be computed; the sorting in a cut of two songs cannot.
  obtain ⟨hkind, hrows, hqueue, hentries, hfails, huris⟩ :
      let session := (Dispatcher.standard.afterLines ["cut", "select visual", "cursor down"]
        (showsKeepsLast [])).2
      let cut : Exchange QueueServer Unit := deleteFrom [] [⟨11, 1, "b.flac"⟩, ⟨12, 2, "c.flac"⟩]
      session.browser.shown.kind = .queue ∧
      session.browser.shown.targetRows.isEmpty = false ∧
      session.player.map (·.uris) = some ["b.flac", "c.flac"] ∧
      session.browser.shown.selectedSongs.map Song.queueEntry? =
        [⟨11, 1, "b.flac"⟩, ⟨12, 2, "c.flac"⟩].map some ∧
      (∀ service ∈ session.player, failure? (cut.run.run service).1 ≠ none) ∧
      session.player.map (fun service => (cut.run.run service).2.uris) =
        some ["c.flac", "b.flac"] := by
    decide +kernel
  obtain ⟨service, hplayer⟩ : ∃ service, (Dispatcher.standard.afterLines
      ["cut", "select visual", "cursor down"] (showsKeepsLast [])).2.player = some service :=
    Option.isSome_iff_exists.1 (by
      rw [← Option.isSome_map, hqueue]
      rfl)
  rw [hplayer] at hfails
  rw [hplayer, Option.map_some] at huris
  have hdelete := deleteAll_of_map_eq (σ := QueueServer) hentries
  rw [List.mergeSort_of_pairwise (by decide)] at hdelete
  rcases dispatch_cut hoffers ofLine_cut hplayer hkind with
    ⟨hrefused, -⟩ | ⟨error, next, hrun, hfailed, hafter⟩ | ⟨next, hrun, -⟩
  · rcases hrefused with hmore | hnothing
    · exact absurd rfl hmore
    · rw [hrows] at hnothing
      cases hnothing
  · rw [hdelete] at hrun
    rw [hrun] at huris
    rw [hafter]
    exact ⟨⟨⟨[.endOfLine], ofLine_cut⟩, hfailed⟩, hqueue, huris⟩
  · rw [hdelete] at hrun
    have hdone := hfails service rfl
    rw [hrun] at hdone
    exact absurd rfl hdone

end Jukebox
