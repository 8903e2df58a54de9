import Jukebox.Proofs.AddAll
import Jukebox.Proofs.QueueView

/-
# Songs that are played from elsewhere

To play songs of another list than the queue, they are added to the queue, all or none, and then the
first of them is to play. So there is one request more than those that are taken back together. As long
as nothing is refused but an addition, a failure leaves the queue as it was. If the service has taken all
the songs and will not play the first of them, they stay where they were put: at the end of the queue, in
order, under ids of their own.
-/

namespace Jukebox

open Service

theorem ne_nil_of_mapM {α β : Type} {f : α → Option β} {items : List α} {results : List β}
    (h : items.mapM f = some results) (hne : items ≠ []) : results ≠ [] := by
  cases items with
  | nil => exact absurd rfl hne
  | cons item items =>
    rintro rfl
    rw [List.mapM_cons] at h
    simp [Option.bind_eq_some_iff] at h

namespace QueueKeeper

variable {σ : Type} [Service σ] [QueueKeeper σ] {s : σ} {files : List String}

/-- Songs were put at the end of the queue in order, under ids that no other song has. -/
structure Appended (s next : σ) (ids : List Nat) (files : List String) : Prop where
  length_eq : ids.length = files.length
  distinct : ids.Nodup
  fresh : ∀ id ∈ ids, id ∉ (queue s).map Prod.fst
  queue_eq : queue next = queue s ++ ids.zip files

/-- If nothing is added to songs that were added, they are still what was added. -/
theorem Appended.of_queue_eq {next later : σ} {ids : List Nat} (h : Appended s next ids files)
    (hsame : queue later = queue next) : Appended s later ids files :=
  ⟨h.length_eq, h.distinct, h.fresh, hsame.trans h.queue_eq⟩

/-- Songs are added at the end, all of them or none. -/
theorem addAll_at_end_cases (haccepts : AcceptsDeletions s) (files : List String) :
    (∃ message next, firstRefusal? (additions files none) s = some message ∧
      (addAll files none : Exchange σ (List Nat)).run.run s = (.error (.rejected message), next) ∧
      queue next = queue s) ∨
    ∃ ids next, firstRefusal? (additions files none) s = none ∧
      (addAll files none : Exchange σ (List Nat)).run.run s = (.ok ids, next) ∧
      Appended s next ids files := by
  have hstart : Holds s (queue s) [] [] := ⟨by simp, List.nodup_nil, nofun⟩
  have hall := hstart.addFrom haccepts (.inr ⟨rfl, rfl⟩) files
  rw [List.map_nil] at hall
  split at hall
  · next hnone =>
    obtain ⟨ids, hok, hlength, hholds⟩ := hall
    have hids : ([] ++ ids.zip files).map Prod.fst = ids := List.map_fst_zip (Nat.le_of_eq hlength)
    refine .inr ⟨ids, _, hnone, Prod.ext hok rfl, hlength, hids ▸ hholds.distinct, ?_, ?_⟩
    · intro id hid
      rw [← hids] at hid
      obtain ⟨entry, hentry, rfl⟩ := List.mem_map.1 hid
      have hother := hholds.fresh entry hentry
      rwa [List.append_nil] at hother
    · exact hholds.queue_eq.trans (List.append_nil _)
  · next message hsome =>
    obtain ⟨herror, hqueue⟩ := hall
    rw [List.append_nil] at hqueue
    exact .inl ⟨message, _, hsome, Prod.ext herror rfl, hqueue⟩

/-- Nothing is added, or all is added and the first song is to play. -/
theorem playAdded_cases (haccepts : AcceptsDeletions s) (hfiles : files ≠ []) :
    (∃ message next, firstRefusal? (additions files none) s = some message ∧
      (Command.playAdded files : Exchange σ Unit).run.run s = (.error (.rejected message), next) ∧
      queue next = queue s) ∨
    ∃ first rest reached, firstRefusal? (additions files none) s = none ∧
      Appended s reached (first :: rest) files ∧
      (Command.playAdded files : Exchange σ Unit).run.run s = answer (.playId first) reached := by
  rcases addAll_at_end_cases haccepts files with
    ⟨message, next, hrefused, hrun, hqueue⟩ | ⟨ids, next, hgranted, hrun, happended⟩
  · exact .inl ⟨message, next, hrefused, run_run_bind_of_error hrun, hqueue⟩
  · cases ids with
    | nil => exact absurd (List.length_eq_zero_iff.1 happended.length_eq.symm) hfiles
    | cons first rest =>
      exact .inr ⟨first, rest, next, hgranted, happended, run_run_bind_of_ok hrun⟩

end QueueKeeper

section Commands

variable {σ : Type} [Service σ] {dispatcher : Dispatcher (Session σ)} {line word : String}
  {session : Session σ} {songs : List Song}

/-- The songs that a word after `play` stands for. -/
inductive Names (session : Session σ) : String → List Song → Prop
  | cursor : Names session "cursor" session.browser.cursorSong?.toList
  | selection : Names session "selection" session.browser.shown.selectedSongs

omit [Service σ] in
theorem readLine_songsToPlay (hnamed : Names session word songs) :
    Command.songsToPlay.readLine session [.word word] =
      if songs.isEmpty then .error (.failed "Cannot play: no song under cursor") else .ok songs := by
  have hword : Command.songsToPlay.read session [] (.word word) =
      if songs.isEmpty then .error (.failed "Cannot play: no song under cursor") else .ok songs := by
    cases hnamed with
    | cursor =>
      simp only [Command.songsToPlay]
      rw [if_pos trivial]
    | selection =>
      simp only [Command.songsToPlay]
      rw [if_neg (by decide), if_pos trivial]
  rw [Reader.readLine, List.foldlM_cons, show Command.songsToPlay.start = [] from rfl, hword]
  split <;> rfl

/-- What becomes of a line that is to play songs of another list than the queue. If there are none, or
one of them has no place on the server, nothing is asked. -/
theorem dispatch_play_named (hoffers : dispatcher.Offers Command.builtin)
    (hline : Token.ofLine line = [.word "play", .word word, .endOfLine])
    (hnamed : Names session word songs) {server : σ} (hplayer : session.player = some server)
    (hkind : session.browser.shown.kind ≠ .queue) :
    ((songs = [] ∨ songs.mapM Song.file? = none) ∧
      (dispatcher.dispatch line session).2.2 = session) ∨
    ∃ files, songs.mapM Song.file? = some files ∧ files ≠ [] ∧
      ∀ result next, (Command.playAdded files : Exchange σ Unit).run.run server = (result, next) →
        (dispatcher.dispatch line session).1 =
          (result.mapError (.ofPlayback "play")).mapError .command ∧
        (dispatcher.dispatch line session).2.2 = { session with player := some next } := by
  have hmem : ("play", Command.play) ∈
      (Command.builtin : List (String × Command (Session σ))) := by simp [Command.builtin]
  have hread := readLine_songsToPlay hnamed
  obtain ⟨words, hwords, ⟨error, hrefused, -, hsame⟩ | ⟨value, hvalue, hresult, hafter⟩⟩ :=
    hoffers.dispatch_simple Dispatcher.nodup_names_builtin hmem hline session
  · obtain rfl : words = [.word word] := List.append_cancel_right hwords.symm
    rw [hread] at hrefused
    split at hrefused
    · next hnone => exact .inl ⟨.inl (List.isEmpty_iff.1 hnone), hsame⟩
    · cases hrefused
  · obtain rfl : words = [.word word] := List.append_cancel_right hwords.symm
    rw [hread] at hvalue
    split at hvalue
    · cases hvalue
    · next hsome =>
      obtain rfl : songs = value := Except.ok.inj hvalue
      have hother : session.browser.isQueue = false := by simpa [Browser.isQueue] using hkind
      rw [if_neg hsome, Command.playSongs, Act.run_run_get_bind, if_neg (by simp [hother])]
        at hresult hafter
      cases hfiles : songs.mapM Song.file? with
      | none =>
        simp only [hfiles] at hafter
        exact .inl ⟨.inr rfl, hafter⟩
      | some files =>
        simp only [hfiles] at hresult hafter
        refine .inr ⟨files, rfl, ?_, fun result next hrun => ?_⟩
        · exact ne_nil_of_mapM hfiles fun hnil => hsome (List.isEmpty_iff.2 hnil)
        · rw [run_run_request hplayer "play" hrun] at hresult hafter
          exact ⟨hresult, hafter⟩

open QueueKeeper

variable [QueueKeeper σ]

/-- All of some songs have a place on the server, and it refuses to add none of them. -/
structure TakesAll (server : σ) (songs : List Song) (files : List String) : Prop where
  places : songs.mapM Song.file? = some files
  some_file : files ≠ []
  granted : firstRefusal? (additions files none) server = none

/-- When songs of another list than the queue are to play and that fails, then either the server did not
take all of them, and its queue is what it was; or it did, and they are at the end of its queue, but it
does not play the first of them. -/
theorem failed_play_keeps_queue_or_songs (dispatcher : Dispatcher (Session σ))
    (session : Session σ) (server : σ) (line word : String) (songs : List Song)
    (hoffers : dispatcher.Offers Command.builtin)
    (hline : Token.ofLine line = [.word "play", .word word, .endOfLine])
    (hnamed : Names session word songs) (hplayer : session.player = some server)
    (hkind : session.browser.shown.kind ≠ .queue) (haccepts : AcceptsDeletions server)
    (hfailed : ∃ error, (dispatcher.dispatch line session).1 = .error error) :
    ∃ next, (dispatcher.dispatch line session).2.2.player = some next ∧
      ((¬ ∃ files, TakesAll server songs files) → queue next = queue server) ∧
      ∀ files, TakesAll server songs files →
        ∃ first rest reached error, Appended server reached (first :: rest) files ∧
          answer (.playId first) reached = (.error error, next) ∧
          Appended server next (first :: rest) files := by
  rcases dispatch_play_named hoffers hline hnamed hplayer hkind with
    ⟨hnothing, hsame⟩ | ⟨files, hfiles, hsome, hasked⟩
  · have hnone (files) (htakes : TakesAll server songs files) : False := by
      have hplaces := htakes.places
      rcases hnothing with rfl | hmissing
      · exact htakes.some_file (Option.some.inj hplaces).symm
      · cases hmissing.symm.trans hplaces
    rw [hsame]
    exact ⟨server, hplayer, fun _ => rfl, fun files htakes => (hnone files htakes).elim⟩
  · rcases playAdded_cases haccepts hsome with
      ⟨message, next, hrefused, hrun, hqueue⟩ | ⟨first, rest, reached, hgranted, happended, hrun⟩
    · refine ⟨next, by rw [(hasked _ _ hrun).2], fun _ => hqueue, fun others htakes => ?_⟩
      obtain rfl : files = others := Option.some.inj (hfiles.symm.trans htakes.places)
      cases hrefused.symm.trans htakes.granted
    · -- All songs were added, so only the last request is left to have failed.
      have htakes : TakesAll server songs files := ⟨hfiles, hsome, hgranted⟩
      obtain ⟨hresult, hafter⟩ := hasked _ _ (hrun.trans (Prod.eta _).symm)
      obtain ⟨error, herror⟩ : ∃ error, (answer (.playId first) reached).1 = .error error := by
        obtain ⟨failure, hfailure⟩ := hfailed
        rw [hresult] at hfailure
        obtain ⟨cause, hcause, -⟩ := exists_of_mapError_eq_error hfailure
        obtain ⟨error, herror, -⟩ := exists_of_mapError_eq_error hcause
        exact ⟨error, herror⟩
      refine ⟨_, by rw [hafter], fun hno => absurd ⟨files, htakes⟩ hno, fun others hothers => ?_⟩
      obtain rfl : files = others := Option.some.inj (hfiles.symm.trans hothers.places)
      exact ⟨first, rest, reached, error, happended, Prod.ext herror rfl,
        happended.of_queue_eq (unchanged herror)⟩

end Commands

namespace QueueServer

open QueueKeeper

/-- A client that shows the library of a server, with all songs marked. -/
def showsLibrary (server : QueueServer) (files : List String) : Session QueueServer where
  browser := {
    lists := [{ name := "Queue", kind := .queue }, {
      name := "Library", kind := .library, marked := List.range files.length
      songs := files.map fun file => Song.ofTags [("file", file)] }]
    active := 1 }
  player := some server
  chance := .first

/-- One of two songs is missing, so the other is not added either. -/
theorem lacksOne_plays_neither :
    let session := showsLibrary lacksOne ["c.flac", "missing.flac"]
    let played := Dispatcher.standard.dispatch "play selection" session
    (∃ error, played.1 = .error error) ∧
      ∃ next, played.2.2.player = some next ∧ queue next = queue lacksOne := by
  intro session played
  have hline : Token.ofLine "play selection" = [.word "play", .word "selection", .endOfLine] := by
    decide +kernel
  have hplaces : session.browser.shown.selectedSongs.mapM Song.file? =
      some ["c.flac", "missing.flac"] := by decide
  have hfailed : ∃ error, played.1 = .error error := by
    rcases dispatch_play_named Dispatcher.offers_standard hline .selection
      (show session.player = some lacksOne from rfl) (by decide) with
      ⟨hnothing, -⟩ | ⟨files, hfiles, -, hasked⟩
    · exact absurd hnothing (by decide)
    · obtain rfl := Option.some.inj (hplaces.symm.trans hfiles)
      exact ⟨_, (hasked (.error (.rejected "No such song")) _ rfl).1⟩
  obtain ⟨next, hnext, hkept, -⟩ := failed_play_keeps_queue_or_songs .standard session lacksOne
    "play selection" "selection" _ Dispatcher.offers_standard hline .selection rfl (by decide)
    (acceptsDeletions fun _ _ => rfl) hfailed
  refine ⟨hfailed, next, hnext, hkept ?_⟩
  rintro ⟨files, htakes⟩
  obtain rfl := Option.some.inj (hplaces.symm.trans htakes.places)
  exact absurd htakes.granted nofun

/-- A server that plays no song of its queue. -/
def playsNone : QueueServer :=
  { lacksOne with
    refusal
      | _, .playId _ => some "No such song"
      | _, _ => none }

/-- The song under the cursor is added, and stays in the queue although it is not played. -/
theorem playsNone_keeps_added_song :
    let session := showsLibrary playsNone ["c.flac"]
    let played := Dispatcher.standard.dispatch "play cursor" session
    session.browser.shown.kind ≠ .queue ∧ session.player = some playsNone ∧
      AcceptsDeletions playsNone ∧ (∃ error, played.1 = .error error) ∧
      ∃ next, played.2.2.player = some next ∧
        queue next = queue playsNone ++ [(20, "c.flac")] ∧ queue next ≠ queue playsNone := by
  intro session played
  have hline : Token.ofLine "play cursor" = [.word "play", .word "cursor", .endOfLine] := by
    decide +kernel
  refine ⟨by decide, rfl, acceptsDeletions fun _ _ => rfl, ?_⟩
  rcases dispatch_play_named Dispatcher.offers_standard hline .cursor
    (show session.player = some playsNone from rfl) (by decide) with
    ⟨hnothing, -⟩ | ⟨files, hfiles, -, hasked⟩
  · exact absurd hnothing (by decide)
  · obtain rfl : ["c.flac"] = files := Option.some.inj hfiles
    obtain ⟨hresult, hafter⟩ := hasked (.error (.rejected "No such song")) _ rfl
    exact ⟨⟨_, hresult⟩, _, congrArg Session.player hafter, by decide, by decide⟩

end QueueServer

end Jukebox
