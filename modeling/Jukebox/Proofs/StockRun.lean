import Jukebox.Proofs.BrokenConnection
import Jukebox.Proofs.KeyLines
import Jukebox.Proofs.Launching
import Jukebox.Proofs.Sparing

/-
# The lists of the server all through a run

What the copies of the queue and the library should hold can be told from two things: what the service
answered when the controller loaded them, and which command lines took rows out of the queue or sorted
the library. Here it is told along a run, and the copies are shown to hold just that: keys that are taken
in, searches and whatever else the controller does of its own accord have no part in it.
-/

namespace Jukebox

variable {ω σ α β : Type}

/-- What the lists of the server should hold after a request: what was loaded, if it was, and else what
they held. -/
def Stock.hear [Service σ] (stock : Stock) (call : Call σ) : Stock :=
  match call.request with
  | .queue =>
    match (Service.answer .queue call.before).1 with
    | .ok songs => { stock with queue := songs }
    | .error _ => stock
  | .library =>
    match (Service.answer .library call.before).1 with
    | .ok songs => { stock with library := songs, sorted := false }
    | .error _ => stock
  | _ => stock

namespace Exchange

variable [Service σ]

/-- In the exchange nothing is heard of the lists of the server. -/
def Quiet (exchange : Exchange (Observed σ) α) : Prop :=
  ∀ o, ∃ heard, (exchange.run.run o).2.calls = o.calls ++ heard ∧
    ∀ stock : Stock, heard.foldl Stock.hear stock = stock

theorem quiet_pure (a : α) : Quiet (pure a : Exchange (Observed σ) α) :=
  fun o => ⟨[], (List.append_nil o.calls).symm, fun _ => rfl⟩

theorem quiet_ask {request : Request} (hqueue : request ≠ .queue) (hlibrary : request ≠ .library) :
    Quiet (Service.ask request : Exchange (Observed σ) request.Reply) := by
  intro o
  refine ⟨_, Observed.calls_answer request o, fun stock => ?_⟩
  rw [List.foldl_cons, List.foldl_nil, Stock.hear]
  split
  · next hrequest => exact absurd hrequest hqueue
  · next hrequest => exact absurd hrequest hlibrary
  · rfl

theorem quiet_bind {first : Exchange (Observed σ) α} {second : α → Exchange (Observed σ) β}
    (hfirst : Quiet first) (hsecond : ∀ a, Quiet (second a)) : Quiet (first >>= second) := by
  intro o
  obtain ⟨heard, hcalls, hquiet⟩ := hfirst o
  rcases hrun : first.run.run o with ⟨error | a, next⟩ <;> rw [hrun] at hcalls
  · rw [run_run_bind_of_error hrun]
    exact ⟨heard, hcalls, hquiet⟩
  · obtain ⟨more, hmore, hquiet'⟩ := hsecond a next
    rw [run_run_bind_of_ok hrun]
    refine ⟨heard ++ more, ?_, fun stock => ?_⟩
    · rw [hmore, hcalls, List.append_assoc]
    · rw [List.foldl_append, hquiet, hquiet']

end Exchange

namespace Controller

open Wire

theorem quiet_nowPlaying [Service σ] :
    Exchange.Quiet (nowPlaying : Exchange (Observed σ) (Status × Option Song)) :=
  Exchange.quiet_bind (Exchange.quiet_ask nofun nofun) fun _ =>
    Exchange.quiet_bind (Exchange.quiet_ask nofun nofun) fun _ => Exchange.quiet_pure _

/-- All requests so far, on one connection after the other. -/
def calls (c : Watched ω σ) : List (Call σ) := c.connections.flatMap (·.calls)

/-- Those on the open connection come last. -/
theorem calls_of_some {c : Watched ω σ} {o : Observed σ} (h : c.session.player = some o) :
    c.calls = c.network.closed.flatMap (·.calls) ++ o.calls := by
  rw [calls, connections, h, Option.toList_some, List.flatMap_append, List.flatMap_singleton]

section Upkeep

variable [Service σ] {c c' c'' : Watched ω σ}

/-- What is in the lists of the server afterwards is what was there before, but for what was heard in the
meantime. -/
def Hears (c c' : Watched ω σ) : Prop :=
  ∃ heard, c'.calls = c.calls ++ heard ∧ ∀ stock : Stock, c.session.browser.Holds stock →
    c'.session.browser.Holds (heard.foldl Stock.hear stock)

theorem Hears.trans (hfirst : Hears c c') (hsecond : Hears c' c'') : Hears c c'' := by
  obtain ⟨heard, hcalls, hholds⟩ := hfirst
  obtain ⟨more, hmore, hlater⟩ := hsecond
  refine ⟨heard ++ more, ?_, fun stock h => ?_⟩
  · rw [hmore, hcalls, List.append_assoc]
  · rw [List.foldl_append]
    exact hlater _ (hholds stock h)

theorem hears_of_connections_eq (hconnections : c'.connections = c.connections)
    (hspares : c.session.browser.Spares c'.session.browser) : Hears c c' :=
  ⟨[], by rw [calls, hconnections, List.append_nil, calls], hspares⟩

theorem hears_refl (c : Watched ω σ) : Hears c c :=
  hears_of_connections_eq rfl (Browser.spares_refl _)

theorem hears_of_eq (hnetwork : c'.network.closed = c.network.closed)
    (hplayer : c'.session.player = c.session.player)
    (hbrowser : c'.session.browser = c.session.browser) : Hears c c' := by
  refine hears_of_connections_eq ?_ (hbrowser ▸ Browser.spares_refl _)
  rw [connections, hnetwork, hplayer, connections]

variable [Network ω σ]

theorem hears_disconnect (c : Watched ω σ) : Hears c c.disconnect := by
  refine hears_of_connections_eq (connections_disconnect c).1 ?_
  unfold disconnect
  split <;> exact Browser.spares_refl _

theorem hears_reportFailure (c : Watched ω σ) (what : String) (error : PlaybackError) :
    Hears c (c.reportFailure what error) := by
  have hdropped : Hears c
      (if error.isBroken then { c.disconnect with watching := false } else c) := by
    split
    · exact (hears_disconnect c).trans (hears_of_eq rfl rfl rfl)
    · exact hears_refl c
  unfold reportFailure
  dsimp only
  split
  · exact hdropped
  · exact hdropped.trans (hears_of_eq rfl rfl rfl)

/-- What an exchange is used for has to agree with what was heard in it. -/
theorem hears_load (c : Watched ω σ) (what : String) {exchange : Exchange (Observed σ) α}
    {use : α → Watched ω σ → Watched ω σ} (halike : ∀ a c, Alike c (use a c))
    (huse : ∀ o, ∃ heard, (exchange.run.run o).2.calls = o.calls ++ heard ∧
      match (exchange.run.run o).1 with
      | .ok a => ∀ (c : Watched ω σ) (stock : Stock), c.session.browser.Holds stock →
          (use a c).session.browser.Holds (heard.foldl Stock.hear stock)
      | .error _ => ∀ stock : Stock, heard.foldl Stock.hear stock = stock) :
    Hears c (c.load what exchange use) := by
  unfold load
  cases hplayer : c.session.player with
  | none =>
    have hasked : Hears c { c with session := { c.session with player := none } } :=
      hears_of_eq rfl hplayer.symm rfl
    rw [Player.call_none]
    exact hasked.trans (hears_reportFailure _ what _)
  | some o =>
    obtain ⟨heard, hcalls, hheard⟩ := huse o
    rw [Player.call_some]
    rcases hrun : exchange.run.run o with ⟨error | a, o'⟩ <;> rw [hrun] at hcalls hheard
    all_goals
      have hmore : calls { c with session := { c.session with player := some o' } } =
          c.calls ++ heard := by
        rw [calls_of_some rfl, calls_of_some hplayer, List.append_assoc, ← hcalls]
    · have hasked : Hears c { c with session := { c.session with player := some o' } } :=
        ⟨heard, hmore, fun stock h => (hheard stock).symm ▸ h⟩
      exact hasked.trans (hears_reportFailure _ what error)
    · refine ⟨heard, ?_, fun stock h => hheard _ stock h⟩
      rw [← hmore, calls, (halike a _).connections_eq, calls]

/-- The status and the song that plays are not lists of the server. -/
theorem hears_refreshStatus (c : Watched ω σ) : Hears c c.refreshStatus := by
  refine hears_load c _ (fun _ _ => ⟨rfl, rfl, rfl⟩) fun o => ?_
  obtain ⟨heard, hcalls, hquiet⟩ := quiet_nowPlaying o
  refine ⟨heard, hcalls, ?_⟩
  split
  · intro c stock h
    rw [hquiet]
    exact Browser.spares_of_same (by rfl) (by rfl) (by rfl) _ h
  · exact hquiet

theorem hears_refreshQueue (c : Watched ω σ) : Hears c c.refreshQueue := by
  refine hears_load c _ (fun _ _ => ⟨rfl, rfl, rfl⟩) fun o =>
    ⟨_, Observed.calls_answer .queue o, ?_⟩
  have hrun : ((Service.ask .queue : Exchange (Observed σ) _).run.run o).1 =
      (Service.answer .queue o.service).1 := rfl
  rw [hrun]
  cases hanswer : (Service.answer .queue o.service).1 with
  | error error =>
    intro stock
    rw [List.foldl_cons, List.foldl_nil, Stock.hear, hanswer]
  | ok songs =>
    intro c stock h
    rw [List.foldl_cons, List.foldl_nil, Stock.hear, hanswer]
    exact h.replace_queue songs

theorem hears_refreshLibrary (c : Watched ω σ) : Hears c c.refreshLibrary := by
  refine hears_load c _ (fun _ _ => ⟨rfl, rfl, rfl⟩) fun o =>
    ⟨_, Observed.calls_answer .library o, ?_⟩
  have hrun : ((Service.ask .library : Exchange (Observed σ) _).run.run o).1 =
      (Service.answer .library o.service).1 := rfl
  rw [hrun]
  cases hanswer : (Service.answer .library o.service).1 with
  | error error =>
    intro stock
    rw [List.foldl_cons, List.foldl_nil, Stock.hear, hanswer]
  | ok songs =>
    intro c stock h
    rw [List.foldl_cons, List.foldl_nil, Stock.hear, hanswer]
    exact h.replace_library songs

theorem hears_handleNews (c : Watched ω σ) (news : News) : Hears c (c.handleNews news) := by
  cases news with
  | player => exact hears_refreshStatus c
  | queue => exact (hears_refreshQueue c).trans (hears_refreshStatus _)
  | library => exact hears_refreshLibrary c
  | disconnected reason =>
    have hunwatched : Hears c { c with watching := false } := hears_of_eq rfl rfl rfl
    exact (hunwatched.trans (hears_disconnect _)).trans (hears_of_eq rfl rfl rfl)

/-- On a connection that was just opened nothing was heard yet. -/
theorem hears_attach (c : Watched ω σ) (service : σ) :
    Hears c (c.attach (Observed.fresh service)) := by
  have hdropped := hears_disconnect c
  refine hdropped.trans ⟨[], ?_, fun _ => id⟩
  rw [calls_of_some (c := c.attach (Observed.fresh service)) rfl, calls, connections,
    (connections_disconnect c).2]
  simp [attach, Observed.fresh]

theorem hears_connect (c : Watched ω σ) (clock : Nat) : Hears c (c.connect clock) := by
  have hclosed := Switchboard.closed_dial c.server c.network
  unfold connect
  rcases hdial : Network.dial c.server c.network with ⟨error | ⟨version, observed⟩, network⟩ <;>
    rw [hdial] at hclosed
  · exact hears_of_eq hclosed rfl rfl
  · obtain ⟨service, rfl⟩ := Switchboard.exists_fresh_of_dial (congrArg Prod.fst hdial)
    have htried : Hears c { c with network, lastAttempt := some clock } :=
      hears_of_eq hclosed rfl rfl
    have hattached := (htried.trans (hears_attach _ service)).trans
      (show Hears _ (modifyUi (attach { c with network, lastAttempt := some clock } _)
        (·.setInfo ("Connected to MPD " ++ version ++ " at " ++ c.server.display))) from
        hears_of_eq rfl rfl rfl)
    exact ((hattached.trans (hears_refreshStatus _)).trans (hears_refreshQueue _)).trans
      (hears_refreshLibrary _)

/-- Whatever a controller does of its own accord, only what it heard gets into the lists. -/
theorem hears_attend (c : Watched ω σ) (event : Event) : Hears c (c.attend event) := by
  cases event with
  | line | key => exact hears_refl c
  | tick now clock =>
    unfold attend
    dsimp only
    split
    · split
      · exact hears_connect c clock
      · exact hears_refl c
    · split
      · have hnoted : Hears c { c with lastRefresh := now } := hears_of_eq rfl rfl rfl
        exact hnoted.trans (hears_refreshStatus _)
      · exact hears_refl c
  | news news => exact hears_handleNews c news
  | connect clock => exact hears_connect c clock
  | shutdown =>
    have hunwatched : Hears c { c with watching := false } := hears_of_eq rfl rfl rfl
    exact hunwatched.trans (hears_disconnect _)

end Upkeep

section Commands

/-- The command lines that an event stands for. -/
def linesOf (c : Controller ω σ) : Event → List String
  | .line line => [line]
  | .key event now => c.keyLines event now
  | .tick now _ => c.expiredLines now
  | .news _ | .connect _ | .shutdown => []

/-- Does what comes before them: takes in a key, or lets go of keys. -/
def prepare (c : Controller ω σ) : Event → Controller ω σ
  | .key event now => c.takeIn event now
  | .tick now _ => c.hold (c.resolver.expire c.session.keymap now).2
  | .line _ | .news _ | .connect _ | .shutdown => c

theorem runCommands_eq (c : Controller ω σ) (event : Event) :
    c.runCommands event = (c.prepare event).runLines (c.linesOf event) := by
  cases event with
  | key event now => exact c.handleKey_eq event now
  | tick now clock => exact c.expireKeys_eq now
  | line | news | connect | shutdown => rfl

/-- Typing, searching included, leaves the lists of the server alone, and the commands too. -/
theorem spares_takeIn (c : Controller ω σ) (event : KeyEvent) (now : Nat) :
    c.session.browser.Spares (c.takeIn event now).session.browser ∧
      (c.takeIn event now).dispatcher = c.dispatcher := by
  unfold takeIn
  split
  · exact ⟨Browser.spares_refl _, rfl⟩
  · split
    · dsimp only
      split <;> exact ⟨Browser.spares_refl _, rfl⟩
    · split <;> exact ⟨Browser.spares_refl _, rfl⟩
    · unfold searchKey
      split
      · exact ⟨Browser.spares_commitSearch _, rfl⟩
      · exact ⟨Browser.spares_cancelSearch _, rfl⟩
      · exact ⟨Browser.spares_showSearch _ _, rfl⟩
      · exact ⟨Browser.spares_refl _, rfl⟩

theorem spares_prepare (c : Controller ω σ) (event : Event) :
    c.session.browser.Spares (c.prepare event).session.browser ∧
      (c.prepare event).dispatcher = c.dispatcher := by
  cases event with
  | key event now => exact c.spares_takeIn event now
  | line | tick | news | connect | shutdown => exact ⟨Browser.spares_refl _, rfl⟩

theorem browser_runLine (c : Controller ω σ) (line : String) :
    (c.runLine line).session.browser =
      (c.dispatcher.dispatch line c.session).2.2.browser := by
  unfold runLine
  rcases c.dispatcher.dispatch line c.session with ⟨_ | _, _, _⟩ <;> rfl

end Commands

end Controller

namespace Stock

open Controller

/-- What the lists of the server should hold after command lines. -/
def afterLines (stock : Stock) (c : Controller ω σ) : List String → Stock
  | [] => stock
  | line :: lines =>
    (stock.afterLine c.dispatcher line c.session).afterLines (c.runLine line) lines

variable [Network ω σ] [Service σ]

/-- What they should hold after an event: what its command lines leave in them, and then what the
controller heard of its own accord. -/
def afterEvent (stock : Stock) (c : Watched ω σ) (event : Event) : Stock :=
  let heard := (c.step event).calls.drop (c.runCommands event).calls.length
  heard.foldl hear (stock.afterLines (c.prepare event) (c.linesOf event))

/-- What they should hold after a run. -/
def afterRun (stock : Stock) (c : Watched ω σ) : List Event → Stock
  | [] => stock
  | event :: events => (stock.afterEvent c event).afterRun (c.step event) events

end Stock

namespace Controller

open Wire

variable [Service σ]

theorem holds_runLines {c : Controller ω σ} {stock : Stock}
    (h : c.session.browser.Holds stock) (hoffers : c.dispatcher.Offers Command.builtin)
    (lines : List String) :
    (c.runLines lines).session.browser.Holds (stock.afterLines c lines) := by
  induction lines generalizing c stock with
  | nil => exact h
  | cons line lines ih =>
    have hline := h.dispatch hoffers line
    rw [← browser_runLine] at hline
    exact ih hline ((led_runLine hoffers line).offers hoffers)

variable [Network ω σ]

/-- In an event the lists of the server come to hold what they should. -/
theorem holds_step {c : Watched ω σ} {stock : Stock} (h : c.session.browser.Holds stock)
    (hoffers : c.dispatcher.Offers Command.builtin) (event : Event) :
    (c.step event).session.browser.Holds (stock.afterEvent c event) := by
  obtain ⟨hspares, hdispatcher⟩ := c.spares_prepare event
  have hlines := holds_runLines (hspares stock h) (hdispatcher ▸ hoffers) (c.linesOf event)
  rw [← runCommands_eq] at hlines
  obtain ⟨heard, hcalls, hholds⟩ := hears_attend (c.runCommands event) event
  rw [← step_eq] at hcalls hholds
  rw [Stock.afterEvent, hcalls, List.drop_left]
  exact hholds _ hlines

theorem holds_run {c : Watched ω σ} {stock : Stock} (h : c.session.browser.Holds stock)
    (hoffers : c.dispatcher.Offers Command.builtin) (events : List Event) :
    (c.run events).session.browser.Holds (stock.afterRun c events) := by
  induction events generalizing c stock with
  | nil => exact h
  | cons event events ih => exact ih (holds_step h hoffers event) (offers_step hoffers event)

/-- A client is launched with an empty queue and an empty library. No line can change that, for as yet
there is nothing to cut or to sort. -/
theorem lasting_holds : Session.Lasting fun session : Session σ => session.browser.Holds {} where
  dispatch hoffers h line :=
    (h.dispatch hoffers line).of_empty (Stock.queue_afterLine_eq_nil rfl) Stock.library_afterLine
  setError _ h := h

/-- Every client that is launched starts from an empty queue and an empty library. From then on, all
through a run, its copy of the queue is the queue that was loaded last, without the rows that were cut
since, and its copy of the library has the songs of the library that was loaded last, in the same order
unless it was sorted since. A line changes the songs of the queue only if it is a cut that succeeds
there, and those of the library only if it is a sort that succeeds there; a key that is taken in changes
neither. -/
theorem server_lists_are_kept (ω σ : Type) [Network ω σ] [Service σ] :
    (∀ (startup : Startup) (config : Option ConfigFile) (network : Switchboard ω σ)
      (chance : Chance) (clock : Nat),
      match (startup.client? config network chance clock : Except DispatchError (Watched ω σ)) with
      | .ok c => c.dispatcher.Offers Command.builtin ∧ c.session.browser.Holds {}
      | .error _ => True) ∧
    ∀ (c : Watched ω σ) (stock : Stock) (events : List Event),
      c.dispatcher.Offers Command.builtin → c.session.browser.Holds stock →
      let d := c.run events
      let expected := stock.afterRun c events
      d.session.browser.songs? .queue = some expected.queue ∧
      (∃ songs, d.session.browser.songs? .library = some songs ∧ songs.Perm expected.library ∧
        (expected.sorted = false → songs = expected.library)) ∧
      (∀ line,
        (¬ d.dispatcher.Succeeds "cut" .queue line d.session →
          (d.runLine line).session.browser.songs? .queue = d.session.browser.songs? .queue) ∧
        (¬ d.dispatcher.Succeeds "sort" .library line d.session →
          (d.runLine line).session.browser.songs? .library = d.session.browser.songs? .library)) ∧
      ∀ (event : KeyEvent) (now : Nat),
        (d.takeIn event now).session.browser.songs? .queue = d.session.browser.songs? .queue ∧
        (d.takeIn event now).session.browser.songs? .library =
          d.session.browser.songs? .library := by
  constructor
  · intro startup config network chance clock
    cases hclient : (startup.client? config network chance clock :
        Except DispatchError (Watched ω σ)) with
    | error error => trivial
    | ok c =>
      obtain ⟨hoffers, hholds, -⟩ := lasting_holds.client? Browser.holds_initial hclient
      exact ⟨hoffers, hholds⟩
  · intro c stock events hoffers h d expected
    have hafter : d.session.browser.Holds expected := holds_run h hoffers events
    have hoffered : d.dispatcher.Offers Command.builtin := offers_run hoffers events
    refine ⟨hafter.songs?_queue, hafter.songs?_library, fun line => ?_, fun event now =>
      (d.spares_takeIn event now).1.songs?_eq hafter⟩
    obtain ⟨actual, hactual, hsorted⟩ := hafter.exists_actual
    have hline := hactual.dispatch hoffered line
    rw [← browser_runLine] at hline
    constructor
    · intro hcut
      rw [hline.songs?_queue, Stock.queue_afterLine_of_not hcut, hactual.songs?_queue]
    · intro hsort
      rw [hactual.songs?_library_of_not_sorted hsorted, hline.songs?_library_of_not_sorted
        ((Stock.sorted_afterLine_of_not hsort).trans hsorted), Stock.library_afterLine]

/-- What a server says that has two songs in the queue and one in the library, and deletes a song. -/
def twoSongs : String :=
  "OK MPD 0.23.5\nOK\nOK\nfile: a.flac\nPos: 0\nId: 1\nfile: b.flac\nPos: 1\nId: 2\nOK\n" ++
    "file: c.flac\nOK\nOK\n"

/-- The first song of the queue is cut, which leaves the second, and the library as it was loaded. To
paste the song there after that is up to the server: the copies stay as they are. -/
theorem cut_song_is_all_that_goes :
    (beforeServer twoSongs).dispatcher.Offers Command.builtin ∧
    (beforeServer twoSongs).session.browser.Holds {} ∧
    let d := (beforeServer twoSongs).run [.connect 0, .line "cut"]
    (d.session.browser.songs? .queue).map (·.map Song.file?) = some [some "b.flac"] ∧
    (d.session.browser.songs? .library).map (·.map Song.file?) = some [some "c.flac"] ∧
    (d.runLine "paste").session.browser.songs? .queue = d.session.browser.songs? .queue := by
  have hoffers := (starts_beforeServer twoSongs).offers
  obtain ⟨hqueue, ⟨songs, hlibrary, -, hsame⟩, hlines, -⟩ :=
    (server_lists_are_kept ScriptedNetwork Link).2 (beforeServer twoSongs) {}
      [.connect 0, .line "cut"] hoffers Browser.holds_initial
  refine ⟨hoffers, Browser.holds_initial, ?_, ?_, (hlines "paste").1 (by decide +kernel)⟩
  · rw [hqueue]
    decide +kernel
  · rw [hlibrary, hsame (by decide +kernel)]
    decide +kernel

end Controller

end Jukebox
