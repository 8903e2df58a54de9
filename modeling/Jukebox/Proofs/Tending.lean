import Jukebox.Proofs.StockRun

/-
# Tending to a connection

What a controller does with the connection it has comes to little: it may find it broken and drop it.
Then it stops watching for news as well, so that news of the server are watched just while there is a
connection. No time is noted in this, and nothing is dialed. An attempt to connect is another matter:
it is dialed once, its time is noted, and if it succeeds there is one connection more. The network
counts how often it was dialed, so that what is an attempt does not rest on what the controller notes.

What could not be loaded is shown as it was before.
-/

namespace Jukebox

variable {ω σ α : Type}

/-- A network that counts how often it was dialed. -/
structure DialCounter (ω : Type) where
  network : ω
  dials : Nat := 0

instance [Network ω σ] : Network (DialCounter ω) σ where
  dial address counter :=
    let (result, network) := Network.dial address counter.network
    (result, { network, dials := counter.dials + 1 })
  hangUp service counter := { counter with network := Network.hangUp service counter.network }

namespace Controller

open Wire

/-- A controller whose connections are observed and whose attempts to connect are counted. -/
abbrev Clocked (ω σ : Type) := Watched (DialCounter ω) σ

/-- How many attempts were made to connect. -/
def dials (c : Clocked ω σ) : Nat := c.network.network.dials

/-- News of the server are watched just if there is a connection. -/
def Linked (c : Controller ω σ) : Prop := c.session.player.isSome ↔ c.watching

section Tending

/-- No attempt was made and no time noted. The connection there was may have been dropped, but then
news are not watched any more. -/
structure Tended (c d : Clocked ω σ) : Prop where
  dials : d.dials = c.dials
  lastAttempt : d.lastAttempt = c.lastAttempt
  lastRefresh : d.lastRefresh = c.lastRefresh
  linked : c.Linked → d.Linked
  closed : c.network.closed <+: d.network.closed
  connections : d.connections.length = c.connections.length

theorem Tended.trans {c c' c'' : Clocked ω σ} (hfirst : Tended c c') (hsecond : Tended c' c'') :
    Tended c c'' where
  dials := hsecond.dials.trans hfirst.dials
  lastAttempt := hsecond.lastAttempt.trans hfirst.lastAttempt
  lastRefresh := hsecond.lastRefresh.trans hfirst.lastRefresh
  linked h := hsecond.linked (hfirst.linked h)
  closed := hfirst.closed.trans hsecond.closed
  connections := hsecond.connections.trans hfirst.connections

theorem tended_of_eq {c d : Clocked ω σ} (hnetwork : d.network = c.network)
    (hplayer : d.session.player.isSome = c.session.player.isSome)
    (hwatching : d.watching = c.watching) (hattempt : d.lastAttempt = c.lastAttempt)
    (hrefresh : d.lastRefresh = c.lastRefresh) : Tended c d where
  dials := congrArg (·.network.dials) hnetwork
  lastAttempt := hattempt
  lastRefresh := hrefresh
  linked h := by rwa [Linked, hplayer, hwatching]
  closed := hnetwork ▸ List.prefix_refl _
  connections := by
    unfold connections
    rw [hnetwork, List.length_append, List.length_append]
    revert hplayer
    cases c.session.player <;> cases d.session.player <;> simp

theorem tended_refl (c : Clocked ω σ) : Tended c c := tended_of_eq rfl rfl rfl rfl rfl

variable [Network ω σ]

/-- Who drops the connection stops watching. -/
theorem tended_drop (c : Clocked ω σ) : Tended c { c.disconnect with watching := false } := by
  have hconnections := c.connections_disconnect
  have hlinked : Linked { c.disconnect with watching := false } := by
    simp [Linked, hconnections.2]
  have hlength : connections { c.disconnect with watching := false } = c.connections :=
    hconnections.1
  unfold disconnect at hlinked hlength ⊢
  split
  · next hnone =>
    rw [hnone] at hlinked
    exact ⟨rfl, rfl, rfl, fun _ => hlinked, List.prefix_refl _, rfl⟩
  · next o hsome =>
    rw [hsome] at hlinked hlength
    exact ⟨rfl, rfl, rfl, fun _ => hlinked, List.prefix_append _ _, congrArg List.length hlength⟩

theorem tended_reportFailure (c : Clocked ω σ) (what : String) (error : PlaybackError) :
    Tended c (c.reportFailure what error) := by
  have hdropped : Tended c
      (if error.isBroken then { c.disconnect with watching := false } else c) := by
    split
    · exact tended_drop c
    · exact tended_refl c
  unfold reportFailure
  dsimp only
  split
  · exact hdropped
  · exact hdropped.trans (tended_of_eq rfl rfl rfl rfl rfl)

theorem tended_load (c : Clocked ω σ) (what : String) (exchange : Exchange (Observed σ) α)
    {use : α → Clocked ω σ → Clocked ω σ} (huse : ∀ a c, Tended c (use a c)) :
    Tended c (c.load what exchange use) := by
  have hplayer : (c.session.player.call exchange).2.isSome = c.session.player.isSome := by
    cases c.session.player <;> rfl
  unfold load
  generalize c.session.player.call exchange = outcome at hplayer ⊢
  have hasked : Tended c { c with session := { c.session with player := outcome.2 } } :=
    tended_of_eq rfl hplayer rfl rfl rfl
  obtain ⟨error | a, player⟩ := outcome
  · exact hasked.trans (tended_reportFailure _ what error)
  · exact hasked.trans (huse a _)

variable [Service σ]

theorem tended_refreshStatus (c : Clocked ω σ) : Tended c c.refreshStatus :=
  tended_load c _ _ fun _ _ => tended_of_eq rfl rfl rfl rfl rfl

theorem tended_refreshQueue (c : Clocked ω σ) : Tended c c.refreshQueue :=
  tended_load c _ _ fun _ _ => tended_of_eq rfl rfl rfl rfl rfl

theorem tended_refreshLibrary (c : Clocked ω σ) : Tended c c.refreshLibrary :=
  tended_load c _ _ fun _ _ => tended_of_eq rfl rfl rfl rfl rfl

omit [Service σ] in
theorem disconnect_unwatched (c : Clocked ω σ) :
    { c with watching := false }.disconnect = { c.disconnect with watching := false } := by
  unfold disconnect
  cases c.session.player <;> rfl

theorem tended_handleNews (c : Clocked ω σ) (news : News) : Tended c (c.handleNews news) := by
  cases news with
  | player => exact tended_refreshStatus c
  | queue => exact (tended_refreshQueue c).trans (tended_refreshStatus _)
  | library => exact tended_refreshLibrary c
  | disconnected reason =>
    unfold handleNews
    rw [disconnect_unwatched]
    exact (tended_drop c).trans (tended_of_eq rfl rfl rfl rfl rfl)

omit [Service σ] in
theorem tended_shutdown (c : Clocked ω σ) : Tended c c.shutdown := by
  unfold shutdown
  rw [disconnect_unwatched]
  exact tended_drop c

/-- To load what plays, something is asked on the connection there is. -/
theorem length_calls_refreshStatus {c : Clocked ω σ} (h : c.session.player.isSome) :
    c.calls.length < c.refreshStatus.calls.length := by
  obtain ⟨o, hplayer⟩ := Option.isSome_iff_exists.1 h
  have hafter : c.refreshStatus.connections =
      c.network.closed ++ [((nowPlaying : Exchange (Observed σ) _).run.run o).2] := by
    rw [c.alike_refreshStatus.connections_eq, connections]
    rcases converse_of_some hplayer nowPlaying with ⟨hsame, hopen, -⟩ | ⟨hmore, hnone⟩
    · rw [hsame, hopen]
      rfl
    · rw [hmore, hnone]
      exact List.append_nil _
  rw [calls_of_some hplayer, calls, hafter, List.flatMap_append, List.flatMap_singleton,
    List.length_append, List.length_append]
  exact Nat.add_lt_add_left (longer_nowPlaying o) _

end Tending

section Attempting

variable [Network ω σ] [Service σ]

/-- An attempt was made to connect, and its time was noted. There is at most one connection more. -/
structure Attempted (c : Clocked ω σ) (clock : Nat) (d : Clocked ω σ) : Prop where
  dials : d.dials = c.dials + 1
  lastAttempt : d.lastAttempt = some clock
  lastRefresh : d.lastRefresh = c.lastRefresh
  linked : c.Linked → d.Linked
  closed : c.network.closed <+: d.network.closed
  connections : d.connections.length ≤ c.connections.length + 1

omit [Network ω σ] [Service σ] in
theorem Attempted.trans_tended {c c' d : Clocked ω σ} {clock : Nat}
    (hattempted : Attempted c clock c') (htended : Tended c' d) : Attempted c clock d where
  dials := htended.dials.trans hattempted.dials
  lastAttempt := htended.lastAttempt.trans hattempted.lastAttempt
  lastRefresh := htended.lastRefresh.trans hattempted.lastRefresh
  linked h := htended.linked (hattempted.linked h)
  closed := hattempted.closed.trans htended.closed
  connections := Nat.le_trans (Nat.le_of_eq htended.connections) hattempted.connections

omit [Network ω σ] [Service σ] in
theorem Tended.trans_attempted {c c' d : Clocked ω σ} {clock : Nat} (htended : Tended c c')
    (hattempted : Attempted c' clock d) : Attempted c clock d where
  dials := hattempted.dials.trans (congrArg (· + 1) htended.dials)
  lastAttempt := hattempted.lastAttempt
  lastRefresh := hattempted.lastRefresh.trans htended.lastRefresh
  linked h := hattempted.linked (htended.linked h)
  closed := htended.closed.trans hattempted.closed
  connections := htended.connections ▸ hattempted.connections

omit [Service σ] in
/-- The service that is put in place of the one there was is one connection more. -/
theorem attempted_attach {c c' : Clocked ω σ} {clock : Nat} (hdials : c'.dials = c.dials + 1)
    (hattempt : c'.lastAttempt = some clock) (hrefresh : c'.lastRefresh = c.lastRefresh)
    (hclosed : c'.network.closed = c.network.closed)
    (hplayer : c'.session.player = c.session.player) (o : Observed σ) :
    Attempted c clock (c'.attach o) where
  dials := (tended_drop c').dials.trans hdials
  lastAttempt := (tended_drop c').lastAttempt.trans hattempt
  lastRefresh := (tended_drop c').lastRefresh.trans hrefresh
  linked _ := by simp [Linked, attach]
  closed := hclosed ▸ (tended_drop c').closed
  connections := by
    obtain ⟨hsame, hnone⟩ := c'.connections_disconnect
    have hbefore : c'.disconnect.network.closed = c.connections := by
      rw [connections, hnone, Option.toList_none, List.append_nil] at hsame
      rw [hsame, connections, connections, hclosed, hplayer]
    have hafter : (c'.attach o).connections = c'.disconnect.network.closed ++ [o] := rfl
    rw [hafter, hbefore, List.length_append]
    exact Nat.le_refl _

theorem attempted_connect (c : Clocked ω σ) (clock : Nat) : Attempted c clock (c.connect clock) := by
  have hclosed := Switchboard.closed_dial c.server c.network
  have hdials : (Network.dial c.server c.network).2.network.dials = c.dials + 1 := rfl
  unfold connect
  generalize Network.dial c.server c.network = outcome at hclosed hdials ⊢
  obtain ⟨error | ⟨version, o⟩, network⟩ := outcome
  · have hconnections : connections { c with network } = c.connections :=
      congrArg (· ++ c.session.player.toList) hclosed
    exact ⟨hdials, rfl, rfl, id, hclosed ▸ List.prefix_refl _,
      Nat.le_succ_of_le (Nat.le_of_eq (congrArg List.length hconnections))⟩
  · let dialed : Clocked ω σ := { c with network, lastAttempt := some clock }
    have hcounted : dialed.dials = c.dials + 1 := hdials
    have hattached : Attempted c clock (dialed.attach o) :=
      attempted_attach hcounted rfl rfl hclosed rfl o
    have hshown : Attempted c clock ((dialed.attach o).modifyUi
        (·.setInfo ("Connected to MPD " ++ version ++ " at " ++ c.server.display))) :=
      hattached.trans_tended (tended_of_eq rfl rfl rfl rfl rfl)
    exact ((hshown.trans_tended (tended_refreshStatus _)).trans_tended
      (tended_refreshQueue _)).trans_tended (tended_refreshLibrary _)

end Attempting

section Commands

variable [Service σ]

/-- Nothing is noted and no watching is begun or ended. -/
structure Untimed (c d : Controller ω σ) : Prop where
  watching : d.watching = c.watching
  lastAttempt : d.lastAttempt = c.lastAttempt
  lastRefresh : d.lastRefresh = c.lastRefresh

omit [Service σ] in
theorem untimed_runLines (c : Controller ω σ) (lines : List String) :
    Untimed c (c.runLines lines) := by
  induction lines generalizing c with
  | nil => exact ⟨rfl, rfl, rfl⟩
  | cons line lines ih =>
    have hline : Untimed c (c.runLine line) := by
      unfold runLine
      rcases c.dispatcher.dispatch line c.session with ⟨_ | _, _, _⟩ <;> exact ⟨rfl, rfl, rfl⟩
    have hlines := ih (c.runLine line)
    exact ⟨hlines.watching.trans hline.watching, hlines.lastAttempt.trans hline.lastAttempt,
      hlines.lastRefresh.trans hline.lastRefresh⟩

omit [Service σ] in
theorem untimed_prepare (c : Controller ω σ) (event : Event) : Untimed c (c.prepare event) := by
  cases event with
  | key event now =>
    unfold prepare takeIn searchKey
    dsimp only
    split
    · exact ⟨rfl, rfl, rfl⟩
    · split
      · split <;> exact ⟨rfl, rfl, rfl⟩
      · split <;> exact ⟨rfl, rfl, rfl⟩
      · split <;> exact ⟨rfl, rfl, rfl⟩
  | line | tick | news | connect | shutdown => exact ⟨rfl, rfl, rfl⟩

omit [Service σ] in
theorem untimed_runCommands (c : Controller ω σ) (event : Event) :
    Untimed c (c.runCommands event) := by
  rw [runCommands_eq]
  have hprepared := c.untimed_prepare event
  have hlines := (c.prepare event).untimed_runLines (c.linesOf event)
  exact ⟨hlines.watching.trans hprepared.watching, hlines.lastAttempt.trans hprepared.lastAttempt,
    hlines.lastRefresh.trans hprepared.lastRefresh⟩

/-- Command lines have requests answered, and neither open a connection nor drop one. -/
theorem isSome_player_runCommands {c : Controller ω σ}
    (hoffers : c.dispatcher.Offers Command.builtin) (event : Event) :
    (c.runCommands event).session.player.isSome = c.session.player.isSome := by
  have hserved := (led_runCommands hoffers event).served
  unfold Session.Served at hserved
  generalize c.session.player = before, (c.runCommands event).session.player = after at hserved ⊢
  cases hserved <;> rfl

theorem tended_runCommands {c : Clocked ω σ} (hoffers : c.dispatcher.Offers Command.builtin)
    (event : Event) : Tended c (c.runCommands event) := by
  obtain ⟨hwatching, hattempt, hrefresh⟩ := c.untimed_runCommands event
  exact tended_of_eq (led_runCommands hoffers event).network
    (isSome_player_runCommands hoffers event) hwatching hattempt hrefresh

end Commands

section Failures

variable [Network ω σ]

/-- The status, the song that plays and the lists of songs are as they were. -/
structure ShowsAsBefore (c d : Controller ω σ) : Prop where
  status : d.session.ui.status = c.session.ui.status
  browser : d.session.browser = c.session.browser

theorem showsAsBefore_disconnect (c : Controller ω σ) : ShowsAsBefore c c.disconnect := by
  unfold disconnect
  split <;> exact ⟨rfl, rfl⟩

/-- What could not be loaded is shown as it was. -/
theorem showsAsBefore_load (c : Controller ω σ) (what : String) {exchange : Exchange σ α}
    (use : α → Controller ω σ → Controller ω σ) {error : PlaybackError}
    (h : (c.session.player.call exchange).1 = .error error) :
    ShowsAsBefore c (c.load what exchange use) := by
  have hreported (c : Controller ω σ) : ShowsAsBefore c (c.reportFailure what error) := by
    have hdropped := c.showsAsBefore_disconnect
    unfold reportFailure
    dsimp only
    split <;> split
    · exact ⟨hdropped.status, hdropped.browser⟩
    · exact ⟨rfl, rfl⟩
    · exact ⟨hdropped.status, hdropped.browser⟩
    · exact ⟨rfl, rfl⟩
  unfold load
  generalize c.session.player.call exchange = outcome at h ⊢
  obtain ⟨result, player⟩ := outcome
  cases h
  have hafter := hreported { c with session := { c.session with player } }
  exact ⟨hafter.status, hafter.browser⟩

end Failures

end Controller

end Jukebox
