import Jukebox.Proofs.Launching
import Jukebox.Proofs.Tending

/-
# When connections are opened and used

A controller without a connection tries to open one from time to time, and with one it asks for the
status from time to time. It notes when it did either last, and that is enough to keep two attempts
five seconds apart and two requests for the status one second, whatever the server does in between.

An event comes to one of three things, apart from its command lines: the connection there is may be
tended to, an attempt may be made to open one, or a tick may ask for the status. Whatever notes its
time and waits for long enough after the time it finds noted is spaced all through a run.
-/

namespace Jukebox.Controller

open Wire

variable {ω σ α : Type}

/-- A controller before it connects for the first time. -/
structure Unconnected [Service σ] (c : Controller ω σ) : Prop where
  offers : c.dispatcher.Offers Command.builtin
  player : c.session.player = none
  watching : c.watching = false

/-- When an event reads the clock for an attempt to connect. -/
def Event.clock? : Event → Option Nat
  | .tick _ clock | .connect clock => some clock
  | .line _ | .key _ _ | .news _ | .shutdown => none

section Times

variable [Network ω σ] [Service σ]

/-- When an event made an attempt to connect, if it did. -/
def attemptTime? (c : Clocked ω σ) (event : Event) : Option Nat :=
  if c.dials < (c.step event).dials then event.clock? else none

/-- When a tick that found a connection asked something of its own accord, if it did. -/
def refreshTime? (c : Clocked ω σ) : Event → Option Nat
  | .tick now clock =>
    if c.session.player.isSome ∧
        (c.runCommands (.tick now clock)).calls.length < (c.step (.tick now clock)).calls.length then
      some now
    else none
  | .line _ | .key _ _ | .news _ | .connect _ | .shutdown => none

/-- The times of the events of a run that have one. -/
def timesIn (time? : Clocked ω σ → Event → Option Nat) (c : Clocked ω σ) : List Event → List Nat
  | [] => []
  | event :: events => (time? c event).toList ++ timesIn time? (c.step event) events

/-- When attempts to connect were made in a run. -/
def attemptTimes (c : Clocked ω σ) (events : List Event) : List Nat :=
  c.timesIn attemptTime? events

/-- When ticks asked for the status in a run. -/
def refreshTimes (c : Clocked ω σ) (events : List Event) : List Nat :=
  c.timesIn refreshTime? events

end Times

section Steps

variable [Network ω σ] [Service σ]

/-- What an event comes to, apart from its command lines. -/
inductive Doing (c : Clocked ω σ) (event : Event) (d : Clocked ω σ) : Prop where
  /-- The connection is tended to; a tick has not even that to do. -/
  | tend : Tended c d → (∀ now clock, event = .tick now clock → d = c.runCommands event) →
      Doing c event d
  /-- A tick attempts to connect if there is no connection and it is time to. -/
  | attempt (clock : Nat) : event.clock? = some clock →
      (∀ now clock, event = .tick now clock → c.session.player = none ∧ c.isAttemptDue now) →
      Attempted c clock d → Doing c event d
  /-- A tick asks for the status if there is a connection and it is time to. -/
  | refresh (now clock : Nat) : event = .tick now clock → c.session.player.isSome →
      statusInterval ≤ now - c.lastRefresh → Tended { c with lastRefresh := now } d →
      (c.runCommands event).calls.length < d.calls.length → Doing c event d

theorem doing_step {c : Clocked ω σ} (hoffers : c.dispatcher.Offers Command.builtin)
    (event : Event) : Doing c event (c.step event) := by
  have hcommands := tended_runCommands hoffers event
  have hplayer := isSome_player_runCommands hoffers event
  have htimes := c.untimed_runCommands event
  rw [step_eq]
  cases event with
  | line | key => exact .tend hcommands nofun
  | news news => exact .tend (hcommands.trans (tended_handleNews _ news)) nofun
  | shutdown => exact .tend (hcommands.trans (tended_shutdown _)) nofun
  | connect clock => exact .attempt clock rfl nofun (attempted_connect c clock)
  | tick now clock =>
    unfold attend
    dsimp only
    split
    · next hnone =>
      split
      · next hdue =>
        have hattempted := hcommands.trans_attempted (attempted_connect _ clock)
        refine .attempt clock rfl ?_ hattempted
        rintro _ _ ⟨⟩
        rw [isAttemptDue, htimes.lastAttempt] at hdue
        refine ⟨?_, hdue⟩
        rw [← Option.isNone_iff_eq_none, ← Option.not_isSome, ← hplayer, Option.not_isSome]
        exact hnone
      · exact .tend hcommands fun _ _ _ => rfl
    · next hsome =>
      split
      · next hdue =>
        rw [htimes.lastRefresh] at hdue
        have hopen : (c.runCommands (.tick now clock)).session.player.isSome := by
          simpa [Option.isNone_iff_eq_none, Option.isSome_iff_ne_none] using hsome
        refine .refresh now clock rfl (hplayer ▸ hopen) hdue ?_ ?_
        · have hnoted : Tended { c with lastRefresh := now }
              { c.runCommands (.tick now clock) with lastRefresh := now } :=
            ⟨hcommands.dials, hcommands.lastAttempt, rfl, hcommands.linked, hcommands.closed,
              hcommands.connections⟩
          exact hnoted.trans (tended_refreshStatus _)
        · exact length_calls_refreshStatus (c := { c.runCommands (.tick now clock) with
            lastRefresh := now }) hopen
      · exact .tend hcommands fun _ _ _ => rfl

theorem linked_step {c : Clocked ω σ} (hoffers : c.dispatcher.Offers Command.builtin)
    (h : c.Linked) (event : Event) : (c.step event).Linked := by
  cases doing_step hoffers event with
  | tend htended => exact htended.linked h
  | attempt clock _ _ hattempted => exact hattempted.linked h
  | refresh now clock _ _ _ htended => exact htended.linked h

theorem linked_run {c : Clocked ω σ} (hoffers : c.dispatcher.Offers Command.builtin)
    (h : c.Linked) (events : List Event) : (c.run events).Linked := by
  induction events using List.reverseRecOn with
  | nil => exact h
  | append_singleton events event ih =>
    rw [run_concat]
    exact linked_step (offers_run hoffers events) ih event

/-- An event makes one attempt, of which the time is noted, or none. -/
theorem attemptTime?_step {c : Clocked ω σ} (hoffers : c.dispatcher.Offers Command.builtin)
    (event : Event) :
    (c.attemptTime? event = none ∧ (c.step event).dials = c.dials ∧
        (c.step event).lastAttempt = c.lastAttempt) ∨
      ∃ clock, c.attemptTime? event = some clock ∧ (c.step event).dials = c.dials + 1 ∧
        (c.step event).lastAttempt = some clock ∧ event.clock? = some clock ∧
        ∀ now clock, event = .tick now clock → c.isAttemptDue now := by
  have hnone {d : Clocked ω σ} (hsame : d.dials = c.dials) :
      (if c.dials < d.dials then event.clock? else none) = none :=
    if_neg (hsame ▸ Nat.lt_irrefl _)
  unfold attemptTime?
  cases doing_step hoffers event with
  | tend htended => exact .inl ⟨hnone htended.dials, htended.dials, htended.lastAttempt⟩
  | refresh now clock _ _ _ htended =>
    exact .inl ⟨hnone htended.dials, htended.dials, htended.lastAttempt⟩
  | attempt clock hclock hdue hattempted =>
    refine .inr ⟨clock, ?_, hattempted.dials, hattempted.lastAttempt, hclock,
      fun now clock hevent => (hdue now clock hevent).2⟩
    rw [hattempted.dials, if_pos (Nat.lt_succ_self _), hclock]

/-- A tick asks for the status when it is time to and notes that it did, and nothing else does. -/
theorem refreshTime?_step {c : Clocked ω σ} (hoffers : c.dispatcher.Offers Command.builtin)
    (event : Event) :
    (c.refreshTime? event = none ∧ (c.step event).lastRefresh = c.lastRefresh) ∨
      ∃ now, c.refreshTime? event = some now ∧ (c.step event).lastRefresh = now ∧
        c.lastRefresh + statusInterval ≤ now := by
  cases doing_step hoffers event with
  | tend htended htick =>
    refine .inl ⟨?_, htended.lastRefresh⟩
    cases event with
    | tick now clock =>
      rw [refreshTime?, htick now clock rfl]
      exact if_neg fun hasked => Nat.lt_irrefl _ hasked.2
    | line | key | news | connect | shutdown => rfl
  | attempt clock _ hdue hattempted =>
    refine .inl ⟨?_, hattempted.lastRefresh⟩
    cases event with
    | tick now clock =>
      rw [refreshTime?, (hdue now clock rfl).1]
      exact if_neg fun hasked => Bool.noConfusion hasked.1
    | line | key | news | connect | shutdown => rfl
  | refresh now clock hevent hopen hdue htended hasked =>
    subst hevent
    have hnoted : (c.step (.tick now clock)).lastRefresh = now := htended.lastRefresh
    have hpositive : 0 < statusInterval := by decide
    refine .inr ⟨now, if_pos ⟨hopen, hasked⟩, hnoted, ?_⟩
    omega

/-- A tick that finds no connection leaves all connections there were as they are. What is asked is
asked on the one that it opens. -/
theorem connections_tick_of_none {c : Clocked ω σ} (hoffers : c.dispatcher.Offers Command.builtin)
    (hplayer : c.session.player = none) (now clock : Nat) :
    ∃ opened, (c.step (.tick now clock)).connections = c.connections ++ opened ∧
      opened.length ≤ 1 ∧ (c.attemptTime? (.tick now clock) = none → opened = []) := by
  have hbefore : c.connections = c.network.closed := by
    rw [connections, hplayer, Option.toList_none, List.append_nil]
  have hparts {d : Clocked ω σ} (hclosed : c.network.closed <+: d.network.closed) :
      ∃ opened, d.connections = c.connections ++ opened := by
    obtain ⟨more, hmore⟩ := hclosed
    refine ⟨more ++ d.session.player.toList, ?_⟩
    rw [hbefore, connections, ← hmore, List.append_assoc]
  cases doing_step hoffers (.tick now clock) with
  | tend htended =>
    obtain ⟨opened, hopened⟩ := hparts htended.closed
    have hlength := htended.connections
    rw [hopened, List.length_append] at hlength
    obtain rfl : opened = [] := List.eq_nil_of_length_eq_zero (by omega)
    exact ⟨[], hopened, Nat.zero_le _, fun _ => rfl⟩
  | attempt clock' hclock _ hattempted =>
    obtain ⟨opened, hopened⟩ := hparts hattempted.closed
    have hlength := hattempted.connections
    rw [hopened, List.length_append] at hlength
    refine ⟨opened, hopened, by omega, ?_⟩
    intro hno
    rw [attemptTime?, hattempted.dials, if_pos (Nat.lt_succ_self _), hclock] at hno
    cases hno
  | refresh _ _ _ hopen =>
    rw [hplayer] at hopen
    cases hopen

end Steps

section Runs

variable [Network ω σ] [Service σ]

/-- The events with a time are spaced if each of them notes its time and waits after the time that was
noted last. -/
theorem pairwise_timesIn {time? : Clocked ω σ → Event → Option Nat}
    (mark : Clocked ω σ → Option Nat) {interval : Nat} {events : List Event}
    (hstep : ∀ (c : Clocked ω σ) (event : Event), c.dispatcher.Offers Command.builtin →
      event ∈ events →
      (time? c event = none ∧ mark (c.step event) = mark c) ∨
        ∃ time, time? c event = some time ∧ mark (c.step event) = some time ∧
          ∀ last ∈ mark c, last + interval ≤ time)
    {c : Clocked ω σ} (hoffers : c.dispatcher.Offers Command.builtin) :
    (c.timesIn time? events).Pairwise (· + interval ≤ ·) ∧
      ∀ last ∈ mark c, ∀ time ∈ c.timesIn time? events, last + interval ≤ time := by
  induction events generalizing c with
  | nil => exact ⟨.nil, fun _ _ => nofun⟩
  | cons event events ih =>
    have hrest := ih (fun c event hoffers hmem => hstep c event hoffers (List.mem_cons_of_mem _ hmem))
      (offers_step hoffers event)
    unfold timesIn
    rcases hstep c event hoffers List.mem_cons_self with
      ⟨htime, hmark⟩ | ⟨time, htime, hmark, hlast⟩
    · rw [htime, Option.toList_none, List.nil_append]
      exact hmark ▸ hrest
    · rw [htime, Option.toList_some, List.singleton_append]
      have hlater := hrest.2 time hmark
      refine ⟨List.pairwise_cons.2 ⟨hlater, hrest.1⟩, ?_⟩
      intro last hmem next hnext
      have hfirst := hlast last hmem
      rcases List.mem_cons.1 hnext with rfl | hlaterTime
      · exact hfirst
      · have := hlater next hlaterTime
        omega

/-- Every attempt of a run has its time. -/
theorem dials_run {c : Clocked ω σ} (hoffers : c.dispatcher.Offers Command.builtin)
    (events : List Event) : (c.run events).dials = c.dials + (c.attemptTimes events).length := by
  induction events generalizing c with
  | nil => rfl
  | cons event events ih =>
    have hrest := ih (offers_step hoffers event)
    have htimes : c.attemptTimes (event :: events) =
        (c.attemptTime? event).toList ++ (c.step event).attemptTimes events := rfl
    rw [run, List.foldl_cons, ← run, hrest, htimes, List.length_append]
    rcases attemptTime?_step hoffers event with ⟨htime, hdials, -⟩ | ⟨clock, htime, hdials, -⟩
    · rw [htime, hdials, Option.toList_none, List.length_nil]
      omega
    · rw [htime, hdials, Option.toList_some, List.length_singleton]
      omega

/-- Attempts to connect keep their distance from the one before: those of ticks by waiting, and the
first one has none before it. -/
theorem pairwise_attemptTimes {c : Clocked ω σ} (hoffers : c.dispatcher.Offers Command.builtin)
    {start : Nat} {events : List Event} (hconnect : ∀ clock, .connect clock ∉ events)
    (hclock : ∀ now clock, .tick now clock ∈ events → now ≤ clock) :
    (c.attemptTimes (.connect start :: events)).Pairwise (· + reconnectInterval ≤ ·) := by
  have hspaced : ∀ (c : Clocked ω σ) (event : Event), c.dispatcher.Offers Command.builtin →
      event ∈ events →
      (c.attemptTime? event = none ∧ (c.step event).lastAttempt = c.lastAttempt) ∨
        ∃ time, c.attemptTime? event = some time ∧ (c.step event).lastAttempt = some time ∧
          ∀ last ∈ c.lastAttempt, last + reconnectInterval ≤ time := by
    intro c event hoffers hmem
    rcases attemptTime?_step hoffers event with
      ⟨htime, -, hmark⟩ | ⟨clock, htime, -, hmark, hevent, hdue⟩
    · exact .inl ⟨htime, hmark⟩
    · refine .inr ⟨clock, htime, hmark, ?_⟩
      intro last hlast
      cases event with
      | tick now clock' =>
        cases hevent
        have hwaited := hdue now clock rfl
        rw [isAttemptDue, hlast] at hwaited
        have hnow := hclock now clock hmem
        have hpositive : 0 < reconnectInterval := by decide
        have : reconnectInterval ≤ now - last := by simpa using hwaited
        omega
      | connect clock' => exact absurd hmem (hconnect clock')
      | line | key | news | shutdown => cases hevent
  obtain ⟨hrest, hfirst⟩ := pairwise_timesIn lastAttempt hspaced
    (offers_step hoffers (.connect start))
  have hattempted := attempted_connect c start
  have htime : c.attemptTime? (.connect start) = some start := by
    rw [attemptTime?]
    exact if_pos (hattempted.dials ▸ Nat.lt_succ_self _)
  rw [attemptTimes, timesIn, htime, Option.toList_some, List.singleton_append]
  exact List.pairwise_cons.2 ⟨hfirst start hattempted.lastAttempt, hrest⟩

theorem pairwise_refreshTimes {c : Clocked ω σ} (hoffers : c.dispatcher.Offers Command.builtin)
    (events : List Event) : (c.refreshTimes events).Pairwise (· + statusInterval ≤ ·) := by
  have hspaced : ∀ (c : Clocked ω σ) (event : Event), c.dispatcher.Offers Command.builtin →
      event ∈ events →
      (c.refreshTime? event = none ∧ some (c.step event).lastRefresh = some c.lastRefresh) ∨
        ∃ time, c.refreshTime? event = some time ∧ some (c.step event).lastRefresh = some time ∧
          ∀ last ∈ some c.lastRefresh, last + statusInterval ≤ time := by
    intro c event hoffers _
    rcases refreshTime?_step hoffers event with ⟨htime, hmark⟩ | ⟨now, htime, hmark, hwaited⟩
    · exact .inl ⟨htime, congrArg some hmark⟩
    · refine .inr ⟨now, htime, congrArg some hmark, ?_⟩
      rintro _ ⟨⟩
      exact hwaited
  exact (pairwise_timesIn (fun c => some c.lastRefresh) hspaced hoffers).1

end Runs

section Launching

variable [Service σ]

/-- No command line of a configuration opens a connection. -/
theorem lasting_player_eq_none :
    Session.Lasting fun session : Session σ => session.player = none where
  dispatch {dispatcher session} hoffers h line := by
    have hserved := Dispatcher.served_dispatch hoffers line session
    unfold Session.Served at hserved
    rw [h] at hserved
    exact Option.not_isSome_iff_eq_none.1 fun hsome => by
      generalize (dispatcher.dispatch line session).2.2.player = after at hserved hsome
      cases hserved
      cases hsome
  setError _ h := h

omit [Service σ] in
theorem watching_of_furnish {startup : Startup} {config : Option ConfigFile} {network : ω}
    {clock : Nat} {outcome : Except DispatchError Unit × Dispatcher (Session σ) × Session σ}
    {c : Controller ω σ} (h : startup.furnish config network clock outcome = .ok c) :
    c.watching = false := by
  obtain ⟨_ | _, dispatcher, session⟩ := outcome
  · cases h
  · cases h
    rfl

/-- Every client that is launched has still to connect. -/
theorem unconnected_of_client? [Network ω σ] {startup : Startup} {config : Option ConfigFile}
    {network : ω} {chance : Chance} {clock : Nat} {c : Controller ω σ}
    (h : startup.client? config network chance clock = .ok c) : c.Unconnected := by
  obtain ⟨hoffers, hplayer, -⟩ := lasting_player_eq_none.client? rfl h
  exact ⟨hoffers, hplayer, watching_of_furnish h⟩

end Launching

/-- Every client that is launched has still to connect. Once it has tried, then whatever the server
does, whatever chance draws and whatever keys are pressed: there is a connection just as long as news
are watched. Attempts to connect, each counted with its time, are at least five seconds apart, and
requests for the status that ticks make are at least one second apart. A tick that finds no connection
asks nothing but on a connection that it opens. What could not be loaded is shown as it was. -/
theorem connections_are_timed (ω σ : Type) [Network ω σ] [Service σ] :
    (∀ (startup : Startup) (config : Option ConfigFile) (network : Switchboard (DialCounter ω) σ)
      (chance : Chance) (clock : Nat),
      match (startup.client? config network chance clock : Except DispatchError (Clocked ω σ)) with
      | .ok c => c.Unconnected
      | .error _ => True) ∧
    (∀ (c : Clocked ω σ) (start : Nat) (events : List Event), c.Unconnected →
      (∀ clock, .connect clock ∉ events) → (∀ now clock, .tick now clock ∈ events → now ≤ clock) →
      let whole := .connect start :: events
      (∀ done, done <+: whole → ((c.run done).session.player.isSome ↔ (c.run done).watching)) ∧
      (c.attemptTimes whole).Pairwise (· + 5000 ≤ ·) ∧
      (c.run whole).dials = c.dials + (c.attemptTimes whole).length ∧
      (∀ done now clock, done ++ [.tick now clock] <+: whole →
        (c.run done).session.player = none →
        ∃ opened, ((c.run done).step (.tick now clock)).connections =
            (c.run done).connections ++ opened ∧ opened.length ≤ 1 ∧
          ((c.run done).attemptTime? (.tick now clock) = none → opened = [])) ∧
      (c.refreshTimes whole).Pairwise (· + 1000 ≤ ·)) ∧
    ∀ (c : Controller ω σ) (error : PlaybackError),
      ((c.session.player.call nowPlaying).1 = .error error → ShowsAsBefore c c.refreshStatus) ∧
      ((c.session.player.call (Service.ask .queue)).1 = .error error →
        ShowsAsBefore c c.refreshQueue) ∧
      ((c.session.player.call (Service.ask .library)).1 = .error error →
        ShowsAsBefore c c.refreshLibrary) := by
  refine ⟨?_, ?_, ?_⟩
  · intro startup config network chance clock
    cases hclient : (startup.client? config network chance clock :
        Except DispatchError (Clocked ω σ)) with
    | error error => trivial
    | ok c => exact unconnected_of_client? hclient
  · intro c start events h hconnect hclock whole
    have hlinked : c.Linked := by simp [Linked, h.player, h.watching]
    refine ⟨fun done _ => linked_run h.offers hlinked done,
      pairwise_attemptTimes h.offers hconnect hclock, dials_run h.offers whole, ?_,
      pairwise_refreshTimes h.offers whole⟩
    intro done now clock _ hnone
    exact connections_tick_of_none (offers_run h.offers done) hnone now clock
  · intro c error
    exact ⟨c.showsAsBefore_load "status" _, c.showsAsBefore_load "queue" _,
      c.showsAsBefore_load "library" _⟩

/-- A client of a server that answers for a second after the start and then goes away. -/
def ofFadingServer : Clocked ScriptedNetwork Link where
  session := { chance := .first }
  dispatcher := .standard
  resolver := { timeout := Resolver.defaultTimeout }
  network := { network := { network :=
    { servers := some [bytes "OK MPD 0.23.5\nOK\nOK\nOK\nOK\nOK\nOK\n"] } } }
  server := { host := "localhost", port := 6600 }

theorem unconnected_ofFadingServer : ofFadingServer.Unconnected := by
  have hstandard : ofFadingServer.dispatcher = .standard := by
    unfold ofFadingServer
    rfl
  exact ⟨hstandard ▸ Dispatcher.offers_standard, rfl, rfl⟩

/-- Ticks of a client, each reading the clock a moment later. -/
def ticks (times : List Nat) : List Event := times.map fun time => .tick time (time + 1)

/-- The second tick that asks for the status finds the connection broken, which ends watching and
leaves on screen what was there. The next attempt is made when five seconds are over. -/
theorem fading_server_is_tried_again :
    let later := ticks [1000, 1900, 2000, 4000, 5000, 9000]
    let broken := ofFadingServer.run (.connect 0 :: ticks [1000, 1900])
    let dropped := ofFadingServer.run (.connect 0 :: ticks [1000, 1900, 2000])
    ofFadingServer.Unconnected ∧ (∀ clock, .connect clock ∉ later) ∧
      (∀ now clock, .tick now clock ∈ later → now ≤ clock) ∧
    (dropped.session.player.isSome ↔ dropped.watching) ∧
    ofFadingServer.attemptTimes (.connect 0 :: later) = [0, 5001] ∧
    (ofFadingServer.attemptTimes (.connect 0 :: later)).Pairwise (· + 5000 ≤ ·) ∧
    (dropped.session.player = none ∧
      ∃ opened, (dropped.step (.tick 4000 4001)).connections = dropped.connections ++ opened ∧
        opened.length ≤ 1 ∧ (dropped.attemptTime? (.tick 4000 4001) = none → opened = [])) ∧
    ofFadingServer.refreshTimes (.connect 0 :: later) = [1000, 2000] ∧
    (ofFadingServer.refreshTimes (.connect 0 :: later)).Pairwise (· + 1000 ≤ ·) ∧
    (broken.session.player.call nowPlaying).1 = .error (.lost "connection closed") ∧
    ShowsAsBefore broken broken.refreshStatus := by
  intro later broken dropped
  have hconnect : ∀ clock, .connect clock ∉ later := by simp [later, ticks]
  have hclock : ∀ now clock, .tick now clock ∈ later → now ≤ clock := by
    intro now clock hmem
    obtain ⟨time, -, hevent⟩ := List.mem_map.1 hmem
    cases hevent
    exact Nat.le_succ _
  obtain ⟨hlinked, hattempts, -, htick, hrefreshes⟩ :=
    (connections_are_timed ScriptedNetwork Link).2.1 ofFadingServer 0 later
      unconnected_ofFadingServer hconnect hclock
  have hnone : dropped.session.player = none := by decide +kernel
  have hlost : (broken.session.player.call nowPlaying).1 = .error (.lost "connection closed") :=
    failure?_eq_some_iff.1 (by decide +kernel)
  refine ⟨unconnected_ofFadingServer, hconnect, hclock, hlinked _ ⟨ticks [4000, 5000, 9000], rfl⟩,
    by decide +kernel, hattempts, ⟨hnone, ?_⟩, by decide +kernel, hrefreshes, hlost, ?_⟩
  · exact htick _ 4000 4001 ⟨ticks [5000, 9000], rfl⟩ hnone
  · exact ((connections_are_timed (Switchboard (DialCounter ScriptedNetwork) Link)
      (Observed Link)).2.2 broken _).1 hlost

end Jukebox.Controller
