import Jukebox.Controller.Keys
import Jukebox.Proofs.FailedLine

/-
# What happens to a controller

A run of the client is a list of events: command lines, keys, ticks, news of the server, attempts to
connect, the end. In each event first the command lines are carried out that it stands for, and then
the controller does what it has to do of its own accord. The command lines have no hold of the network
and can only have the playback service answer requests; opening, loading and dropping connections is
left to the controller.
-/

namespace Jukebox.Controller

open Wire

/-- What happens to a controller. -/
inductive Event where
  | line (line : String)
  | key (event : KeyEvent) (now : Nat)
  | tick (now clock : Nat)
  | news (news : News)
  | connect (clock : Nat)
  | shutdown
deriving DecidableEq, Repr

variable {ω σ : Type}

/-- Carries out the command lines that an event stands for: that of the line itself, those that keys
are bound to, that of the keys held too long. -/
def runCommands (c : Controller ω σ) : Event → Controller ω σ
  | .line line => c.runLine line
  | .key event now => c.handleKey event now
  | .tick now _ => c.expireKeys now
  | .news _ | .connect _ | .shutdown => c

section Step

variable [Network ω σ] [Service σ]

/-- Does what an event calls for besides command lines. -/
def attend (c : Controller ω σ) : Event → Controller ω σ
  | .line _ | .key _ _ => c
  | .tick now clock =>
    if c.session.player.isNone then
      if c.isAttemptDue now then c.connect clock else c
    else if statusInterval ≤ now - c.lastRefresh then
      { c with lastRefresh := now }.refreshStatus
    else c
  | .news news => c.handleNews news
  | .connect clock => c.connect clock
  | .shutdown => c.shutdown

/-- Handles an event. -/
def step (c : Controller ω σ) : Event → Controller ω σ
  | .line line => c.runLine line
  | .key event now => c.handleKey event now
  | .tick now clock => c.tick now clock
  | .news news => c.handleNews news
  | .connect clock => c.connect clock
  | .shutdown => c.shutdown

theorem step_eq (c : Controller ω σ) (event : Event) :
    c.step event = (c.runCommands event).attend event := by
  cases event <;> rfl

/-- Handles events in order. -/
def run (c : Controller ω σ) (events : List Event) : Controller ω σ := events.foldl step c

end Step

variable [Service σ]

theorem asks_nowPlaying : Exchange.Asks (nowPlaying : Exchange σ (Status × Option Song)) :=
  Exchange.asks_bind (Exchange.asks_ask .status) fun _ =>
    Exchange.asks_bind (Exchange.asks_ask .currentSong) fun _ => Exchange.asks_pure _

theorem straight_nowPlaying :
    Exchange.Straight (nowPlaying : Exchange (Observed σ) (Status × Option Song)) :=
  Exchange.straight_bind (Exchange.straight_ask .status) fun _ =>
    Exchange.straight_bind (Exchange.straight_ask .currentSong) fun _ => Exchange.straight_pure _

/-- To load what plays something is asked in any case. -/
theorem longer_nowPlaying (o : Observed σ) :
    o.calls.length < ((nowPlaying : Exchange (Observed σ) _).run.run o).2.calls.length :=
  Exchange.longer_ask_bind .status
    (fun _ => Exchange.asks_bind (Exchange.asks_ask .currentSong) fun _ => Exchange.asks_pure _) o

/-- One controller comes from another without touching the network: the playback service answers
requests, and the commands on offer stay. -/
structure Led (c c' : Controller ω σ) : Prop where
  network : c'.network = c.network
  served : c.session.Served c'.session
  offered : c'.dispatcher.offered = c.dispatcher.offered

theorem led_refl (c : Controller ω σ) : Led c c := ⟨rfl, Session.served_refl _, rfl⟩

theorem Led.trans {c c' c'' : Controller ω σ} (hfirst : Led c c') (hsecond : Led c' c'') :
    Led c c'' where
  network := hsecond.network.trans hfirst.network
  served := hfirst.served.trans hsecond.served
  offered := hsecond.offered.trans hfirst.offered

theorem Led.offers {c c' : Controller ω σ} (h : Led c c')
    {commands : List (String × Command (Session σ))} (hoffers : c.dispatcher.Offers commands) :
    c'.dispatcher.Offers commands := h.offered.trans hoffers

theorem led_of_eq {c c' : Controller ω σ} (hnetwork : c'.network = c.network)
    (hplayer : c'.session.player = c.session.player) (hdispatcher : c'.dispatcher = c.dispatcher) :
    Led c c' :=
  ⟨hnetwork, Session.served_of_player_eq hplayer, congrArg Dispatcher.offered hdispatcher⟩

omit [Service σ] in
theorem player_runLine (c : Controller ω σ) (line : String) :
    (c.runLine line).session.player = (c.dispatcher.dispatch line c.session).2.2.player := by
  unfold runLine
  rcases c.dispatcher.dispatch line c.session with ⟨_ | _, _, _⟩ <;> rfl

theorem led_runLine {c : Controller ω σ} (hoffers : c.dispatcher.Offers Command.builtin)
    (line : String) : Led c (c.runLine line) := by
  have hserved := Dispatcher.served_dispatch hoffers line c.session
  have hoffered := c.dispatcher.offered_dispatch line c.session
  unfold runLine
  generalize c.dispatcher.dispatch line c.session = outcome at hserved hoffered ⊢
  rcases outcome with ⟨_ | _, dispatcher, session⟩
  · exact ⟨rfl, hserved, hoffered⟩
  · exact ⟨rfl, hserved, hoffered⟩

theorem led_foldl_resolve {c : Controller ω σ} (hoffers : c.dispatcher.Offers Command.builtin)
    (resolutions : List Resolution) : Led c (resolutions.foldl resolve c) := by
  induction resolutions generalizing c with
  | nil => exact led_refl c
  | cons resolution resolutions ih =>
    have hfirst : Led c (c.resolve resolution) := by
      cases resolution with
      | dispatch line => exact led_runLine hoffers line
      | pending | unbound => exact led_refl c
    exact hfirst.trans (ih (hfirst.offers hoffers))

/-- Before the command lines the rest of the controller may be put in order. -/
theorem led_runLine_of_led {c c' : Controller ω σ} (hoffers : c.dispatcher.Offers Command.builtin)
    (h : Led c c') (line : String) : Led c (c'.runLine line) :=
  h.trans (led_runLine (h.offers hoffers) line)

theorem led_pressKey {c : Controller ω σ} (hoffers : c.dispatcher.Offers Command.builtin)
    (key : Key) (now : Nat) : Led c (c.pressKey key now) := by
  unfold pressKey
  split
  next resolutions resolver _ =>
  have hheld : Led c { c with resolver }.showHeldKeys := led_of_eq rfl rfl rfl
  exact hheld.trans (led_foldl_resolve (hheld.offers hoffers) resolutions)

theorem led_handleKey {c : Controller ω σ} (hoffers : c.dispatcher.Offers Command.builtin)
    (event : KeyEvent) (now : Nat) : Led c (c.handleKey event now) := by
  unfold handleKey
  split
  · exact led_refl c
  · split
    · have hclear : Led c (c.modifyUi (·.clearMessage)) := led_of_eq rfl rfl rfl
      unfold normalKey
      dsimp only
      split
      · exact led_of_eq rfl rfl rfl
      · exact hclear.trans (led_pressKey (hclear.offers hoffers) _ now)
    · have hmode : Led c (c.modifyUi (·.setMode .normal)) := led_of_eq rfl rfl rfl
      unfold inputKey
      split
      · exact led_runLine_of_led hoffers hmode _
      · exact hmode
      · exact led_of_eq rfl rfl rfl
      · exact led_refl c
    · unfold searchKey
      split
      · exact led_of_eq rfl rfl rfl
      · exact led_of_eq rfl rfl rfl
      · exact led_of_eq rfl rfl rfl
      · exact led_refl c

theorem led_expireKeys {c : Controller ω σ} (hoffers : c.dispatcher.Offers Command.builtin)
    (now : Nat) : Led c (c.expireKeys now) := by
  unfold expireKeys
  split
  next line resolver _ =>
  have hheld : Led c { c with resolver }.showHeldKeys := led_of_eq rfl rfl rfl
  dsimp only
  split
  · exact led_runLine_of_led hoffers hheld _
  · exact hheld

theorem led_runCommands {c : Controller ω σ} (hoffers : c.dispatcher.Offers Command.builtin)
    (event : Event) : Led c (c.runCommands event) := by
  cases event with
  | line line => exact led_runLine hoffers line
  | key event now => exact led_handleKey hoffers event now
  | tick now clock => exact led_expireKeys hoffers now
  | news | connect | shutdown => exact led_refl c

end Jukebox.Controller
