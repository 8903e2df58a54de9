import Mathlib.Data.List.Induction
import Jukebox.Proofs.Run

/-
# What a controller does of its own accord

Between command lines a controller opens, loads and drops connections. It may put other songs into the
lists and show another message or status. But it leaves alone what is typed: the input mode, the line,
the live search and the keys on hold. Nor does it touch the commands, which therefore are the same all
through a run.
-/

namespace Jukebox

theorem Browser.search_replace (b : Browser) (kind : ListKind) (songs : List Song) :
    (b.replace kind songs).search = b.search := by
  unfold replace
  split <;> rfl

namespace Controller

open Wire

variable {ω σ α : Type}

/-- What is typed is the same, and so are the commands. -/
structure Upkept (c d : Controller ω σ) : Prop where
  dispatcher : d.dispatcher = c.dispatcher
  resolver : d.resolver = c.resolver
  mode : d.session.ui.mode = c.session.ui.mode
  input : d.session.ui.input = c.session.ui.input
  search : d.session.browser.search = c.session.browser.search

theorem upkept_refl (c : Controller ω σ) : Upkept c c := ⟨rfl, rfl, rfl, rfl, rfl⟩

theorem Upkept.trans {c c' c'' : Controller ω σ} (hfirst : Upkept c c') (hsecond : Upkept c' c'') :
    Upkept c c'' where
  dispatcher := hsecond.dispatcher.trans hfirst.dispatcher
  resolver := hsecond.resolver.trans hfirst.resolver
  mode := hsecond.mode.trans hfirst.mode
  input := hsecond.input.trans hfirst.input
  search := hsecond.search.trans hfirst.search

section Upkeep

variable [Network ω σ]

theorem upkept_disconnect (c : Controller ω σ) : Upkept c c.disconnect := by
  unfold disconnect
  split
  · exact upkept_refl c
  · exact ⟨rfl, rfl, rfl, rfl, rfl⟩

theorem upkept_reportFailure (c : Controller ω σ) (what : String) (error : PlaybackError) :
    Upkept c (c.reportFailure what error) := by
  have hdropped : Upkept c
      (if error.isBroken then { c.disconnect with watching := false } else c) := by
    split
    · exact (upkept_disconnect c).trans ⟨rfl, rfl, rfl, rfl, rfl⟩
    · exact upkept_refl c
  unfold reportFailure
  dsimp only
  split
  · exact hdropped
  · exact hdropped.trans ⟨rfl, rfl, rfl, rfl, rfl⟩

theorem upkept_load (c : Controller ω σ) (what : String) (exchange : Exchange σ α)
    {use : α → Controller ω σ → Controller ω σ} (huse : ∀ a c, Upkept c (use a c)) :
    Upkept c (c.load what exchange use) := by
  unfold load
  rcases c.session.player.call exchange with ⟨error | a, player⟩
  · have hasked : Upkept c { c with session := { c.session with player } } :=
      ⟨rfl, rfl, rfl, rfl, rfl⟩
    exact hasked.trans (upkept_reportFailure _ what error)
  · have hasked : Upkept c { c with session := { c.session with player } } :=
      ⟨rfl, rfl, rfl, rfl, rfl⟩
    exact hasked.trans (huse a _)

variable [Service σ]

theorem upkept_refreshStatus (c : Controller ω σ) : Upkept c c.refreshStatus :=
  upkept_load c _ _ fun _ _ => ⟨rfl, rfl, rfl, rfl, rfl⟩

theorem upkept_refreshQueue (c : Controller ω σ) : Upkept c c.refreshQueue :=
  upkept_load c _ _ fun _ c => ⟨rfl, rfl, rfl, rfl, c.session.browser.search_replace _ _⟩

theorem upkept_refreshLibrary (c : Controller ω σ) : Upkept c c.refreshLibrary :=
  upkept_load c _ _ fun _ c => ⟨rfl, rfl, rfl, rfl, c.session.browser.search_replace _ _⟩

theorem upkept_handleNews (c : Controller ω σ) (news : News) : Upkept c (c.handleNews news) := by
  cases news with
  | player => exact upkept_refreshStatus c
  | queue => exact (upkept_refreshQueue c).trans (upkept_refreshStatus _)
  | library => exact upkept_refreshLibrary c
  | disconnected reason =>
    have hunwatched : Upkept c { c with watching := false } := ⟨rfl, rfl, rfl, rfl, rfl⟩
    exact (hunwatched.trans (upkept_disconnect _)).trans ⟨rfl, rfl, rfl, rfl, rfl⟩

theorem upkept_connect (c : Controller ω σ) (clock : Nat) : Upkept c (c.connect clock) := by
  unfold connect
  rcases Network.dial c.server c.network with ⟨error | ⟨version, service⟩, network⟩
  · exact ⟨rfl, rfl, rfl, rfl, rfl⟩
  · have htried : Upkept c { c with network, lastAttempt := some clock } :=
      ⟨rfl, rfl, rfl, rfl, rfl⟩
    have hattached := (htried.trans (upkept_disconnect _)).trans
      (show Upkept _ ((attach { c with network, lastAttempt := some clock } service).modifyUi
        (·.setInfo ("Connected to MPD " ++ version ++ " at " ++ c.server.display))) from
        ⟨rfl, rfl, rfl, rfl, rfl⟩)
    exact ((hattached.trans (upkept_refreshStatus _)).trans (upkept_refreshQueue _)).trans
      (upkept_refreshLibrary _)

theorem upkept_attend (c : Controller ω σ) (event : Event) : Upkept c (c.attend event) := by
  cases event with
  | line | key => exact upkept_refl c
  | tick now clock =>
    unfold attend
    dsimp only
    split
    · split
      · exact upkept_connect c clock
      · exact upkept_refl c
    · split
      · have hnoted : Upkept c { c with lastRefresh := now } := ⟨rfl, rfl, rfl, rfl, rfl⟩
        exact hnoted.trans (upkept_refreshStatus _)
      · exact upkept_refl c
  | news news => exact upkept_handleNews c news
  | connect clock => exact upkept_connect c clock
  | shutdown =>
    have hunwatched : Upkept c { c with watching := false } := ⟨rfl, rfl, rfl, rfl, rfl⟩
    exact hunwatched.trans (upkept_disconnect _)

end Upkeep

section Run

variable [Network ω σ] [Service σ]

theorem offers_step {c : Controller ω σ} (hoffers : c.dispatcher.Offers Command.builtin)
    (event : Event) : (c.step event).dispatcher.Offers Command.builtin := by
  rw [step_eq, (upkept_attend _ event).dispatcher]
  exact (led_runCommands hoffers event).offers hoffers

theorem run_concat (c : Controller ω σ) (events : List Event) (event : Event) :
    c.run (events ++ [event]) = (c.run events).step event := by
  rw [run, List.foldl_concat, run]

theorem offers_run {c : Controller ω σ} (hoffers : c.dispatcher.Offers Command.builtin)
    (events : List Event) : (c.run events).dispatcher.Offers Command.builtin := by
  induction events using List.reverseRecOn with
  | nil => exact hoffers
  | append_singleton events event ih =>
    rw [run_concat]
    exact offers_step ih event

end Run

end Controller

end Jukebox
