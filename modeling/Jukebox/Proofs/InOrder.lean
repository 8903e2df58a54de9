import Jukebox.Proofs.StockRun

/-
# Lists in order

The queue and the library come first among the lists of a client, all others were derived by the user,
and one of them is active. So it is in a client that was launched, and so it stays with every event,
whatever the network and the playback service do. What the queue and the library hold is another matter,
for which it has to be known what the service answered.
-/

namespace Jukebox

/-- The queue and the library come first, whatever they hold, and the other lists were derived. -/
def Browser.InOrder (b : Browser) : Prop := ∃ stock, b.Holds stock

namespace Browser.InOrder

variable {b b' : Browser}

theorem of_spares (h : b.InOrder) (hspares : b.Spares b') : b'.InOrder :=
  h.imp hspares

/-- There is a library. -/
theorem exists_library (h : b.InOrder) : ∃ library, b.list? .library = some library := by
  obtain ⟨stock, hholds⟩ := h
  obtain ⟨songs, hsongs, -⟩ := hholds.songs?_library
  obtain ⟨library, hlibrary, -⟩ := Option.map_eq_some_iff.1 hsongs
  exact ⟨library, hlibrary⟩

theorem replace_queue (h : b.InOrder) (songs : List Song) : (b.replace .queue songs).InOrder :=
  h.elim fun _ hholds => ⟨_, hholds.replace_queue songs⟩

theorem replace_library (h : b.InOrder) (songs : List Song) :
    (b.replace .library songs).InOrder :=
  h.elim fun _ hholds => ⟨_, hholds.replace_library songs⟩

end Browser.InOrder

variable {ω σ α : Type}

theorem Session.lasting_inOrder [Service σ] :
    Session.Lasting fun session : Session σ => session.browser.InOrder where
  dispatch hoffers h line := h.elim fun _ hholds => ⟨_, hholds.dispatch hoffers line⟩
  setError _ h := h

namespace Controller

open Wire

/-- The lists of the client are in order. -/
def InOrder (c : Controller ω σ) : Prop := c.session.browser.InOrder

/-- Commands and keys leave them in order. -/
theorem InOrder.runCommands [Service σ] {c : Controller ω σ} (h : c.InOrder)
    (hoffers : c.dispatcher.Offers Command.builtin) (event : Event) :
    (c.runCommands event).InOrder := by
  obtain ⟨stock, hholds⟩ := h
  obtain ⟨hspares, hdispatcher⟩ := c.spares_prepare event
  rw [runCommands_eq]
  exact ⟨_, holds_runLines (hspares stock hholds) (hdispatcher ▸ hoffers) (c.linesOf event)⟩

section Upkeep

variable [Network ω σ] {c : Controller ω σ}

theorem InOrder.disconnect (h : c.InOrder) : c.disconnect.InOrder := by
  unfold Controller.disconnect
  split <;> exact h

theorem InOrder.reportFailure (h : c.InOrder) (what : String) (error : PlaybackError) :
    (c.reportFailure what error).InOrder := by
  have hdropped : InOrder
      (if error.isBroken then { c.disconnect with watching := false } else c) := by
    split
    · exact h.disconnect
    · exact h
  unfold Controller.reportFailure
  dsimp only
  split <;> exact hdropped

theorem InOrder.load (h : c.InOrder) (what : String) (exchange : Exchange σ α)
    {use : α → Controller ω σ → Controller ω σ}
    (huse : ∀ a (d : Controller ω σ), d.InOrder → (use a d).InOrder) :
    (c.load what exchange use).InOrder := by
  unfold Controller.load
  rcases c.session.player.call exchange with ⟨error | a, player⟩
  · exact InOrder.reportFailure (c := { c with session := { c.session with player } }) h what error
  · exact huse a _ h

variable [Service σ]

theorem InOrder.refreshStatus (h : c.InOrder) : c.refreshStatus.InOrder :=
  h.load _ _ fun _ _ hd =>
    hd.of_spares (Browser.spares_of_same (by rfl) (by rfl) (by rfl))

theorem InOrder.refreshQueue (h : c.InOrder) : c.refreshQueue.InOrder :=
  h.load _ _ fun songs _ hd => hd.replace_queue songs

theorem InOrder.refreshLibrary (h : c.InOrder) : c.refreshLibrary.InOrder :=
  h.load _ _ fun songs _ hd => hd.replace_library songs

theorem InOrder.handleNews (h : c.InOrder) (news : News) : (c.handleNews news).InOrder := by
  cases news with
  | player => exact h.refreshStatus
  | queue => exact h.refreshQueue.refreshStatus
  | library => exact h.refreshLibrary
  | disconnected reason => exact InOrder.disconnect (c := { c with watching := false }) h

theorem InOrder.connect (h : c.InOrder) (clock : Nat) : (c.connect clock).InOrder := by
  unfold Controller.connect
  rcases Network.dial c.server c.network with ⟨error | ⟨version, service⟩, network⟩
  · exact h
  · have hdropped := InOrder.disconnect (c := { c with network, lastAttempt := some clock }) h
    exact InOrder.refreshLibrary (InOrder.refreshQueue (InOrder.refreshStatus hdropped))

/-- What the controller does of its own accord leaves the lists in order. -/
theorem InOrder.attend (h : c.InOrder) (event : Event) : (c.attend event).InOrder := by
  cases event with
  | line | key => exact h
  | tick now clock =>
    unfold Controller.attend
    dsimp only
    split
    · split
      · exact h.connect clock
      · exact h
    · split
      · exact InOrder.refreshStatus (c := { c with lastRefresh := now }) h
      · exact h
  | news news => exact h.handleNews news
  | connect clock => exact h.connect clock
  | shutdown => exact InOrder.disconnect (c := { c with watching := false }) h

end Upkeep

section Run

variable [Network ω σ] [Service σ] {c : Controller ω σ}

theorem InOrder.step (h : c.InOrder) (hoffers : c.dispatcher.Offers Command.builtin)
    (event : Event) : (c.step event).InOrder := by
  rw [step_eq]
  exact (h.runCommands hoffers event).attend event

/-- The lists are in order all through a run. -/
theorem InOrder.run (h : c.InOrder) (hoffers : c.dispatcher.Offers Command.builtin)
    (events : List Event) : (c.run events).InOrder := by
  induction events generalizing c with
  | nil => exact h
  | cons event events ih => exact ih (h.step hoffers event) (offers_step hoffers event)

/-- Whatever the configuration, they are in order in a client that is launched. -/
theorem inOrder_of_client? {startup : Startup} {config : Option ConfigFile} {network : ω}
    {chance : Chance} {clock : Nat} (h : startup.client? config network chance clock = .ok c) :
    c.dispatcher.Offers Command.builtin ∧ c.InOrder :=
  have hlaunched := Session.lasting_inOrder.client? ⟨_, Browser.holds_initial⟩ h
  ⟨hlaunched.1, hlaunched.2.1⟩

end Run

end Controller

end Jukebox
