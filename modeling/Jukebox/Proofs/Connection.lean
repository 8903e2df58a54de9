import Jukebox.Proofs.Upkeep

/-
# What a controller does with its connections

The connections of a controller are observed: the one that is open, and those that were closed, which
the network keeps with their records. What the controller does of its own accord is made of few parts.
It opens a connection and closes one; it has an exchange and drops the connection if that broke it;
the rest does not concern connections. So a property of the connections is kept by all that a
controller does once it is kept by these parts.
-/

namespace Jukebox

variable {ω σ α : Type}

/-- A network that keeps the records of the connections that were closed. -/
structure Switchboard (ω σ : Type) where
  network : ω
  closed : List (Observed σ) := []

instance [Network ω σ] : Network (Switchboard ω σ) (Observed σ) where
  dial address board :=
    let (result, network) := Network.dial address board.network
    (result.map fun (version, service) => (version, Observed.fresh service), { board with network })
  hangUp observed board :=
    { network := Network.hangUp observed.service board.network
      closed := board.closed ++ [observed] }

namespace Switchboard

variable [Network ω σ]

@[simp]
theorem closed_dial (address : Wire.ServerAddress) (board : Switchboard ω σ) :
    (Network.dial address board).2.closed = board.closed := rfl

/-- A connection that was opened has no record yet. -/
theorem exists_fresh_of_dial {address : Wire.ServerAddress} {board : Switchboard ω σ}
    {version : String} {observed : Observed σ}
    (h : (Network.dial address board).1 = .ok (version, observed)) :
    ∃ service, observed = Observed.fresh service := by
  obtain ⟨⟨_, service⟩, -, hpair⟩ := map_eq_ok_iff.1 h
  cases hpair
  exact ⟨service, rfl⟩

end Switchboard

namespace Controller

open Wire

/-- A controller whose connections are observed. -/
abbrev Watched (ω σ : Type) := Controller (Switchboard ω σ) (Observed σ)

/-- All connections that were opened so far. -/
def connections (c : Watched ω σ) : List (Observed σ) :=
  c.network.closed ++ c.session.player.toList

/-- Two controllers with the same connections and commands. -/
structure Alike (c c' : Controller ω σ) : Prop where
  network : c'.network = c.network
  player : c'.session.player = c.session.player
  dispatcher : c'.dispatcher = c.dispatcher

theorem Alike.connections_eq {c c' : Watched ω σ} (h : Alike c c') :
    c'.connections = c.connections := by
  unfold connections
  rw [h.network, h.player]

section Exchanges

variable [Network ω σ]

/-- Has an exchange with the service, and drops the connection if that broke it. -/
def converse (c : Controller ω σ) (exchange : Exchange σ α) : Controller ω σ :=
  let (result, player) := c.session.player.call exchange
  let c := { c with session := { c.session with player } }
  match result with
  | .ok _ => c
  | .error error => if error.isBroken then c.disconnect else c

/-- Loading something comes to an exchange, as far as connections are concerned. -/
theorem alike_load [Service σ] (c : Controller ω σ) (what : String) (exchange : Exchange σ α)
    {use : α → Controller ω σ → Controller ω σ} (huse : ∀ a c, Alike c (use a c)) :
    Alike (c.converse exchange) (c.load what exchange use) := by
  unfold converse load
  rcases c.session.player.call exchange with ⟨error | a, player⟩
  · by_cases hbroken : error.isBroken <;> by_cases hnone : error = .notConnected <;>
      simp only [reportFailure, hbroken, hnone, if_true, if_false] <;> exact ⟨rfl, rfl, rfl⟩
  · exact huse a _

variable [Service σ]

theorem alike_refreshStatus (c : Controller ω σ) :
    Alike (c.converse nowPlaying) c.refreshStatus := alike_load c _ _ fun _ _ => ⟨rfl, rfl, rfl⟩

theorem alike_refreshQueue (c : Controller ω σ) :
    Alike (c.converse (Service.ask .queue)) c.refreshQueue :=
  alike_load c _ _ fun _ _ => ⟨rfl, rfl, rfl⟩

theorem alike_refreshLibrary (c : Controller ω σ) :
    Alike (c.converse (Service.ask .library)) c.refreshLibrary :=
  alike_load c _ _ fun _ _ => ⟨rfl, rfl, rfl⟩

end Exchanges

section Kept

variable [Network ω σ] [Service σ]

/-- A property that the parts keep which the doings of a controller are made of. -/
structure Kept (P : Watched ω σ → Prop) : Prop where
  alike : ∀ {c c'}, P c → Alike c c' → P c'
  disconnect : ∀ c, P c → P c.disconnect
  converse : ∀ (c : Watched ω σ) {α : Type} (exchange : Exchange (Observed σ) α),
    exchange.Straight → exchange.Asks → P c → P (c.converse exchange)
  network : ∀ (c : Watched ω σ) network, network.closed = c.network.closed → P c →
    P { c with network }
  attach : ∀ (c : Watched ω σ) service, P c → P (c.attach (Observed.fresh service))

namespace Kept

variable {P : Watched ω σ → Prop} (h : Kept P) {c : Watched ω σ}

include h

theorem refreshStatus (hc : P c) : P c.refreshStatus :=
  h.alike (h.converse c _ straight_nowPlaying asks_nowPlaying hc) c.alike_refreshStatus

theorem refreshQueue (hc : P c) : P c.refreshQueue :=
  h.alike (h.converse c _ (Exchange.straight_ask .queue) (Exchange.asks_ask .queue) hc)
    c.alike_refreshQueue

theorem refreshLibrary (hc : P c) : P c.refreshLibrary :=
  h.alike (h.converse c _ (Exchange.straight_ask .library) (Exchange.asks_ask .library) hc)
    c.alike_refreshLibrary

theorem handleNews (hc : P c) (news : News) : P (c.handleNews news) := by
  cases news with
  | player => exact h.refreshStatus hc
  | queue => exact h.refreshStatus (h.refreshQueue hc)
  | library => exact h.refreshLibrary hc
  | disconnected reason =>
    have hunwatched : P { c with watching := false } := h.alike hc ⟨rfl, rfl, rfl⟩
    exact h.alike (h.disconnect _ hunwatched) ⟨rfl, rfl, rfl⟩

theorem connect (hc : P c) (clock : Nat) : P (c.connect clock) := by
  have hdialed : P { c with network := (Network.dial c.server c.network).2 } :=
    h.network c _ (Switchboard.closed_dial c.server c.network) hc
  unfold Controller.connect
  rcases hdial : Network.dial c.server c.network with ⟨error | ⟨version, observed⟩, network⟩
  · rw [hdial] at hdialed
    exact h.alike hdialed ⟨rfl, rfl, rfl⟩
  · rw [hdial] at hdialed
    obtain ⟨service, rfl⟩ := Switchboard.exists_fresh_of_dial (congrArg Prod.fst hdial)
    have htried : P { c with network, lastAttempt := some clock } :=
      h.alike hdialed ⟨rfl, rfl, rfl⟩
    refine h.refreshLibrary (h.refreshQueue (h.refreshStatus ?_))
    exact h.alike (h.attach _ service htried) ⟨rfl, rfl, rfl⟩

/-- Whatever a controller does of its own accord keeps the property. -/
theorem attend (hc : P c) (event : Event) : P (c.attend event) := by
  cases event with
  | line | key => exact hc
  | tick now clock =>
    simp only [Controller.attend]
    split
    · split
      · exact h.connect hc clock
      · exact hc
    · split
      · exact h.refreshStatus (h.alike hc ⟨rfl, rfl, rfl⟩)
      · exact hc
  | news news => exact h.handleNews hc news
  | connect clock => exact h.connect hc clock
  | shutdown => exact h.disconnect _ (h.alike hc ⟨rfl, rfl, rfl⟩)

end Kept

end Kept

section Connections

variable [Network ω σ]

theorem connections_disconnect (c : Watched ω σ) :
    c.disconnect.connections = c.connections ∧ c.disconnect.session.player = none := by
  unfold disconnect connections
  split
  · next hnone => exact ⟨rfl, hnone⟩
  · next o hsome =>
    rw [hsome]
    exact ⟨List.append_nil _, rfl⟩

theorem converse_of_none {c : Watched ω σ} (h : c.session.player = none)
    (exchange : Exchange (Observed σ) α) : Alike c (c.converse exchange) := by
  unfold converse
  rw [h, Player.call_none]
  exact ⟨rfl, h.symm, rfl⟩

/-- After an exchange the service is where the exchange led it, or hung up on. -/
theorem converse_of_some {c : Watched ω σ} {o : Observed σ} (h : c.session.player = some o)
    (exchange : Exchange (Observed σ) α) :
    (c.converse exchange).network.closed = c.network.closed ∧
        (c.converse exchange).session.player = some (exchange.run.run o).2 ∧
        (∀ error, (exchange.run.run o).1 = .error error → ¬ error.isBroken) ∨
      (c.converse exchange).network.closed = c.network.closed ++ [(exchange.run.run o).2] ∧
        (c.converse exchange).session.player = none := by
  unfold converse
  rw [h, Player.call_some]
  rcases exchange.run.run o with ⟨error | a, o'⟩
  · by_cases hbroken : error.isBroken
    · simp only [hbroken, if_true]
      exact .inr ⟨rfl, rfl⟩
    · simp only [hbroken]
      refine .inl ⟨rfl, rfl, ?_⟩
      intro cause hcause
      cases hcause
      exact hbroken
  · exact .inl ⟨rfl, rfl, nofun⟩

variable [Service σ]

/-- What a controller does of its own accord keeps the records true. -/
theorem kept_recorded : Kept fun c : Watched ω σ => ∀ o ∈ c.connections, o.Recorded where
  alike h halike := by
    rw [halike.connections_eq]
    exact h
  disconnect c h := by
    rw [(connections_disconnect c).1]
    exact h
  converse c α exchange _ hasks h := by
    cases hplayer : c.session.player with
    | none =>
      rw [(converse_of_none hplayer exchange).connections_eq]
      exact h
    | some o =>
      have hrecorded : (exchange.run.run o).2.Recorded := by
        refine (h o ?_).later (hasks o)
        rw [connections, hplayer]
        exact List.mem_append_right _ List.mem_cons_self
      have hclosed : ∀ o ∈ c.network.closed, o.Recorded :=
        fun o ho => h o (List.mem_append_left _ ho)
      have hall : ∀ o' ∈ c.network.closed ++ [(exchange.run.run o).2], o'.Recorded := by
        intro o' ho'
        rcases List.mem_append.1 ho' with hold | hnew
        · exact hclosed o' hold
        · rw [List.mem_singleton.1 hnew]
          exact hrecorded
      unfold connections
      rcases converse_of_some hplayer exchange with ⟨hsame, hopen, -⟩ | ⟨hmore, hnone⟩
      · rw [hsame, hopen]
        exact hall
      · rw [hmore, hnone]
        exact (List.append_nil _).symm ▸ hall
  network c network hclosed h := by
    intro o ho
    refine h o ?_
    rw [connections, ← hclosed]
    exact ho
  attach c service h := by
    have hdisconnected := (connections_disconnect c).1.symm ▸ h
    intro o ho
    rcases List.mem_append.1 ho with hclosed | hnew
    · exact hdisconnected o (List.mem_append_left _ hclosed)
    · rw [List.mem_singleton.1 hnew]
      exact Observed.recorded_fresh service

theorem recorded_step {c : Watched ω σ} (hoffers : c.dispatcher.Offers Command.builtin)
    (hrecorded : ∀ o ∈ c.connections, o.Recorded) (event : Event) :
    ∀ o ∈ (c.step event).connections, o.Recorded := by
  rw [step_eq]
  refine kept_recorded.attend ?_ event
  have hled := led_runCommands hoffers event
  intro o ho
  rcases List.mem_append.1 ho with hclosed | hopen
  · rw [hled.network] at hclosed
    exact hrecorded o (List.mem_append_left _ hclosed)
  · have hserved := hled.served
    unfold Session.Served at hserved
    rw [Option.mem_toList.1 hopen] at hserved
    generalize hplayer : c.session.player = player at hserved
    cases hserved with
    | some hlater =>
      refine (hrecorded _ (List.mem_append_right _ ?_)).later hlater
      rw [hplayer]
      exact List.mem_cons_self

theorem recorded_run {c : Watched ω σ} (hoffers : c.dispatcher.Offers Command.builtin)
    (hrecorded : ∀ o ∈ c.connections, o.Recorded) (events : List Event) :
    ∀ o ∈ (c.run events).connections, o.Recorded := by
  induction events using List.reverseRecOn with
  | nil => exact hrecorded
  | append_singleton events event ih =>
    rw [run_concat]
    exact recorded_step (offers_run hoffers events) ih event

end Connections

end Controller

end Jukebox
