import Jukebox.Command.Builtin
import Jukebox.Proofs.Line
import Jukebox.Proofs.Service

/-
# What a failed action leaves behind

Actions come in two parts. The first asks: it may fail, and what it does is at most to have the
playback service answer requests. The second settles: it changes the rest of the session, has nothing
more to ask, and cannot fail. An action of this form is orderly, for a failure of it has changed
nothing but what requests change. A state that holds more than a session is looked at through a view.
-/

namespace Jukebox

variable {σ ω μ α β : Type}

namespace Session

/-- Nothing is different but perhaps the playback service. -/
structure Spared (s t : Session σ) : Prop where
  settings : t.settings = s.settings
  styles : t.styles = s.styles
  keymap : t.keymap = s.keymap
  browser : t.browser = s.browser
  ui : t.ui = s.ui
  chance : t.chance = s.chance

theorem spared_refl (s : Session σ) : Spared s s := ⟨rfl, rfl, rfl, rfl, rfl, rfl⟩

theorem Spared.trans {s t u : Session σ} (hfirst : Spared s t) (hsecond : Spared t u) :
    Spared s u where
  settings := hsecond.settings.trans hfirst.settings
  styles := hsecond.styles.trans hfirst.styles
  keymap := hsecond.keymap.trans hfirst.keymap
  browser := hsecond.browser.trans hfirst.browser
  ui := hsecond.ui.trans hfirst.ui
  chance := hsecond.chance.trans hfirst.chance

section Served

variable [Service σ]

/-- The playback service has done nothing but answer requests, and is there if it was there. -/
def Served (s t : Session σ) : Prop := Option.Rel Service.Later s.player t.player

theorem served_of_player_eq {s t : Session σ} (h : t.player = s.player) : Served s t := by
  rw [Served, h]
  cases s.player with
  | none => exact .none
  | some service => exact .some (Service.later_refl service)

theorem served_refl (s : Session σ) : Served s s := served_of_player_eq rfl

theorem Served.trans {s t u : Session σ} (hfirst : Served s t) (hsecond : Served t u) :
    Served s u := by
  unfold Served at *
  generalize s.player = first, t.player = middle, u.player = last at hfirst hsecond ⊢
  cases hfirst with
  | none => exact hsecond
  | some hlater =>
    cases hsecond with
    | some hlast => exact .some (hlater.trans hlast)

end Served

end Session

/-- While there is a connection, a request is an exchange with the service. -/
theorem run_run_request {session : Session σ} {service next : σ} {result : Except PlaybackError α}
    (hplayer : session.player = some service) (action : String) {exchange : Exchange σ α}
    (hrun : exchange.run.run service = (result, next)) :
    (Session.request action exchange).run.run session =
      (result.mapError (.ofPlayback action), { session with player := some next }) := by
  change ((session.player.call exchange).1.mapError _,
    { session with player := (session.player.call exchange).2 }) = _
  rw [hplayer, Player.call_some, hrun]

/-- Without a connection a request fails at once. -/
theorem run_run_request_of_none {session : Session σ} (hplayer : session.player = none)
    (action : String) (exchange : Exchange σ α) :
    (Session.request action exchange).run.run session =
      (.error (.ofPlayback action .notConnected), session) := by
  obtain ⟨settings, styles, keymap, browser, ui, player, chance⟩ := session
  cases hplayer
  rfl

/-- An action that passes by a memory leaves it as it is. -/
theorem run_run_besideMemory {act : Act ω α} {world next : ω} {result : Except CommandError α}
    (h : act.run.run world = (result, next)) (memory : μ) :
    (Command.besideMemory act).run.run (memory, world) = (result, memory, next) := by
  change ((act.run.run world).1, memory, (act.run.run world).2) = _
  rw [h]

namespace Act

variable (view : ω → Session σ)

/-- The action succeeds and leaves the playback service alone. -/
structure Settles (act : Act ω α) (world : ω) : Prop where
  succeeds : ∃ a, (act.run.run world).1 = .ok a
  player : (view (act.run.run world).2).player = (view world).player

section

variable [Service σ]

/-- The action does no more than have the playback service answer requests. -/
structure Asks (act : Act ω α) (world : ω) : Prop where
  served : (view world).Served (view (act.run.run world).2)
  spared : (view world).Spared (view (act.run.run world).2)

/-- The action has the playback service answer requests, and if it fails it has done no more. -/
structure Orderly (act : Act ω α) (world : ω) : Prop where
  served : (view world).Served (view (act.run.run world).2)
  spared : ∀ error, (act.run.run world).1 = .error error →
    (view world).Spared (view (act.run.run world).2)

end

variable {view} {world : ω}

theorem settles_pure (a : α) : Settles view (pure a : Act ω α) world := ⟨⟨a, rfl⟩, rfl⟩

theorem settles_modify {f : ω → ω}
    (h : ∀ world, (view (f world)).player = (view world).player) :
    Settles view (modify f : Act ω PUnit) world := ⟨⟨⟨⟩, rfl⟩, h world⟩

theorem settles_set {next : ω} (h : (view next).player = (view world).player) :
    Settles view (set next : Act ω PUnit) world := ⟨⟨⟨⟩, rfl⟩, h⟩

theorem settles_inform (text : String) (session : Session σ) :
    Settles id (Session.inform text) session := settles_modify fun _ => rfl

theorem Settles.bind {first : Act ω α} {second : α → Act ω β} (hfirst : Settles view first world)
    (hsecond : ∀ a next, Settles view (second a) next) :
    Settles view (first >>= second) world := by
  obtain ⟨a, ha⟩ := hfirst.succeeds
  have hrun : first.run.run world = (.ok a, (first.run.run world).2) := Prod.ext ha rfl
  have hlast := hsecond a (first.run.run world).2
  constructor
  · rw [run_run_bind_of_ok hrun]
    exact hlast.succeeds
  · rw [run_run_bind_of_ok hrun]
    exact hlast.player.trans hfirst.player

theorem run_run_get_bind (second : ω → Act ω β) :
    (get >>= second).run.run world = (second world).run.run world :=
  run_run_bind_of_ok (run_run_get world)

theorem settles_get_bind {second : ω → Act ω β} (h : Settles view (second world) world) :
    Settles view (get >>= second) world := by
  constructor <;> rw [run_run_get_bind]
  · exact h.succeeds
  · exact h.player

variable [Service σ]

theorem Asks.orderly {act : Act ω α} (h : Asks view act world) : Orderly view act world :=
  ⟨h.served, fun _ _ => h.spared⟩

theorem Settles.orderly {act : Act ω α} (h : Settles view act world) :
    Orderly view act world := by
  refine ⟨Session.served_of_player_eq h.player, fun error herror => ?_⟩
  obtain ⟨a, ha⟩ := h.succeeds
  exact absurd (ha.symm.trans herror) nofun

theorem asks_of_unchanged {act : Act ω α} (h : (act.run.run world).2 = world) :
    Asks view act world := by
  constructor <;> rw [h]
  · exact Session.served_refl _
  · exact Session.spared_refl _

theorem asks_throw (error : CommandError) : Asks view (throw error : Act ω α) world :=
  asks_of_unchanged rfl

theorem orderly_throw (error : CommandError) : Orderly view (throw error : Act ω α) world :=
  (asks_throw error).orderly

/-- Once it has asked, an action may go on in any orderly way. -/
theorem Asks.bind_orderly {first : Act ω α} {second : α → Act ω β}
    (hfirst : Asks view first world) (hsecond : ∀ a next, Orderly view (second a) next) :
    Orderly view (first >>= second) world := by
  have hserved := hfirst.served
  have hspared := hfirst.spared
  rcases hrun : first.run.run world with ⟨error | a, next⟩ <;> rw [hrun] at hserved hspared
  · constructor
    · rw [run_run_bind_of_error hrun]
      exact hserved
    · intro _ _
      rw [run_run_bind_of_error hrun]
      exact hspared
  · have hlast := hsecond a next
    constructor
    · rw [run_run_bind_of_ok hrun]
      exact hserved.trans hlast.served
    · intro error herror
      rw [run_run_bind_of_ok hrun] at herror ⊢
      exact hspared.trans (hlast.spared error herror)

/-- To look at the state is to know it. -/
theorem orderly_get_bind {second : ω → Act ω β} (h : Orderly view (second world) world) :
    Orderly view (get >>= second) world := by
  constructor <;> rw [run_run_get_bind]
  · exact h.served
  · exact h.spared

/-- What stands behind a complaint is not reached. -/
theorem orderly_throw_bind (error : CommandError) (second : α → Act ω β) :
    Orderly view (throw error >>= second) world :=
  (asks_of_unchanged (by rw [run_run_bind, run_run_throw])).orderly

/-- An action may first complain about the state it finds. -/
theorem orderly_unless {condition : Prop} [Decidable condition] {error : CommandError}
    {second : α → Act ω β} {act : Act ω β} (h : Orderly view act world) :
    Orderly view (if condition then throw error >>= second else act) world := by
  split
  · exact orderly_throw_bind error second
  · exact h

/-- A part whose result is known already may be left out. -/
theorem orderly_ofExcept_bind {result : Except CommandError α} {second : α → Act ω β}
    (h : ∀ a, Orderly view (second a) world) :
    Orderly view (MonadExcept.ofExcept result >>= second) world := by
  cases result with
  | error error => exact orderly_throw error
  | ok a => exact h a

theorem asks_request (action : String) {exchange : Exchange σ α} (h : exchange.Asks)
    (session : Session σ) : Asks id (Session.request action exchange) session := by
  have hrun : ((Session.request action exchange).run.run session).2 =
      { session with player := (session.player.call exchange).2 } := rfl
  constructor <;> simp only [id_eq, hrun]
  · unfold Session.Served
    cases session.player with
    | none => exact .none
    | some service => exact .some (h service)
  · exact ⟨rfl, rfl, rfl, rfl, rfl, rfl⟩

section Memory

variable {act : Act (Session σ) α} {memory : μ} {session : Session σ}

theorem Asks.besideMemory (h : Asks id act session) :
    Asks Prod.snd (Command.besideMemory (μ := μ) act) (memory, session) :=
  ⟨h.served, h.spared⟩

theorem Orderly.besideMemory (h : Orderly id act session) :
    Orderly Prod.snd (Command.besideMemory (μ := μ) act) (memory, session) :=
  ⟨h.served, h.spared⟩

end Memory

end Act

namespace Command

variable [Service σ]

/-- A command that changes nothing before the end of a line, and there acts in an orderly way. -/
structure Orderly (command : Command (Session σ)) : Prop where
  actsAtEnd : command.ActsAtEnd
  served : ∀ words, Token.endOfLine ∉ words → ∀ state, ∀ session : Session σ,
    session.Served (command.runLine (words ++ [.endOfLine]) state session).2.2
  spared : ∀ words, Token.endOfLine ∉ words → ∀ state, ∀ session : Session σ, ∀ error,
    (command.runLine (words ++ [.endOfLine]) state session).1 = .error error →
      session.Spared (command.runLine (words ++ [.endOfLine]) state session).2.2

/-- It is enough that the action is orderly whenever the words of a line were accepted. -/
theorem orderly_ofReader {reader : Reader (Session σ) α} {memory : μ}
    {act : α → Act (μ × Session σ) Unit}
    (h : ∀ session words value, reader.readLine session words = .ok value →
      ∀ memory, Act.Orderly Prod.snd (act value) (memory, session)) :
    (ofReader reader memory act).Orderly := by
  refine ⟨actsAtEnd_ofReader reader memory act, ?_, ?_⟩
  · intro words hwords state session
    obtain ⟨arguments, hrun⟩ := runLine_ofReader hwords state session
    rw [hrun]
    cases hread : reader.readLine session words with
    | error error => exact Session.served_refl session
    | ok value => exact (h session words value hread state.memory).served
  · intro words hwords state session error
    obtain ⟨arguments, hrun⟩ := runLine_ofReader hwords state session
    rw [hrun]
    cases hread : reader.readLine session words with
    | error error => exact fun _ => Session.spared_refl session
    | ok value => exact (h session words value hread state.memory).spared error

theorem orderly_simple_of_readLine {reader : Reader (Session σ) α}
    {act : α → Act (Session σ) Unit}
    (h : ∀ session words value, reader.readLine session words = .ok value →
      Act.Orderly id (act value) session) : (simple reader act).Orderly :=
  orderly_ofReader fun session words value hread _ => (h session words value hread).besideMemory

theorem orderly_simple {reader : Reader (Session σ) α} {act : α → Act (Session σ) Unit}
    (h : ∀ session value, Act.Orderly id (act value) session) : (simple reader act).Orderly :=
  orderly_simple_of_readLine fun session _ value _ => h session value

end Command

end Jukebox
