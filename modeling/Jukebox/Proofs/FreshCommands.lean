import Jukebox.Proofs.Dispatch
import Jukebox.Proofs.Observed

/-
# Used commands and new ones

A dispatcher has one instance of each command and uses it for line after line. A line can be given
up after any word, and then the instance is left with arguments that nobody asked for. They never
show: lines come to the same as if each had a new instance, which sees no other line. All that is
handed on from line to line besides the session is the volume that `volume` goes back to after a
muting.
-/

namespace Jukebox

universe u v

section Instances

variable {ω : Type}

namespace Dispatcher

/-- Carrying out a line changes the instance of the command that it names, and no other. -/
theorem find?_runNamed? {name : String} {tokens : List Token} {world after : ω}
    {entries entries' : List (RegisteredCommand ω)} {entry : RegisteredCommand ω}
    {result : Except CommandError Unit}
    (hentry : entries.find? (·.name = name) = some entry)
    (h : runNamed? name tokens world entries = some (result, entries', after)) (other : String) :
    entries'.find? (·.name = other) =
      if other = name then
        some { entry with state := (entry.command.runLine tokens entry.state world).2.1 }
      else entries.find? (·.name = other) := by
  induction entries generalizing entries' with
  | nil => cases h
  | cons first entries ih =>
    unfold runNamed? at h
    by_cases hname : first.name = name
    · rw [if_pos hname] at h
      obtain ⟨rfl, rfl, rfl⟩ := by simpa only [Option.some.injEq, Prod.mk.injEq] using h
      obtain rfl : first = entry := by simpa [hname] using hentry
      split
      · next hother => simp [hname, hother]
      · next hother =>
        have hne : ¬ first.name = other := fun h => hother (h.symm.trans hname)
        simp [hne]
    · rw [if_neg hname, Option.map_eq_some_iff] at h
      obtain ⟨⟨result', rest, after'⟩, hrest, heq⟩ := h
      obtain ⟨rfl, rfl, rfl⟩ := by simpa only [Prod.mk.injEq] using heq
      rw [List.find?_cons_of_neg (by simpa using hname)] at hentry
      have hfound := ih hentry hrest
      by_cases hfirst : first.name = other
      · have hother : ¬ other = name := fun h => hname (hfirst.trans h)
        simp [hfirst, hother]
      · simpa [hfirst] using hfound

/-- A line changes the instance of the command that it names, and no other. -/
theorem find?_dispatch {dispatcher : Dispatcher ω} {line name : String} {tokens : List Token}
    {entry : RegisteredCommand ω} (hline : Token.ofLine line = .word name :: tokens)
    (hentry : dispatcher.commands.find? (·.name = name) = some entry) (world : ω)
    (other : String) :
    (dispatcher.dispatch line world).2.1.commands.find? (·.name = other) =
      if other = name then
        some { entry with state := (entry.command.runLine tokens entry.state world).2.1 }
      else dispatcher.commands.find? (·.name = other) := by
  unfold dispatch
  rw [hline]
  dsimp only
  split
  · next hrun => exact find?_runNamed? hentry hrun other
  · next hrun =>
    rw [runNamed?_eq_none hrun] at hentry
    cases hentry

/-- A line that names no command is not carried out. -/
theorem dispatch_of_find?_eq_none {dispatcher : Dispatcher ω} {line name : String}
    {tokens : List Token} (hline : Token.ofLine line = .word name :: tokens)
    (hnone : dispatcher.commands.find? (·.name = name) = none) (world : ω) :
    dispatcher.dispatch line world = (.error (.notFound name), dispatcher, world) := by
  unfold dispatch
  rw [hline]
  dsimp only
  split
  · next hrun =>
    obtain ⟨entry, hentry, -⟩ := runNamed?_eq_some hrun
    cases hentry.symm.trans hnone
  · rfl

/-- What is on offer under a name is the command of the instance of that name. -/
theorem Offers.find? {dispatcher : Dispatcher ω} {commands : List (String × Command ω)}
    (h : dispatcher.Offers commands) (name : String) :
    commands.find? (·.1 = name) =
      (dispatcher.commands.find? (·.name = name)).map fun entry => (entry.name, entry.command) := by
  rw [← h, offered, List.find?_map]
  rfl

end Dispatcher

/-- Carries out lines one after another. From line to line something is handed on besides the state
that they act on; the results are given in order. -/
def carryOutAll {κ : Type u} (carryOut : String → κ → ω → Except DispatchError Unit × κ × ω) :
    List String → κ → ω → List (Except DispatchError Unit) × κ × ω
  | [], carried, world => ([], carried, world)
  | line :: lines, carried, world =>
    let (result, carried, world) := carryOut line carried world
    let (results, carried, world) := carryOutAll carryOut lines carried world
    (result :: results, carried, world)

/-- Two outcomes with the same answer and the same state, and with related things to hand on. -/
structure Agree {α : Type} {κ : Type u} {κ' : Type v} (R : κ → κ' → Prop) (first : α × κ × ω)
    (second : α × κ' × ω) : Prop where
  answer : first.1 = second.1
  carried : R first.2.1 second.2.1
  state : first.2.2 = second.2.2

/-- Two ways to carry out lines that agree on each single line agree on any number of lines. -/
theorem agree_carryOutAll {κ : Type u} {κ' : Type v} {R : κ → κ' → Prop}
    {carryOut : String → κ → ω → Except DispatchError Unit × κ × ω}
    {carryOut' : String → κ' → ω → Except DispatchError Unit × κ' × ω}
    (hstep : ∀ line carried carried' world, R carried carried' →
      Agree R (carryOut line carried world) (carryOut' line carried' world))
    (lines : List String) {carried : κ} {carried' : κ'} (world : ω) (h : R carried carried') :
    Agree R (carryOutAll carryOut lines carried world)
      (carryOutAll carryOut' lines carried' world) := by
  -- what is handed on differs from line to line, all that stays is that it is related
  induction lines generalizing carried carried' world with
  | nil => exact ⟨rfl, h, rfl⟩
  | cons line lines ih =>
    have hline := hstep line carried carried' world h
    unfold carryOutAll
    generalize carryOut line carried world = first, carryOut' line carried' world = second
      at hline ⊢
    obtain ⟨answer, carried, after⟩ := first
    obtain ⟨_, carried', _⟩ := second
    obtain ⟨rfl, hcarried, rfl⟩ := hline
    obtain ⟨hanswers, hlast, hafter⟩ := ih after hcarried
    exact ⟨congrArg (answer :: ·) hanswers, hlast, hafter⟩

end Instances

namespace Command

section

variable {ω α : Type}

/-- A command of which a line that was given up leaves nothing that a later line could tell. -/
def Forgetful (command : Command ω) : Prop :=
  ∀ tokens state world,
    command.runLine tokens state world = command.feedAll tokens command.fresh world

theorem forgetful_simple (reader : Reader ω α) (act : α → Act ω Unit) :
    (simple reader act).Forgetful := fun _ _ _ => rfl

end

variable {σ : Type} [Service σ]

/-- All commands but `volume` are forgetful. -/
theorem forgetful_of_mem_builtin {name : String} {command : Command (Session σ)}
    (h : (name, command) ∈ builtin) (hname : name ≠ "volume") : command.Forgetful := by
  simp only [builtin, List.mem_cons, Prod.mk.injEq, List.not_mem_nil, or_false] at h
  rcases h with ⟨-, rfl⟩ | ⟨-, rfl⟩ | ⟨-, rfl⟩ | ⟨-, rfl⟩ | ⟨-, rfl⟩ | ⟨-, rfl⟩ | ⟨-, rfl⟩ |
    ⟨-, rfl⟩ | ⟨-, rfl⟩ | ⟨hvolume, -⟩ | ⟨-, rfl⟩ | ⟨-, rfl⟩ | ⟨-, rfl⟩ | ⟨-, rfl⟩ | ⟨-, rfl⟩ |
    ⟨-, rfl⟩ | ⟨-, rfl⟩ | ⟨-, rfl⟩ | ⟨-, rfl⟩ | ⟨-, rfl⟩ | ⟨-, rfl⟩ | ⟨-, rfl⟩ | ⟨-, rfl⟩ | ⟨-, rfl⟩
  all_goals first
    | exact forgetful_simple _ _
    | exact absurd hvolume hname

/-- The volume that `volume` goes back to after a muting. -/
def unmuted? (state : (volume : Command (Session σ)).State) : Option Nat := Remembered.memory state

/-- What `volume` remembers at first, but for the volume to go back to after a muting. -/
def newVolume (unmuted : Option Nat) : (volume : Command (Session σ)).State :=
  Remembered.mk (Remembered.arguments (volume : Command (Session σ)).fresh) unmuted

theorem runLine_volume (tokens : List Token) (state : (volume : Command (Session σ)).State)
    (session : Session σ) :
    volume.runLine tokens state session =
      volume.feedAll tokens (newVolume (unmuted? state)) session := rfl

/-- Carries out a line by a new instance of its command, which sees no other line. The volume to go
back to after a muting is taken over and handed on. -/
def carryOutAnew (line : String) (unmuted : Option Nat) (session : Session σ) :
    Except DispatchError Unit × Option Nat × Session σ :=
  match Token.ofLine line with
  | [] | .endOfLine :: _ => (.ok (), unmuted, session)
  | .word name :: tokens =>
    if name = "volume" then
      let (result, state, session) := volume.feedAll tokens (newVolume unmuted) session
      (result.mapError .command, unmuted? state, session)
    else match builtin.find? (·.1 = name) with
      | some (_, command) =>
        let (result, _, session) := command.feedAll tokens command.fresh session
        (result.mapError .command, unmuted, session)
      | none => (.error (.notFound name), unmuted, session)
  | token :: _ => (.error (.notACommand token.display), unmuted, session)

end Command

namespace Dispatcher

variable {σ : Type} [Service σ]

/-- Whether all commands are on offer and `volume` remembers this volume to go back to. What else is
left in the instances is open. -/
structure Remembers (dispatcher : Dispatcher (Session σ)) (unmuted : Option Nat) : Prop where
  offers : dispatcher.Offers Command.builtin
  volume : ∃ state, dispatcher.commands.find? (·.name = "volume") =
    some ⟨"volume", Command.volume, state⟩ ∧ Command.unmuted? state = unmuted

theorem remembers_standard : (standard : Dispatcher (Session σ)).Remembers none := by
  refine ⟨offers_standard, Command.newVolume none, ?_, rfl⟩
  rw [standard_eq]
  rfl

variable {dispatcher : Dispatcher (Session σ)} {unmuted : Option Nat} {line name : String}
  {tokens : List Token}

/-- A line for `volume` is carried out as by a new instance that remembers the same. -/
theorem Remembers.agree_volume (h : dispatcher.Remembers unmuted)
    (hline : Token.ofLine line = .word "volume" :: tokens) (session : Session σ) :
    Agree Remembers (dispatcher.dispatch line session)
      (Command.carryOutAnew line unmuted session) := by
  obtain ⟨state, hentry, rfl⟩ := h.volume
  obtain ⟨hanswer, hstate⟩ := dispatch_of_find? hline hentry session
  have hinstance := find?_dispatch hline hentry session "volume"
  dsimp only at hanswer hstate hinstance
  rw [Command.runLine_volume] at hanswer hstate hinstance
  rw [if_pos rfl] at hinstance
  unfold Command.carryOutAnew
  rw [hline]
  exact ⟨hanswer, ⟨h.offers.dispatch line session, _, hinstance, rfl⟩, hstate⟩

/-- A line for another command is carried out as by a new instance, and leaves `volume` alone. -/
theorem Remembers.agree_of_ne_volume (h : dispatcher.Remembers unmuted)
    (hline : Token.ofLine line = .word name :: tokens) (hname : name ≠ "volume")
    (session : Session σ) :
    Agree Remembers (dispatcher.dispatch line session)
      (Command.carryOutAnew line unmuted session) := by
  have hfind := h.offers.find? name
  cases hentry : dispatcher.commands.find? (·.name = name) with
  | none =>
    have hanew : Command.carryOutAnew line unmuted session =
        (.error (.notFound name), unmuted, session) := by
      rw [hentry, Option.map_none] at hfind
      rw [Command.carryOutAnew, hline]
      simp only [if_neg hname, hfind]
    rw [dispatch_of_find?_eq_none hline hentry, hanew]
    exact ⟨rfl, h, rfl⟩
  | some entry =>
    obtain ⟨hanswer, hstate⟩ := dispatch_of_find? hline hentry session
    rw [hentry, Option.map_some] at hfind
    obtain rfl : entry.name = name := by simpa using List.find?_some hentry
    have hforgetful := Command.forgetful_of_mem_builtin (List.mem_of_find?_eq_some hfind) hname
    have hanew : Command.carryOutAnew line unmuted session =
        ((entry.command.feedAll tokens entry.command.fresh session).1.mapError .command, unmuted,
          (entry.command.feedAll tokens entry.command.fresh session).2.2) := by
      rw [Command.carryOutAnew, hline]
      simp only [if_neg hname, hfind]
    -- the instance may have read any part of an earlier line
    rw [hforgetful] at hanswer hstate
    rw [hanew]
    refine ⟨hanswer, ⟨h.offers.dispatch line session, ?_⟩, hstate⟩
    have hinstance := find?_dispatch hline hentry session "volume"
    rw [if_neg (Ne.symm hname)] at hinstance
    rw [hinstance]
    exact h.volume

/-- Used commands and new ones agree on a line. -/
theorem Remembers.agree (h : dispatcher.Remembers unmuted) (line : String) (session : Session σ) :
    Agree Remembers (dispatcher.dispatch line session)
      (Command.carryOutAnew line unmuted session) := by
  cases hline : Token.ofLine line with
  | nil =>
    rw [dispatch, Command.carryOutAnew, hline]
    exact ⟨rfl, h, rfl⟩
  | cons first tokens =>
    cases first with
    | endOfLine | quoted _ | stray _ =>
      rw [dispatch, Command.carryOutAnew, hline]
      exact ⟨rfl, h, rfl⟩
    | word name =>
      by_cases hname : name = "volume"
      · subst hname
        exact h.agree_volume hline session
      · exact h.agree_of_ne_volume hline hname session

/-- Whatever earlier lines left behind in the instances, used commands and new ones agree on the
lines that follow. -/
theorem Remembers.agree_all (h : dispatcher.Remembers unmuted) (lines : List String)
    (session : Session σ) :
    Agree Remembers
      (carryOutAll (fun line dispatcher => dispatcher.dispatch line) lines dispatcher session)
      (carryOutAll Command.carryOutAnew lines unmuted session) :=
  agree_carryOutAll (fun line _ _ session h => h.agree line session) lines session h

/-- Lines that are carried out by commands which are used again and again come to the same as lines
of which each has a new command: they have the same results, leave the same session, and the
playback service is asked the same. Both draw from the chance of the session, whatever it draws. -/
theorem used_commands_are_as_new (σ : Type) [Service σ] :
    (∀ (lines : List String) (session : Session σ),
      let used := carryOutAll (fun line dispatcher => dispatcher.dispatch line) lines
        Dispatcher.standard session
      let new := carryOutAll Command.carryOutAnew lines none session
      used.1 = new.1 ∧ used.2.2 = new.2.2) ∧
    ∀ (lines : List String) (session : Session (Observed σ)),
      let used := carryOutAll (fun line dispatcher => dispatcher.dispatch line) lines
        Dispatcher.standard session
      let new := carryOutAll Command.carryOutAnew lines none session
      used.2.2.player.map (·.calls) = new.2.2.player.map (·.calls) := by
  constructor
  · intro lines session
    obtain ⟨hanswers, -, hstate⟩ := remembers_standard.agree_all lines session
    exact ⟨hanswers, hstate⟩
  · intro lines session
    obtain ⟨-, -, hstate⟩ := remembers_standard.agree_all lines session
    exact congrArg (·.player.map (·.calls)) hstate

end Dispatcher

end Jukebox
