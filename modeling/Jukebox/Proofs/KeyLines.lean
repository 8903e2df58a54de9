import Jukebox.Proofs.Run
import Jukebox.Proofs.Steady

/-
# The command lines of keys

A key is handled in two parts. It is taken in first, which may put it on hold, let go of what is held,
or change the line that is typed; then the command lines run that it amounts to, in order. Keys that
expire are handled in the same way. What the lines do is not a matter of the keys on hold or of the
message: on controllers that differ in these alone they do the same.
-/

namespace Jukebox

/-- The command line that a key amounts to, if it is to run one. -/
def Resolution.line? : Resolution → Option String
  | dispatch line => some line
  | pending | unbound => none

/-- Unless keys run commands nothing is typed yet. -/
def Ui.Blank (ui : Ui) : Prop := ui.mode ≠ .normal → ui.input = ""

/-- Two screens that differ in the message and in the keys on hold, which are these. -/
def Ui.Apart (first second : String) (u v : Ui) : Prop :=
  u.heldKeys = first ∧ ∃ message, v = { u with message, heldKeys := second }

namespace Ui

theorem steady_apart (first second : String) : Steady (Apart first second) where
  setMode := by
    rintro u _ ⟨hfirst, message, rfl⟩ mode
    exact ⟨hfirst, message, rfl⟩
  setInfo := by
    rintro u _ ⟨hfirst, message, rfl⟩ text
    exact ⟨hfirst, some (.info text), rfl⟩
  setError := by
    rintro u _ ⟨hfirst, message, rfl⟩ text
    exact ⟨hfirst, some (.error text), rfl⟩
  redraw := by
    rintro u _ ⟨hfirst, message, rfl⟩
    exact ⟨hfirst, message, rfl⟩
  quitting := by
    rintro u _ ⟨hfirst, message, rfl⟩
    exact ⟨hfirst, message, rfl⟩

/-- To change the mode is to begin a line anew. -/
theorem steady_blank : Steady fun u v => v = u ∧ u.Blank where
  setMode := by
    rintro u _ ⟨rfl, -⟩ mode
    exact ⟨rfl, fun _ => rfl⟩
  setInfo := by
    rintro u _ ⟨rfl, hblank⟩ text
    exact ⟨rfl, hblank⟩
  setError := by
    rintro u _ ⟨rfl, hblank⟩ text
    exact ⟨rfl, hblank⟩
  redraw := by
    rintro u _ ⟨rfl, hblank⟩
    exact ⟨rfl, hblank⟩
  quitting := by
    rintro u _ ⟨rfl, hblank⟩
    exact ⟨rfl, hblank⟩

end Ui

/-- Nothing is typed yet, and nothing is searched for. -/
structure Session.Calm {σ : Type} (session : Session σ) : Prop where
  blank : session.ui.Blank
  search : session.browser.search = none

variable {ω σ : Type} [Service σ] {U : Ui → Ui → Prop} {quiet : Prop}

theorem Dispatcher.Offers.steady (hU : Ui.Steady U) {dispatcher : Dispatcher (Session σ)}
    (hoffers : dispatcher.Offers Command.builtin) :
    ∀ entry ∈ dispatcher.commands, entry.command.Steady (Session.Twins U quiet) := by
  intro entry hentry
  apply Command.steady_of_mem_builtin hU
  rw [← hoffers]
  exact List.mem_map_of_mem hentry

omit [Service σ] in
/-- A session in which nothing is typed yet is its own twin. -/
theorem Session.twins_self {session : Session σ} (hblank : session.ui.Blank)
    (hsearch : quiet → session.browser.search = none) :
    session.Twins (fun u v => v = u ∧ u.Blank) quiet session :=
  ⟨rfl, rfl, rfl, rfl, rfl, rfl, ⟨rfl, hblank⟩, hsearch⟩

/-- No command line types, and none begins a search. -/
theorem Session.Calm.dispatch {session : Session σ} (h : session.Calm)
    {dispatcher : Dispatcher (Session σ)} (hoffers : dispatcher.Offers Command.builtin)
    (line : String) : (dispatcher.dispatch line session).2.2.Calm := by
  have hself : session.Twins (fun u v => v = u ∧ u.Blank) True session :=
    Session.twins_self h.blank fun _ => h.search
  have hafter := Dispatcher.abreast_dispatch (hoffers.steady Ui.steady_blank) line hself
  exact ⟨hafter.state.state.ui.2, hafter.state.state.search trivial⟩

namespace Controller

/-- Carries out command lines in order. -/
def runLines (c : Controller ω σ) (lines : List String) : Controller ω σ := lines.foldl runLine c

/-- Takes keys on hold, or lets go of them, and shows them. -/
def hold (c : Controller ω σ) (resolver : Resolver) : Controller ω σ :=
  { c with resolver }.showHeldKeys

/-- The command lines that keys on hold stand for once they are held too long. -/
def expiredLines (c : Controller ω σ) (now : Nat) : List String :=
  (c.resolver.expire c.session.keymap now).1.toList

/-- The command lines that a report of the keyboard amounts to. -/
def keyLines (c : Controller ω σ) (event : KeyEvent) (now : Nat) : List String :=
  if event.motion ≠ .press then []
  else match c.session.ui.mode with
    | .normal =>
      if event.code = .escape ∧ c.resolver.held.isSome then []
      else (c.resolver.press c.session.keymap (Key.ofEvent event) now).1.filterMap Resolution.line?
    | .input =>
      match LineEdit.ofKey c.session.ui.input event with
      | .submit line => [line]
      | .cancel | .change _ | .ignore => []
    | .search => []

/-- Takes in a report of the keyboard without running anything. -/
def takeIn (c : Controller ω σ) (event : KeyEvent) (now : Nat) : Controller ω σ :=
  if event.motion ≠ .press then c
  else match c.session.ui.mode with
    | .normal =>
      let cleared := c.modifyUi (·.clearMessage)
      if event.code = .escape ∧ c.resolver.held.isSome then cleared.hold c.resolver.cancel
      else cleared.hold (c.resolver.press c.session.keymap (Key.ofEvent event) now).2
    | .input =>
      match LineEdit.ofKey c.session.ui.input event with
      | .submit _ | .cancel => c.modifyUi (·.setMode .normal)
      | .change line => c.modifyUi ({ · with input := line })
      | .ignore => c
    | .search => c.searchKey event

section Lines

omit [Service σ]

/-- While keys run commands, a key is resolved after the keys on hold that expired. -/
theorem key_of_press {c : Controller ω σ} {event : KeyEvent} {now : Nat} {line : Option String}
    {resolver : Resolver} (hmode : c.session.ui.mode = .normal) (hmotion : event.motion = .press)
    (hcancel : ¬ (event.code = .escape ∧ c.resolver.held.isSome))
    (hexpire : c.resolver.expire c.session.keymap now = (line, resolver)) :
    c.keyLines event now = line.toList ++
        (resolver.extend c.session.keymap (Key.ofEvent event) now).1.line?.toList ∧
      c.takeIn event now = (c.modifyUi (·.clearMessage)).hold
        (resolver.extend c.session.keymap (Key.ofEvent event) now).2 := by
  unfold keyLines takeIn Resolver.press
  simp only [hmode, hmotion, hexpire, ne_eq, not_true_eq_false, if_false, if_neg hcancel, and_true]
  have hline : (line.toList.map Resolution.dispatch).filterMap Resolution.line? = line.toList := by
    cases line <;> rfl
  rw [List.filterMap_append, hline]
  cases (resolver.extend c.session.keymap (Key.ofEvent event) now).1 <;> rfl

/-- The escape key lets go of them. -/
theorem key_of_cancel {c : Controller ω σ} {event : KeyEvent} (hmode : c.session.ui.mode = .normal)
    (hmotion : event.motion = .press)
    (hcancel : event.code = .escape ∧ c.resolver.held.isSome) (now : Nat) :
    c.keyLines event now = [] ∧
      c.takeIn event now = (c.modifyUi (·.clearMessage)).hold c.resolver.cancel := by
  unfold keyLines takeIn
  simp only [hmode, hmotion, ne_eq, not_true_eq_false, if_false, if_pos hcancel, and_self]

theorem foldl_resolve (c : Controller ω σ) (resolutions : List Resolution) :
    resolutions.foldl resolve c = c.runLines (resolutions.filterMap Resolution.line?) := by
  induction resolutions generalizing c with
  | nil => rfl
  | cons resolution resolutions ih =>
    rw [List.foldl_cons, ih]
    cases resolution <;> rfl

/-- A key is taken in, and then its command lines run. -/
theorem handleKey_eq (c : Controller ω σ) (event : KeyEvent) (now : Nat) :
    c.handleKey event now = (c.takeIn event now).runLines (c.keyLines event now) := by
  unfold handleKey takeIn keyLines
  split
  · rfl
  · cases c.session.ui.mode with
    | normal =>
      have hnormal : c.normalKey event now =
          if event.code = .escape ∧ c.resolver.held.isSome then
            (c.modifyUi (·.clearMessage)).hold c.resolver.cancel
          else (c.modifyUi (·.clearMessage)).pressKey (Key.ofEvent event) now := rfl
      dsimp only
      rw [hnormal]
      split
      · rfl
      · exact foldl_resolve _ _
    | input =>
      dsimp only [inputKey]
      cases LineEdit.ofKey c.session.ui.input event <;> rfl
    | search => rfl

/-- Keys that are held too long are let go of, and then their command line runs. -/
theorem expireKeys_eq (c : Controller ω σ) (now : Nat) :
    c.expireKeys now =
      (c.hold (c.resolver.expire c.session.keymap now).2).runLines (c.expiredLines now) := by
  unfold expireKeys expiredLines
  rcases c.resolver.expire c.session.keymap now with ⟨_ | line, resolver⟩ <;> rfl

theorem resolver_runLine (c : Controller ω σ) (line : String) :
    (c.runLine line).resolver = c.resolver := by
  unfold runLine
  rcases c.dispatcher.dispatch line c.session with ⟨_ | _, _, _⟩ <;> rfl

/-- Command lines have no hold of the keys that are typed. -/
theorem resolver_runLines (c : Controller ω σ) (lines : List String) :
    (c.runLines lines).resolver = c.resolver := by
  induction lines generalizing c with
  | nil => rfl
  | cons line lines ih => exact (ih _).trans (c.resolver_runLine line)

theorem runLines_append (c : Controller ω σ) (first second : List String) :
    c.runLines (first ++ second) = (c.runLines first).runLines second :=
  List.foldl_append

end Lines

/-- Two controllers that differ in the keys on hold, and in what commands cannot tell apart. -/
structure Twins (U : Ui → Ui → Prop) (quiet : Prop) (c d : Controller ω σ) : Prop where
  session : c.session.Twins U quiet d.session
  rest : d = { c with session := d.session, resolver := d.resolver }

/-- A command line comes to the same for twins. -/
theorem Twins.runLine {c d : Controller ω σ} (h : c.Twins U quiet d) (hU : Ui.Steady U)
    (hoffers : c.dispatcher.Offers Command.builtin) (line : String) :
    (c.runLine line).Twins U quiet (d.runLine line) := by
  obtain ⟨theirs, resolver, rfl⟩ : ∃ theirs resolver, d = { c with session := theirs, resolver } :=
    ⟨_, _, h.rest⟩
  rcases hours : c.dispatcher.dispatch line c.session with ⟨answer, dispatcher, s⟩
  obtain ⟨⟨_, t⟩, htheirs, hcommands, hsession⟩ :=
    (Dispatcher.abreast_dispatch (hoffers.steady hU) line h.session).exists_eq hours
  cases hcommands
  unfold Controller.runLine
  dsimp only at htheirs ⊢
  rw [hours, htheirs]
  cases answer with
  | ok _ => exact ⟨hsession, rfl⟩
  | error error => exact ⟨{ hsession with ui := hU.setError hsession.ui error.message }, rfl⟩

theorem offers_runLines {c : Controller ω σ} (hoffers : c.dispatcher.Offers Command.builtin)
    (lines : List String) : (c.runLines lines).dispatcher.Offers Command.builtin := by
  induction lines generalizing c with
  | nil => exact hoffers
  | cons line lines ih => exact ih ((led_runLine hoffers line).offers hoffers)

/-- So do any number of them. -/
theorem Twins.runLines {c d : Controller ω σ} (h : c.Twins U quiet d) (hU : Ui.Steady U)
    (hoffers : c.dispatcher.Offers Command.builtin) (lines : List String) :
    (c.runLines lines).Twins U quiet (d.runLines lines) := by
  induction lines generalizing c d with
  | nil => exact h
  | cons line lines ih =>
    exact ih (h.runLine hU hoffers line) ((led_runLine hoffers line).offers hoffers)

/-- After a command line that changes the input mode nothing is typed yet. -/
theorem blank_runLines {c : Controller ω σ} (hoffers : c.dispatcher.Offers Command.builtin)
    (hblank : c.session.ui.Blank) (lines : List String) : (c.runLines lines).session.ui.Blank := by
  have hself : c.Twins (fun u v => v = u ∧ u.Blank) False c :=
    ⟨Session.twins_self hblank False.elim, rfl⟩
  exact (hself.runLines Ui.steady_blank hoffers lines).session.ui.2

end Controller

end Jukebox
