import Jukebox.Controller.Keys
import Jukebox.Proofs.Builtin

/-
# What commands cannot tell apart

A command looks at the settings, the styles, the key bindings and the song lists, hears from the
playback service, and may leave something to chance. At the rest of the screen it never looks; it only
writes there, and it writes the same whatever it finds. So two sessions that differ in no more than that
and draw alike are twins: a command line comes to the same in both and leaves twins behind. That a session is its own twin may say something of
it as well, which then is true for good: so it is with what is said of a live search, which no command
begins.
-/

namespace Jukebox

universe u v

variable {ω σ α β μ : Type}

/-- Two outcomes with the same answer and with related states. -/
structure Abreast {α : Type u} {ω : Type v} (R : ω → ω → Prop) (first second : α × ω) : Prop where
  answer : second.1 = first.1
  state : R first.2 second.2

theorem Abreast.exists_eq {α : Type u} {ω : Type v} {R : ω → ω → Prop} {first second : α × ω}
    (h : Abreast R first second) {a : α} {s : ω} (hfirst : first = (a, s)) :
    ∃ t, second = (a, t) ∧ R s t := by
  subst hfirst
  exact ⟨second.2, Prod.ext h.answer rfl, h.state⟩

section Parts

variable {R : ω → ω → Prop}

namespace Act

/-- From related states the action gives the same answer and leads to related states. -/
def Steady (R : ω → ω → Prop) (act : Act ω α) : Prop :=
  ∀ s t, R s t → Abreast R (act.run.run s) (act.run.run t)

theorem steady_pure (a : α) : Steady R (pure a : Act ω α) := fun _ _ h => ⟨rfl, h⟩

theorem steady_throw (error : CommandError) : Steady R (throw error : Act ω α) :=
  fun _ _ h => ⟨rfl, h⟩

theorem steady_modify {f : ω → ω} (h : ∀ s t, R s t → R (f s) (f t)) :
    Steady R (modify f : Act ω PUnit) := fun s t hst => ⟨rfl, h s t hst⟩

theorem Steady.bind {first : Act ω α} {second : α → Act ω β} (hfirst : Steady R first)
    (hsecond : ∀ a, Steady R (second a)) : Steady R (first >>= second) := by
  intro s t h
  rcases hours : first.run.run s with ⟨answer, s'⟩
  obtain ⟨t', htheirs, hstate⟩ := (hfirst s t h).exists_eq hours
  rw [run_run_bind, run_run_bind, hours, htheirs]
  cases answer with
  | error error => exact ⟨rfl, hstate⟩
  | ok a => exact hsecond a s' t' hstate

/-- An action may look at what related states have in common. -/
theorem steady_get_bind {second : ω → Act ω β} (hsame : ∀ s t, R s t → second t = second s)
    (h : ∀ s t, R s t → Steady R (second s)) : Steady R (get >>= second) := by
  intro s t hst
  rw [run_run_get_bind, run_run_get_bind, hsame s t hst]
  exact h s t hst s t hst

/-- An action may first complain about the state it finds. -/
theorem steady_unless {condition : Prop} [Decidable condition] {error : CommandError}
    {second : α → Act ω β} {act : Act ω β} (h : Steady R act) :
    Steady R (if condition then throw error >>= second else act) := by
  split
  · exact fun _ _ hst => ⟨rfl, hst⟩
  · exact h

/-- A part whose result is known already may be left out. -/
theorem steady_ofExcept_bind {result : Except CommandError α} {second : α → Act ω β}
    (h : ∀ a, result = .ok a → Steady R (second a)) :
    Steady R (MonadExcept.ofExcept result >>= second) := by
  cases result with
  | error error => exact steady_throw error
  | ok a => exact h a rfl

theorem Steady.besideMemory {act : Act ω α} (h : Steady R act) :
    Steady (Abreast R) (Command.besideMemory (μ := μ) act) := by
  rintro ⟨memory, s⟩ ⟨_, t⟩ ⟨hmemory, hst⟩
  cases hmemory
  obtain ⟨hanswer, hstate⟩ := h s t hst
  exact ⟨hanswer, rfl, hstate⟩

end Act

namespace Reader

/-- The reader looks at nothing but the line. -/
def Plain (reader : Reader ω α) : Prop := ∀ s t, reader.read t = reader.read s

theorem plain_nothing : (nothing : Reader ω Unit).Plain := fun _ _ => rfl

theorem plain_optionalWord (parse : Token → Except CommandError α) :
    (optionalWord parse : Reader ω (Option α)).Plain := by
  intro s t
  funext word token
  cases word with
  | none => cases token <;> rfl
  | some _ => rfl

theorem plain_oneWord (expected : String) (parse : Token → Except CommandError α) :
    (oneWord expected parse : Reader ω α).Plain := plain_optionalWord parse

theorem plain_texts (expected : String) : (texts expected : Reader ω (List String)).Plain := by
  intro s t
  funext texts token
  cases token <;> rfl

theorem plain_someTags : (someTags : Reader ω (List String)).Plain := plain_texts "a tag name"

end Reader

namespace Command

/-- From related states the command takes in the same words in the same way and leads to related
states. -/
structure Steady (R : ω → ω → Prop) (command : Command ω) : Prop where
  reset : ∀ state s t, R s t → Abreast R (command.reset state s) (command.reset state t)
  feed : ∀ token state s t, R s t →
    Abreast (Abreast R) (command.feed token state s) (command.feed token state t)

theorem Steady.feedAll {command : Command ω} (h : command.Steady R) (tokens : List Token)
    (state : command.State) {s t : ω} (hst : R s t) :
    Abreast (Abreast R) (command.feedAll tokens state s) (command.feedAll tokens state t) := by
  induction tokens generalizing state s t with
  | nil => exact ⟨rfl, rfl, hst⟩
  | cons token tokens ih =>
    rcases hours : command.feed token state s with ⟨answer, state', s'⟩
    obtain ⟨⟨_, t'⟩, htheirs, hstate, hnext⟩ := (h.feed token state s t hst).exists_eq hours
    cases hstate
    rw [feedAll_cons, feedAll_cons, hours, htheirs]
    cases answer with
    | error error => exact ⟨rfl, rfl, hnext⟩
    | ok _ => exact ih state' hnext

theorem Steady.runLine {command : Command ω} (h : command.Steady R) (tokens : List Token)
    (state : command.State) {s t : ω} (hst : R s t) :
    Abreast (Abreast R) (command.runLine tokens state s) (command.runLine tokens state t) := by
  rcases hours : command.reset state s with ⟨state', s'⟩
  obtain ⟨t', htheirs, hstate⟩ := (h.reset state s t hst).exists_eq hours
  unfold Command.runLine
  rw [hours, htheirs]
  exact h.feedAll tokens state' hstate

/-- It is enough that related states read alike and that the action is steady. -/
theorem steady_ofReader {reader : Reader ω α} {memory : μ} {act : α → Act (μ × ω) Unit}
    (hread : ∀ s t, R s t → reader.read t = reader.read s)
    (hact : ∀ value, Act.Steady (Abreast R) (act value)) :
    (ofReader reader memory act).Steady R where
  reset _ _ _ h := ⟨rfl, h⟩
  feed token (state : Remembered reader.State μ) s t h := by
    by_cases htoken : token = .endOfLine
    · subst htoken
      rw [feed_ofReader_endOfLine, feed_ofReader_endOfLine]
      cases reader.result state.arguments with
      | error error => exact ⟨rfl, rfl, h⟩
      | ok value =>
        obtain ⟨hanswer, hmemory, hstate⟩ := hact value (state.memory, s) (state.memory, t) ⟨rfl, h⟩
        exact ⟨hanswer, congrArg (Remembered.mk state.arguments) hmemory, hstate⟩
    · rw [feed_ofReader_of_ne htoken, feed_ofReader_of_ne htoken, hread s t h]
      cases reader.read s state.arguments token with
      | error error => exact ⟨rfl, rfl, h⟩
      | ok arguments => exact ⟨rfl, rfl, h⟩

theorem steady_simple_of_read {reader : Reader ω α} {act : α → Act ω Unit}
    (hread : ∀ s t, R s t → reader.read t = reader.read s)
    (hact : ∀ value, Act.Steady R (act value)) : (simple reader act).Steady R :=
  steady_ofReader hread fun value => (hact value).besideMemory

end Command

namespace Dispatcher

/-- A name stands for the same command in related states, and the command does the same. -/
theorem abreast_runNamed? {entries : List (RegisteredCommand ω)}
    (hentries : ∀ entry ∈ entries, entry.command.Steady R) (name : String) (tokens : List Token)
    {s t : ω} (hst : R s t) :
    Option.Rel (Abreast (Abreast R)) (runNamed? name tokens s entries)
      (runNamed? name tokens t entries) := by
  induction entries with
  | nil => exact .none
  | cons entry entries ih =>
    unfold runNamed?
    split
    · obtain ⟨hanswer, hstate, hworld⟩ :=
        (hentries entry List.mem_cons_self).runLine tokens entry.state hst
      refine .some ⟨hanswer, ?_, hworld⟩
      exact congrArg (fun state => { entry with state } :: entries) hstate
    · have hrest := ih fun other hother => hentries other (List.mem_cons_of_mem _ hother)
      generalize runNamed? name tokens s entries = ours, runNamed? name tokens t entries = theirs
        at hrest ⊢
      cases hrest with
      | none => exact .none
      | some h => exact .some ⟨h.answer, congrArg (entry :: ·) h.state.answer, h.state.state⟩

/-- A line comes to the same in related states. -/
theorem abreast_dispatch {dispatcher : Dispatcher ω}
    (hcommands : ∀ entry ∈ dispatcher.commands, entry.command.Steady R) (line : String) {s t : ω}
    (hst : R s t) :
    Abreast (Abreast R) (dispatcher.dispatch line s) (dispatcher.dispatch line t) := by
  unfold dispatch
  split
  · exact ⟨rfl, rfl, hst⟩
  · exact ⟨rfl, rfl, hst⟩
  · next name tokens _ =>
    have hrun := abreast_runNamed? hcommands name tokens hst
    generalize runNamed? name tokens s dispatcher.commands = ours,
      runNamed? name tokens t dispatcher.commands = theirs at hrun ⊢
    cases hrun with
    | none => exact ⟨rfl, rfl, hst⟩
    | some h =>
      exact ⟨congrArg (Except.mapError DispatchError.command) h.answer,
        congrArg Dispatcher.mk h.state.answer, h.state.state⟩
  · exact ⟨rfl, rfl, hst⟩

end Dispatcher

end Parts

/-- A relation that goes on to hold whatever commands, or complaints about them, write on the
screen. -/
structure Ui.Steady (U : Ui → Ui → Prop) : Prop where
  setMode : ∀ {u v}, U u v → ∀ mode, U (u.setMode mode) (v.setMode mode)
  setInfo : ∀ {u v}, U u v → ∀ text, U (u.setInfo text) (v.setInfo text)
  setError : ∀ {u v}, U u v → ∀ text, U (u.setError text) (v.setError text)
  redraw : ∀ {u v}, U u v → U { u with redraw := true } { v with redraw := true }
  quitting : ∀ {u v}, U u v → U { u with quitting := true } { v with quitting := true }

/-- Two sessions that differ only in the rest of the screen, where they are related. In quiet ones
there is no live search. -/
structure Session.Twins (U : Ui → Ui → Prop) (quiet : Prop) (s t : Session σ) : Prop where
  settings : t.settings = s.settings
  styles : t.styles = s.styles
  keymap : t.keymap = s.keymap
  browser : t.browser = s.browser
  player : t.player = s.player
  chance : t.chance = s.chance
  ui : U s.ui t.ui
  search : quiet → s.browser.search = none

namespace Browser

@[simp]
theorem search_modifyShown {b : Browser} (h : b.search = none) (f : Songlist → Songlist) :
    (b.modifyShown f).search = none := by
  unfold modifyShown
  rw [h]

theorem search_select? {b b' : Browser} {index : Nat} (h : b.select? index = some b') :
    b'.search = none := by
  unfold select? at h
  split at h
  · rw [← Option.some.inj h]
  · cases h

theorem search_select {b : Browser} (h : b.search = none) (index : Nat) :
    (b.select index).search = none := by
  unfold select
  cases hselect : b.select? index with
  | none => exact h
  | some b' => exact search_select? hselect

theorem search_remove? {b b' : Browser} (h : b.search = none) (hremove : b.remove? = some b') :
    b'.search = none := by
  unfold remove? at hremove
  split at hremove
  · rw [← Option.some.inj hremove]
  · split at hremove <;> cases hremove <;> exact h

end Browser

namespace Session

variable {U : Ui → Ui → Prop} {quiet : Prop} {s t : Session σ}

/-- The songs and what is done with them are the same for twins. -/
theorem Twins.modifyBrowser (h : Twins U quiet s t) {f : Browser → Browser}
    (hf : ∀ b, b.search = none → (f b).search = none) :
    Twins U quiet (s.modifyBrowser f) (t.modifyBrowser f) :=
  { h with browser := congrArg f h.browser, search := fun hquiet => hf _ (h.search hquiet) }

theorem Twins.modifyShown (h : Twins U quiet s t) (f : Songlist → Songlist) :
    Twins U quiet (s.modifyShown f) (t.modifyShown f) :=
  h.modifyBrowser fun _ hsearch => Browser.search_modifyShown hsearch f

end Session

namespace Command

open Act
open Session (Twins)

/-- Where there is no search none is begun by going to another list. -/
theorem ListTarget.search_apply {target : ListTarget} {b b' : Browser} (h : b.search = none)
    (happly : target.apply b = .ok b') : b'.search = none := by
  cases target with
  | next | previous =>
    cases happly
    exact b.search_select h _
  | duplicate =>
    cases happly
    rfl
  | number n =>
    simp only [ListTarget.apply] at happly
    split at happly
    · next hselect =>
      cases happly
      split at hselect
      · exact Browser.search_select? hselect
      · cases hselect
    · cases happly
  | remove =>
    simp only [ListTarget.apply] at happly
    split at happly
    · next hremove =>
      cases happly
      exact Browser.search_remove? h hremove
    · cases happly

variable {U : Ui → Ui → Prop} {quiet : Prop}

theorem steady_modifyBrowser {f : Browser → Browser}
    (hf : ∀ b, b.search = none → (f b).search = none) :
    Act.Steady (Twins U quiet) (modify (·.modifyBrowser f) : Act (Session σ) PUnit) :=
  steady_modify fun _ _ h => h.modifyBrowser hf

theorem steady_modifyShown (f : Songlist → Songlist) :
    Act.Steady (Twins U quiet) (modify (·.modifyShown f) : Act (Session σ) PUnit) :=
  steady_modify fun _ _ h => h.modifyShown f

theorem steady_modifyUi {f : Ui → Ui} (hf : ∀ u v, U u v → U (f u) (f v)) :
    Act.Steady (Twins U quiet) (modify (·.modifyUi f) : Act (Session σ) PUnit) :=
  steady_modify fun _ _ h => { h with ui := hf _ _ h.ui }

theorem steady_request (action : String) (exchange : Exchange σ α) :
    Act.Steady (Twins U quiet) (Session.request action exchange) := by
  intro s t h
  have hcall : t.player.call exchange = s.player.call exchange := by rw [h.player]
  constructor
  · exact congrArg (fun outcome => outcome.1.mapError (CommandError.ofPlayback action)) hcall
  · exact { h with player := congrArg Prod.snd hcall }

theorem steady_simple {reader : Reader (Session σ) α} {act : α → Act (Session σ) Unit}
    (hread : reader.Plain) (hact : ∀ value, Act.Steady (Twins U quiet) (act value)) :
    (simple reader act).Steady (Twins U quiet) :=
  steady_simple_of_read (fun s t _ => hread s t) hact

end Command

end Jukebox
