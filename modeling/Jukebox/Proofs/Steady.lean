import Jukebox.Proofs.Twins

/-
# The commands of the client do not tell twins apart

Each command in turn does the same in twin sessions and leaves twins behind. Most of them have nothing
to show but the parts of which they are made. `unbind` writes a whole session, not only what it
changes in the one it finds; there the sessions have to be compared themselves.
-/

namespace Jukebox

open Act
open Session (Twins)

variable {ω σ : Type} {U : Ui → Ui → Prop} {quiet : Prop}

namespace Command

/-! ### Readers that look at nothing but the line -/

theorem plain_sequenceWord : (sequenceWord : Reader (Session σ) (List Key)).Plain := by
  intro s t
  funext keys token
  cases keys <;> rfl

theorem plain_motionWords : (motionWords : Reader (Session σ) Motion).Plain := by
  intro s t
  funext words token
  cases words <;> cases token <;> rfl

theorem plain_selectingWords : (selectingWords : Reader (Session σ) Selecting).Plain := by
  intro s t
  funext selecting token
  rcases selecting with _ | ⟨_ | _ | _⟩ <;> cases token <;> rfl

/-! ### Commands that configure -/

/-- The values of assignments are checked against the settings, which twins share. -/
theorem steady_assign : (assign : Command (Session σ)).Steady (Twins U quiet) := by
  apply steady_simple_of_read
  · intro s t h
    funext assigned token
    simp only [assignments, h.settings]
  · intro assigned s t h
    have hsettings : assignAll assigned t.settings = assignAll assigned s.settings := by
      rw [h.settings]
    constructor
    · exact congrArg (fun outcome => outcome.1.mapError CommandError.setting) hsettings
    · exact { h with settings := congrArg Prod.snd hsettings }

theorem steady_restyle : (restyle : Command (Session σ)).Steady (Twins U quiet) :=
  steady_simple (fun _ _ => rfl) fun (name, style) => steady_modify fun _ _ h =>
    { h with styles := congrArg (·.set name style) h.styles }

theorem steady_bindKeys : (bindKeys : Command (Session σ)).Steady (Twins U quiet) :=
  steady_simple (fun _ _ => rfl) fun (keys, line) => steady_modify fun _ _ h =>
    { h with keymap := congrArg (·.insert keys line) h.keymap }

theorem steady_unbindKeys : (unbindKeys : Command (Session σ)).Steady (Twins U quiet) := by
  refine steady_simple plain_sequenceWord fun keys s t h => ?_
  rw [run_run_get_bind, run_run_get_bind, h.keymap]
  split
  · exact ⟨rfl, h⟩
  · exact ⟨rfl, { h with keymap := rfl }⟩

/-! ### Commands that play -/

section Service

variable [Service σ]

theorem steady_playSongs (songs : List Song) :
    Act.Steady (Twins U quiet) (playSongs songs : Act (Session σ) Unit) := by
  apply steady_get_bind
  · intro s t h
    rw [h.browser]
  · intro s t h
    split
    · split
      · exact steady_request _ _
      · exact steady_throw _
    · split
      · exact steady_request _ _
      · exact steady_throw _

/-- The songs are taken from the list on screen while the line is read. -/
theorem steady_play : (play : Command (Session σ)).Steady (Twins U quiet) := by
  apply steady_simple_of_read
  · intro s t h
    funext songs token
    simp only [songsToPlay, h.browser]
  · intro songs
    split
    · exact steady_request _ _
    · exact steady_playSongs songs

omit [Service σ] in
theorem steady_transport (action : String) (exchange : Exchange σ Unit) :
    (transport action exchange).Steady (Twins U quiet) :=
  steady_simple Reader.plain_nothing fun _ => steady_request action exchange

theorem steady_seek : (seek : Command (Session σ)).Steady (Twins U quiet) :=
  steady_simple (Reader.plain_oneWord _ _) fun _ => steady_request _ _

/-- Twins remember the same volume. -/
theorem steady_changeVolume (change : VolumeChange) :
    Act.Steady (Abreast (Twins U quiet))
      (changeVolume change : Act (Option Nat × Session σ) Unit) := by
  apply (steady_request _ _).besideMemory.bind
  intro status
  dsimp only
  split
  · exact steady_throw _
  · apply steady_get_bind
    · intro s t h
      rw [h.answer]
    · intro s t h
      apply steady_ofExcept_bind
      intro volume _
      apply (steady_request _ _).besideMemory.bind
      intro _
      split
      · exact steady_modify fun _ _ h => ⟨rfl, h.state⟩
      · exact steady_pure _

theorem steady_volume : (volume : Command (Session σ)).Steady (Twins U quiet) :=
  steady_ofReader (fun s t _ => Reader.plain_oneWord _ _ s t) steady_changeVolume

end Service

/-! ### Commands that move about -/

theorem steady_cursor : (cursor : Command (Session σ)).Steady (Twins U quiet) := by
  refine steady_simple plain_motionWords fun motion => ?_
  apply steady_get_bind
  · intro s t h
    rw [h.browser, h.chance]
  · intro s t h
    split
    · exact steady_modify fun _ _ h => { h.modifyShown _ with chance := by rw [h.chance, h.browser] }
    · exact steady_throw _

theorem steady_select : (select : Command (Session σ)).Steady (Twins U quiet) :=
  steady_simple plain_selectingWords fun _ => steady_modifyShown _

theorem steady_list : (list : Command (Session σ)).Steady (Twins U quiet) := by
  refine steady_simple (Reader.plain_oneWord _ _) fun target => ?_
  apply steady_get_bind
  · intro s t h
    rw [h.browser]
  · intro s t h
    refine steady_ofExcept_bind fun browser happly => steady_modify fun _ _ hnext => ?_
    have hsearch : quiet → browser.search = none := fun hquiet =>
      ListTarget.search_apply (h.search hquiet) happly
    exact { hnext with browser := rfl, search := hsearch }

section Screen

variable (hU : Ui.Steady U)

include hU

theorem steady_inputMode : (inputMode : Command (Session σ)).Steady (Twins U quiet) :=
  steady_simple (Reader.plain_oneWord _ _) fun mode => steady_modifyUi fun _ _ h => hU.setMode h mode

theorem steady_redraw : (redraw : Command (Session σ)).Steady (Twins U quiet) :=
  steady_simple Reader.plain_nothing fun _ => steady_modifyUi fun _ _ h => hU.redraw h

theorem steady_quit : (quit : Command (Session σ)).Steady (Twins U quiet) :=
  steady_simple Reader.plain_nothing fun _ => steady_modifyUi fun _ _ h => hU.quitting h

theorem steady_inform (text : String) :
    Act.Steady (Twins U quiet) (Session.inform text : Act (Session σ) Unit) :=
  steady_modifyUi fun _ _ h => hU.setInfo h text

end Screen

/-! ### Commands that arrange songs -/

theorem steady_sort : (sort : Command (Session σ)).Steady (Twins U quiet) := by
  refine steady_simple (Reader.plain_texts _) fun named => ?_
  apply steady_get_bind
  · intro s t h
    simp only [usualOrder, h.settings, h.browser]
  · intro s t h
    dsimp only
    split
    · exact steady_ofExcept_bind fun _ _ => steady_unless (steady_modifyShown _)
    · exact steady_unless (steady_modifyShown _)

theorem steady_isolate : (isolate : Command (Session σ)).Steady (Twins U quiet) := by
  refine steady_simple Reader.plain_someTags fun tags => ?_
  apply steady_get_bind
  · intro s t h
    simp only [usualOrder, h.settings, h.browser]
  · intro s t h
    refine steady_ofExcept_bind fun order _ => ?_
    split
    · exact steady_throw _
    · exact steady_unless (steady_modifyBrowser fun _ _ => rfl)

variable (hU : Ui.Steady U)

include hU

theorem steady_print : (print : Command (Session σ)).Steady (Twins U quiet) := by
  refine steady_simple Reader.plain_someTags fun tags => ?_
  apply steady_get_bind
  · intro s t h
    rw [h.browser]
  · intro s t h
    split
    · exact steady_throw _
    · exact steady_inform hU _

/-! ### Commands that move songs -/

theorem steady_takeOut (rows : List Nat) :
    Act.Steady (Twins U quiet) (takeOut rows : Act (Session σ) Unit) := by
  apply steady_get_bind
  · intro s t h
    rw [h.browser]
  · intro s t h
    split
    next removed list _ =>
    have htaken : Act.Steady (Twins U quiet) (modify (·.modifyBrowser fun b =>
        { b.modifyShown fun _ => list with clipboard := removed }) : Act (Session σ) PUnit) :=
      steady_modifyBrowser fun _ hsearch => Browser.search_modifyShown hsearch _
    exact htaken.bind fun _ => steady_inform hU _

theorem steady_yank : (yank : Command (Session σ)).Steady (Twins U quiet) := by
  refine steady_simple Reader.plain_nothing fun _ => ?_
  apply steady_get_bind
  · intro s t h
    rw [h.browser]
  · intro s t h
    have hcopied (songs : List Song) : Act.Steady (Twins U quiet) (modify (·.modifyBrowser fun b =>
        { b with clipboard := songs }.modifyShown (·.clearSelection)) : Act (Session σ) PUnit) := by
      apply steady_modifyBrowser
      intro b hsearch
      apply Browser.search_modifyShown
      exact hsearch
    exact steady_unless ((hcopied _).bind fun _ => steady_inform hU _)

variable [Service σ]

theorem steady_add : (add : Command (Session σ)).Steady (Twins U quiet) := by
  refine steady_simple (Reader.plain_texts _) fun named => ?_
  apply steady_get_bind
  · intro s t h
    rw [h.browser]
  · intro s t h
    exact steady_unless ((steady_request _ _).bind fun _ => steady_inform hU _)

theorem steady_cut : (cut : Command (Session σ)).Steady (Twins U quiet) := by
  refine steady_simple Reader.plain_nothing fun _ => ?_
  apply steady_get_bind
  · intro s t h
    rw [h.browser]
  · intro s t h
    apply steady_unless
    split
    · exact (steady_throw _).bind fun _ => steady_takeOut hU _
    · exact (steady_request _ _).bind fun _ => steady_takeOut hU _
    · exact steady_takeOut hU _
    · exact steady_takeOut hU _

theorem steady_paste : (paste : Command (Session σ)).Steady (Twins U quiet) := by
  refine steady_simple (Reader.plain_optionalWord _) fun after => ?_
  apply steady_get_bind
  · intro s t h
    rw [h.browser]
  · intro s t h
    apply steady_unless
    dsimp only
    split
    · exact (steady_throw _).bind fun _ => steady_inform hU _
    · exact (steady_request _ _).bind fun _ => steady_inform hU _
    · exact (steady_modifyShown _).bind fun _ => steady_inform hU _
    · exact (steady_modifyShown _).bind fun _ => steady_inform hU _

/-- All of them. -/
theorem steady_of_mem_builtin {name : String} {command : Command (Session σ)}
    (h : (name, command) ∈ builtin) : command.Steady (Twins U quiet) := by
  simp only [builtin, List.mem_cons, Prod.mk.injEq, List.not_mem_nil, or_false] at h
  rcases h with ⟨-, rfl⟩ | ⟨-, rfl⟩ | ⟨-, rfl⟩ | ⟨-, rfl⟩ | ⟨-, rfl⟩ | ⟨-, rfl⟩ | ⟨-, rfl⟩ | ⟨-, rfl⟩ |
    ⟨-, rfl⟩ | ⟨-, rfl⟩ | ⟨-, rfl⟩ | ⟨-, rfl⟩ | ⟨-, rfl⟩ | ⟨-, rfl⟩ | ⟨-, rfl⟩ | ⟨-, rfl⟩ | ⟨-, rfl⟩ |
    ⟨-, rfl⟩ | ⟨-, rfl⟩ | ⟨-, rfl⟩ | ⟨-, rfl⟩ | ⟨-, rfl⟩ | ⟨-, rfl⟩ | ⟨-, rfl⟩
  · exact steady_assign
  · exact steady_restyle
  · exact steady_bindKeys
  · exact steady_unbindKeys
  · exact steady_play
  · exact steady_transport _ _
  · exact steady_transport _ _
  · exact steady_transport _ _
  · exact steady_transport _ _
  · exact steady_volume
  · exact steady_seek
  · exact steady_cursor
  · exact steady_inputMode hU
  · exact steady_list
  · exact steady_sort
  · exact steady_add hU
  · exact steady_select
  · exact steady_cut hU
  · exact steady_yank hU
  · exact steady_paste hU
  · exact steady_isolate
  · exact steady_print hU
  · exact steady_redraw hU
  · exact steady_quit hU

end Command

end Jukebox
