import Jukebox.Proofs.Act
import Jukebox.Proofs.Assignment
import Jukebox.Proofs.Dispatch

/-
# The commands of the client are orderly

Each command in turn: what it asks of the playback service it asks before it changes anything, and
what it changes it changes without fail. Only `set` changes several things, one for each assignment,
by steps that could fail one by one; there it is the reading that rules a failure out.
-/

namespace Jukebox.Command

open Act

variable {σ : Type} [Service σ]

/-! ### Commands that configure -/

theorem orderly_modify {f : Session σ → Session σ} (session : Session σ)
    (h : ∀ session, (f session).player = session.player) :
    Act.Orderly id (modify f) session := (settles_modify h).orderly

theorem orderly_assign : (assign : Command (Session σ)).Orderly := by
  refine orderly_simple_of_readLine fun session words assigned hread => Settles.orderly ?_
  have hdone := assignAll_of_readLine hread
  refine ⟨⟨(), ?_⟩, rfl⟩
  change (assignAll assigned session.settings).1.mapError CommandError.setting = .ok ()
  rw [hdone]
  rfl

theorem orderly_restyle : (restyle : Command (Session σ)).Orderly :=
  orderly_simple fun _ _ => orderly_modify _ fun _ => rfl

theorem orderly_bindKeys : (bindKeys : Command (Session σ)).Orderly :=
  orderly_simple fun _ _ => orderly_modify _ fun _ => rfl

theorem orderly_unbindKeys : (unbindKeys : Command (Session σ)).Orderly := by
  refine orderly_simple fun session keys => orderly_get_bind ?_
  exact orderly_unless (settles_set (by rfl)).orderly

/-! ### Commands that play -/

theorem orderly_request (action : String) {exchange : Exchange σ Unit} (h : exchange.Asks)
    (session : Session σ) : Act.Orderly id (Session.request action exchange) session :=
  (asks_request action h session).orderly

theorem orderly_playSongs (songs : List Song) (session : Session σ) :
    Act.Orderly id (playSongs songs) session := by
  refine orderly_get_bind ?_
  split
  · split
    · exact orderly_request _ (Exchange.asks_ask (.playId _)) session
    · exact orderly_throw _
  · split
    · exact orderly_request _ (Exchange.asks_playAdded _) session
    · exact orderly_throw _

theorem orderly_play : (play : Command (Session σ)).Orderly := by
  apply orderly_simple
  intro session songs
  split
  · exact orderly_request _ (Exchange.asks_ask (.play none)) session
  · exact orderly_playSongs songs session

theorem orderly_transport (action : String) {exchange : Exchange σ Unit} (h : exchange.Asks) :
    (transport action exchange).Orderly :=
  orderly_simple fun session _ => orderly_request action h session

theorem orderly_seek : (seek : Command (Session σ)).Orderly :=
  orderly_simple fun session target => orderly_request _ (Exchange.asks_ask (.seek target)) session

theorem orderly_changeVolume (change : VolumeChange) (memory : Option Nat) (session : Session σ) :
    Act.Orderly Prod.snd (changeVolume change) (memory, session) := by
  unfold changeVolume
  have hstatus : Act.Asks Prod.snd
      (besideMemory (Session.request "set volume" (Service.ask .status))) (memory, session) :=
    (asks_request "set volume" (Exchange.asks_ask .status) session).besideMemory
  refine hstatus.bind_orderly ?_
  rintro status ⟨unmuted, seen⟩
  dsimp only
  split
  · exact orderly_throw _
  · refine orderly_get_bind (orderly_ofExcept_bind fun volume => ?_)
    refine (asks_request _ (Exchange.asks_ask (.setVolume volume)) seen).besideMemory.bind_orderly ?_
    intro _ next
    split
    · exact Settles.orderly (settles_modify fun _ => rfl)
    · exact (settles_pure _).orderly

theorem orderly_volume : (volume : Command (Session σ)).Orderly :=
  orderly_ofReader fun session _ change _ memory => orderly_changeVolume change memory session

/-! ### Commands that move about -/

theorem orderly_cursor : (cursor : Command (Session σ)).Orderly := by
  refine orderly_simple fun session motion => orderly_get_bind ?_
  split
  · exact orderly_modify _ fun _ => rfl
  · exact orderly_throw _

theorem orderly_select : (select : Command (Session σ)).Orderly :=
  orderly_simple fun _ _ => orderly_modify _ fun _ => rfl

theorem orderly_list : (list : Command (Session σ)).Orderly :=
  orderly_simple fun _ _ => orderly_get_bind <| orderly_ofExcept_bind fun _ =>
    orderly_modify _ fun _ => rfl

theorem orderly_inputMode : (inputMode : Command (Session σ)).Orderly :=
  orderly_simple fun _ _ => orderly_modify _ fun _ => rfl

theorem orderly_redraw : (redraw : Command (Session σ)).Orderly :=
  orderly_simple fun _ _ => orderly_modify _ fun _ => rfl

theorem orderly_quit : (quit : Command (Session σ)).Orderly :=
  orderly_simple fun _ _ => orderly_modify _ fun _ => rfl

/-! ### Commands that arrange songs -/

theorem orderly_sort : (sort : Command (Session σ)).Orderly := by
  refine orderly_simple fun session named => orderly_get_bind ?_
  have hsort (tags : List String) : Act.Orderly id
      (modify fun session : Session σ => session.modifyShown (·.sortByTags tags)) session :=
    orderly_modify _ fun _ => rfl
  dsimp only
  split
  · exact orderly_ofExcept_bind fun tags => orderly_unless (hsort tags)
  · exact orderly_unless (hsort named)

theorem orderly_isolate : (isolate : Command (Session σ)).Orderly := by
  refine orderly_simple fun session tags => orderly_get_bind <| orderly_ofExcept_bind fun order => ?_
  split
  · exact orderly_throw _
  · exact orderly_unless (orderly_modify _ fun _ => rfl)

theorem orderly_print : (print : Command (Session σ)).Orderly := by
  refine orderly_simple fun session tags => orderly_get_bind ?_
  split
  · exact orderly_throw _
  · exact (settles_inform _ session).orderly

/-! ### Commands that move songs -/

theorem orderly_add : (add : Command (Session σ)).Orderly := by
  refine orderly_simple fun session named => orderly_get_bind <| orderly_unless ?_
  exact (asks_request _ (Exchange.asks_addAll _ none) session).bind_orderly fun _ next =>
    (settles_inform _ next).orderly

omit [Service σ] in
theorem settles_modify_inform {f : Session σ → Session σ} (text : String) (session : Session σ)
    (h : ∀ session, (f session).player = session.player) :
    Settles id (do modify f; Session.inform text) session :=
  (settles_modify h).bind fun _ next => settles_inform text next

omit [Service σ] in
theorem settles_takeOut (rows : List Nat) (session : Session σ) :
    Settles id (takeOut rows) session := by
  refine settles_get_bind ?_
  split
  exact settles_modify_inform _ session fun _ => rfl

theorem orderly_cut : (cut : Command (Session σ)).Orderly := by
  refine orderly_simple fun session _ => orderly_get_bind <| orderly_unless ?_
  split
  · exact orderly_throw_bind _ _
  · exact (asks_request _ (Exchange.asks_deleteAll _) session).bind_orderly fun _ next =>
      (settles_takeOut _ next).orderly
  · exact (settles_takeOut _ session).orderly
  · exact (settles_takeOut _ session).orderly

theorem orderly_yank : (yank : Command (Session σ)).Orderly := by
  refine orderly_simple fun session _ => orderly_get_bind <| orderly_unless ?_
  exact Settles.orderly (settles_modify_inform _ session fun _ => rfl)

theorem orderly_paste : (paste : Command (Session σ)).Orderly := by
  refine orderly_simple fun session after => orderly_get_bind <| orderly_unless ?_
  dsimp only
  split
  · exact orderly_throw_bind _ _
  · exact (asks_request _ (Exchange.asks_addAll _ _) session).bind_orderly fun _ next =>
      (settles_inform _ next).orderly
  · exact Settles.orderly (settles_modify_inform _ session fun _ => rfl)
  · exact Settles.orderly (settles_modify_inform _ session fun _ => rfl)

/-- All of them. -/
theorem orderly_of_mem_builtin {name : String} {command : Command (Session σ)}
    (h : (name, command) ∈ builtin) : command.Orderly := by
  simp only [builtin, List.mem_cons, Prod.mk.injEq, List.not_mem_nil, or_false] at h
  rcases h with ⟨-, rfl⟩ | ⟨-, rfl⟩ | ⟨-, rfl⟩ | ⟨-, rfl⟩ | ⟨-, rfl⟩ | ⟨-, rfl⟩ | ⟨-, rfl⟩ | ⟨-, rfl⟩ |
    ⟨-, rfl⟩ | ⟨-, rfl⟩ | ⟨-, rfl⟩ | ⟨-, rfl⟩ | ⟨-, rfl⟩ | ⟨-, rfl⟩ | ⟨-, rfl⟩ | ⟨-, rfl⟩ | ⟨-, rfl⟩ |
    ⟨-, rfl⟩ | ⟨-, rfl⟩ | ⟨-, rfl⟩ | ⟨-, rfl⟩ | ⟨-, rfl⟩ | ⟨-, rfl⟩ | ⟨-, rfl⟩
  · exact orderly_assign
  · exact orderly_restyle
  · exact orderly_bindKeys
  · exact orderly_unbindKeys
  · exact orderly_play
  · exact orderly_transport _ Exchange.asks_togglePause
  · exact orderly_transport _ (Exchange.asks_ask .stop)
  · exact orderly_transport _ (Exchange.asks_ask .next)
  · exact orderly_transport _ (Exchange.asks_ask .previous)
  · exact orderly_volume
  · exact orderly_seek
  · exact orderly_cursor
  · exact orderly_inputMode
  · exact orderly_list
  · exact orderly_sort
  · exact orderly_add
  · exact orderly_select
  · exact orderly_cut
  · exact orderly_yank
  · exact orderly_paste
  · exact orderly_isolate
  · exact orderly_print
  · exact orderly_redraw
  · exact orderly_quit

end Jukebox.Command
