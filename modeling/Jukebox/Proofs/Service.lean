import Mathlib.Logic.Relation
import Jukebox.Command.Playing
import Jukebox.Playback.Batch
import Jukebox.Proofs.Outcome

/-
# What exchanges do to a service

An exchange has no other way to change a service than to ask it for something. So whatever comes of
an exchange, the service has gone from state to state by answering requests; what every answer keeps
is kept by every exchange.
-/

namespace Jukebox

variable {σ α β : Type} [Service σ]

namespace Service

/-- A service comes from one state to the next by the answer to a request. -/
def Answers (s t : σ) : Prop := ∃ request, (answer request s).2 = t

/-- A service comes from one state to another by answers to any number of requests. -/
def Later : σ → σ → Prop := Relation.ReflTransGen Answers

theorem later_refl (s : σ) : Later s s := Relation.ReflTransGen.refl

theorem Later.trans {s t u : σ} (hfirst : Later s t) (hsecond : Later t u) : Later s u :=
  Relation.ReflTransGen.trans hfirst hsecond

theorem later_answer (request : Request) (s : σ) : Later s (answer request s).2 :=
  Relation.ReflTransGen.single ⟨request, rfl⟩

/-- What every answer keeps is kept from then on. -/
theorem Later.keeps {P : σ → Prop} (hanswer : ∀ request s, P s → P (answer request s).2) {s t : σ}
    (h : Later s t) (hs : P s) : P t := by
  induction h with
  | refl => exact hs
  | tail _ hstep ih =>
    obtain ⟨request, rfl⟩ := hstep
    exact hanswer request _ ih

end Service

open Service

namespace Exchange

/-- An exchange whose effect on the service is that of the requests in it. -/
def Asks (exchange : Exchange σ α) : Prop := ∀ s, Later s (exchange.run.run s).2

theorem asks_pure (a : α) : Asks (pure a : Exchange σ α) := fun s => later_refl s

theorem asks_throw (error : PlaybackError) : Asks (throw error : Exchange σ α) :=
  fun s => later_refl s

theorem asks_ask (request : Request) : Asks (ask request : Exchange σ request.Reply) :=
  fun s => later_answer request s

theorem asks_bind {first : Exchange σ α} {second : α → Exchange σ β} (hfirst : Asks first)
    (hsecond : ∀ a, Asks (second a)) : Asks (first >>= second) := by
  intro s
  have hbefore := hfirst s
  rw [run_run_bind]
  generalize first.run.run s = outcome at hbefore ⊢
  rcases outcome with ⟨error | a, t⟩
  · exact hbefore
  · exact hbefore.trans (hsecond a t)

theorem asks_tryCatch {first : Exchange σ α} {handler : PlaybackError → Exchange σ α}
    (hfirst : Asks first) (hhandler : ∀ error, Asks (handler error)) :
    Asks (tryCatch first handler) := by
  intro s
  have hbefore := hfirst s
  rw [run_run_tryCatch]
  generalize first.run.run s = outcome at hbefore ⊢
  rcases outcome with ⟨error | a, t⟩
  · exact hbefore.trans (hhandler error t)
  · exact hbefore

theorem asks_forM {exchange : β → Exchange σ PUnit} (h : ∀ b, Asks (exchange b)) (items : List β) :
    Asks (items.forM exchange) := by
  induction items with
  | nil => exact asks_pure _
  | cons item items ih => exact asks_bind (h item) fun _ => ih

theorem asks_attempt (request : Request) : Asks (attempt request : Exchange σ Unit) := by
  refine asks_tryCatch ?_ fun _ => asks_pure ()
  exact asks_bind (asks_ask request) fun _ => asks_pure _

theorem asks_enqueue (uri : String) (position : Option Nat) :
    Asks (enqueue uri position : Exchange σ Nat) := by
  cases position with
  | none => exact asks_ask (.add uri)
  | some position => exact asks_ask (.insert uri position)

theorem asks_addFrom (added : List Nat) (position : Option Nat) (uris : List String) :
    Asks (addFrom added position uris : Exchange σ (List Nat)) := by
  induction uris generalizing added position with
  | nil => exact asks_pure added
  | cons uri uris ih =>
    refine asks_bind (asks_tryCatch (asks_enqueue uri position) fun error => ?_)
      fun id => ih (added ++ [id]) (position.map (· + 1))
    exact asks_bind (asks_forM (fun id => asks_attempt (.delete id)) added)
      fun _ => asks_throw error

theorem asks_addAll (uris : List String) (position : Option Nat) :
    Asks (addAll uris position : Exchange σ (List Nat)) := asks_addFrom [] position uris

theorem asks_deleteFrom (deleted entries : List QueueEntry) :
    Asks (deleteFrom deleted entries : Exchange σ Unit) := by
  induction entries generalizing deleted with
  | nil => exact asks_pure ()
  | cons entry entries ih =>
    refine asks_bind (asks_tryCatch (asks_ask (.delete entry.id)) fun error => ?_)
      fun _ => ih (deleted ++ [entry])
    exact asks_bind
      (asks_forM (fun entry : QueueEntry => asks_attempt (.insert entry.file entry.position)) deleted)
      fun _ => asks_throw error

theorem asks_deleteAll (songs : List Song) : Asks (deleteAll songs : Exchange σ Unit) := by
  unfold deleteAll
  split
  · exact asks_deleteFrom [] _
  · exact asks_throw _

theorem asks_playAdded (files : List String) :
    Asks (Command.playAdded files : Exchange σ Unit) := by
  apply asks_bind (asks_addAll files none)
  intro ids
  cases ids with
  | nil => exact asks_pure ()
  | cons id _ => exact asks_ask (.playId id)

theorem asks_togglePause : Asks (Command.togglePause : Exchange σ Unit) :=
  asks_bind (asks_ask .status) fun _ => asks_ask (.pause _)

end Exchange

end Jukebox
