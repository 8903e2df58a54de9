import Jukebox.Song

/-
# The playback service

Playing is done elsewhere: by a service that answers one request at a time. A request is a value, and
its type says what a good answer to it holds. A service is a type of states with a function that
answers a request and moves to the next state; it may refuse, or the connection to it may break.
What a client does in several requests is an exchange, which stops at the first failure unless it
says otherwise.
-/

namespace Jukebox

/-- Why a request has no good answer. -/
inductive PlaybackError where
  | notConnected
  /-- The service refuses; this is what it says. -/
  | rejected (message : String)
  /-- The connection is broken. -/
  | lost (reason : String)
  /-- The answer makes no sense. -/
  | unexpected (text : String)
deriving DecidableEq, Repr

/-- The error as it is shown. -/
def PlaybackError.message : PlaybackError → String
  | notConnected => "not connected to MPD"
  | rejected message => message
  | lost reason => "connection to MPD lost: " ++ reason
  | unexpected text => "unexpected response from MPD: " ++ text

/-- Whether after this error nothing is known about what the service will say next. -/
def PlaybackError.isBroken : PlaybackError → Bool
  | lost _ | unexpected _ => true
  | notConnected | rejected _ => false

/-- What the player is doing. -/
inductive PlayState where
  | play | pause | stop
deriving DecidableEq, Repr, Inhabited

/-- What the service says about its player. -/
structure Status where
  state : PlayState := .stop
  /-- The volume, if the service can change it. -/
  volume : Option Nat := none
  songId : Option Nat := none
  elapsed : Option Float := none
  duration : Option Float := none
  repeating : Bool := false
  random : Bool := false
  single : Bool := false
  consume : Bool := false

/-- A place in the song that plays. -/
inductive SeekTarget where
  | absolute (seconds : Nat)
  | relative (seconds : Int)
deriving DecidableEq, Repr

/-- What can be asked of a playback service. -/
inductive Request where
  /-- Play from a place in the queue, or from where the player is. -/
  | play (position : Option Nat)
  | playId (id : Nat)
  /-- Put a song at the end of the queue. -/
  | add (uri : String)
  /-- Put a song into the queue before what is at a place. -/
  | insert (uri : String) (position : Nat)
  | delete (id : Nat)
  | pause (paused : Bool)
  | stop | next | previous
  | setVolume (volume : Nat)
  | seek (target : SeekTarget)
  | status | currentSong | queue | library
deriving DecidableEq, Repr

/-- What a good answer holds. -/
def Request.Reply : Request → Type
  | .add _ | .insert _ _ => Nat
  | .status => Status
  | .currentSong => Option Song
  | .queue | .library => List Song
  | _ => Unit

/-- States that answer requests. -/
class Service (σ : Type) where
  answer : (request : Request) → σ → Except PlaybackError request.Reply × σ

/-- Several requests to one service, up to the first that fails. -/
abbrev Exchange (σ : Type) := ExceptT PlaybackError (StateM σ)

/-- The exchange of a single request. -/
def Service.ask {σ : Type} [Service σ] (request : Request) : Exchange σ request.Reply :=
  ExceptT.mk (Service.answer request)

/-- Of two sorts of services one is in use. -/
instance {σ τ : Type} [Service σ] [Service τ] : Service (σ ⊕ τ) where
  answer request
    | .inl s => let (result, s) := Service.answer request s; (result, .inl s)
    | .inr t => let (result, t) := Service.answer request t; (result, .inr t)

/-- A service, or none while there is no connection. -/
abbrev Player (σ : Type) := Option σ

namespace Player

variable {σ α : Type}

/-- Carries out an exchange with the service, if there is one. -/
def call (exchange : Exchange σ α) : Player σ → Except PlaybackError α × Player σ
  | none => (.error .notConnected, none)
  | some service =>
    let (result, service) := exchange.run.run service
    (result, some service)

@[simp] theorem call_none (exchange : Exchange σ α) :
    call exchange none = (.error .notConnected, none) := rfl

theorem call_some (exchange : Exchange σ α) (service : σ) :
    call exchange (some service) =
      ((exchange.run.run service).1, some (exchange.run.run service).2) := rfl

end Player

end Jukebox
