import Jukebox.Playback.Rehearsal
import Jukebox.Wire.Client

/-
# Opening and closing connections

A network is where connections come from: dialing an address gives a service that is ready for
requests, or says why there is none, and a service that is no longer needed is hung up on. The
scripted network knows beforehand what the servers will send; it keeps what was sent to each of them,
in the order in which they were dialed.
-/

namespace Jukebox

/-- Places of type `ω` from which services of type `σ` can be reached. -/
class Network (ω : Type) (σ : outParam Type) where
  /-- Opens a connection; the text is the version of the server. -/
  dial : Wire.ServerAddress → ω → Except PlaybackError (String × σ) × ω
  /-- Closes a connection. -/
  hangUp : σ → ω → ω

namespace Wire

/-- A client that knows the number of its connection. -/
structure Link where
  number : Nat
  client : Client
deriving DecidableEq, Repr

instance : Service Link where
  answer request link :=
    let (result, client) := Service.answer request link.client
    (result, { link with client })

/-- Servers whose streams are known. -/
structure ScriptedNetwork where
  /-- The streams of the servers that have not been dialed. `none` if nobody listens; otherwise the
  servers after the last stream send nothing. -/
  servers : Option (List (List UInt8)) := none
  /-- How many connections were opened. -/
  dialed : Nat := 0
  /-- The connections that were closed, with their numbers. -/
  closed : List (Nat × Connection) := []
deriving DecidableEq, Repr

namespace ScriptedNetwork

/-- Keeps a connection that was closed. -/
def keep (network : ScriptedNetwork) (number : Nat) (connection : Connection) : ScriptedNetwork :=
  { network with closed := network.closed ++ [(number, connection)] }

/-- What was sent on each connection, in the order of dialing. -/
def transcripts (network : ScriptedNetwork) : List (List String) :=
  (List.range network.dialed).map fun number =>
    ((network.closed.lookup number).map Connection.sentLines).getD []

instance : Network ScriptedNetwork Link where
  dial address network :=
    match network.servers with
    | none => (.error refused, network)
    | some servers =>
      let number := network.dialed
      let network := { network with servers := some servers.tail, dialed := number + 1 }
      match Client.start address.password { unread := servers.head?.getD [] } with
      | .ok client => (.ok (client.version, { number, client }), network)
      | .error (error, connection) => (.error error, network.keep number connection)
  hangUp link network := network.keep link.number link.client.close

end ScriptedNetwork

end Wire

/-- A network beside which rehearsals take place. -/
structure Backstage (ω : Type) where
  network : ω
  /-- The notes of rehearsals that have ended, the last one first. -/
  notes : List String := []

/-- A rehearsal can take the place of a connection until one is opened. -/
instance {ω σ : Type} [Network ω σ] : Network (Backstage ω) (Rehearsal ⊕ σ) where
  dial address backstage :=
    let (result, network) := Network.dial address backstage.network
    (result.map fun (version, service) => (version, .inr service), { backstage with network })
  hangUp
    | .inl rehearsal, backstage => { backstage with notes := rehearsal.notes ++ backstage.notes }
    | .inr service, backstage =>
      { backstage with network := Network.hangUp service backstage.network }

end Jukebox
