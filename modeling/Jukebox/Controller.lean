import Jukebox.Dispatcher
import Jukebox.Key.Sequence
import Jukebox.Keymap.Resolver
import Jukebox.Session
import Jukebox.Wire.Network
import Jukebox.Wire.Watcher

/-
# The controller

The controller turns what happens into changes of the session: command lines, the passing of time,
news from the server. It opens the connection to the server, loads what is shown, and drops the
connection when it proves to be broken, so that a later tick opens a new one. Times are in
milliseconds; what needs a clock is given its reading.
-/

namespace Jukebox

/-- A session with what keeps it going. -/
structure Controller (ω σ : Type) where
  session : Session σ
  dispatcher : Dispatcher (Session σ)
  resolver : Resolver
  network : ω
  server : Wire.ServerAddress
  /-- Whether somebody watches for news of the server. -/
  watching : Bool := false
  /-- When a connection was last tried to open. -/
  lastAttempt : Option Nat := none
  /-- When a tick last asked for the status. -/
  lastRefresh : Nat := 0
  /-- Whether a command line ended the program. What a controller would do after that does not
  matter, for nobody asks it any more. -/
  crashed : Bool := false

namespace Controller

open Wire

variable {ω σ : Type}

/-- How long to wait between two attempts to connect. -/
def reconnectInterval : Nat := 5000

/-- How long to wait between two requests for the status. -/
def statusInterval : Nat := 1000

/-- Changes what is on screen besides songs. -/
def modifyUi (c : Controller ω σ) (f : Ui → Ui) : Controller ω σ :=
  { c with session := c.session.modifyUi f }

/-- Changes the song lists. -/
def modifyBrowser (c : Controller ω σ) (f : Browser → Browser) : Controller ω σ :=
  { c with session := c.session.modifyBrowser f }

/-- Carries out a command line and shows why it failed. -/
def runLine (c : Controller ω σ) (line : String) : Controller ω σ :=
  let (result, dispatcher, session) := c.dispatcher.dispatch line c.session
  let c := { c with dispatcher, session }
  match result with
  | .ok () => c
  | .error error =>
    { c with crashed := c.crashed || error.endsProgram }.modifyUi (·.setError error.message)

/-- Shows the keys on hold. -/
def showHeldKeys (c : Controller ω σ) : Controller ω σ :=
  c.modifyUi ({ · with heldKeys := Key.displaySequence c.resolver.keys })

/-- Carries out what the keys on hold stand for, if they were held too long. -/
def expireKeys (c : Controller ω σ) (now : Nat) : Controller ω σ :=
  let (line, resolver) := c.resolver.expire c.session.keymap now
  let c := { c with resolver }.showHeldKeys
  match line with
  | some line => c.runLine line
  | none => c

section Connection

variable [Network ω σ]

/-- Closes the connection, if there is one. -/
def disconnect (c : Controller ω σ) : Controller ω σ :=
  match c.session.player with
  | none => c
  | some service =>
    { c with
      session := { c.session with player := none }
      network := Network.hangUp service c.network }

/-- Reports that something could not be loaded. A broken connection is dropped; to have none is
nothing to report. -/
def reportFailure (c : Controller ω σ) (what : String) (error : PlaybackError) :
    Controller ω σ :=
  let c := if error.isBroken then { c.disconnect with watching := false } else c
  if error = .notConnected then c
  else c.modifyUi (·.setError ("Cannot load " ++ what ++ ": " ++ error.message))

variable [Service σ]

/-- Has an exchange with the service, and uses its result or reports its failure. -/
def load {α : Type} (c : Controller ω σ) (what : String) (exchange : Exchange σ α)
    (use : α → Controller ω σ → Controller ω σ) : Controller ω σ :=
  let (result, player) := c.session.player.call exchange
  let c := { c with session := { c.session with player } }
  match result with
  | .ok value => use value c
  | .error error => c.reportFailure what error

/-- Asks for the status and the song that plays. -/
def nowPlaying : Exchange σ (Status × Option Song) := do
  let (status : Status) ← Service.ask .status
  let (song : Option Song) ← Service.ask .currentSong
  return (status, song)

/-- Loads the status and the song that plays. -/
def refreshStatus (c : Controller ω σ) : Controller ω σ :=
  c.load "status" nowPlaying fun (status, song) c =>
    (c.modifyBrowser ({ · with currentSong := song })).modifyUi ({ · with status })

/-- Loads the queue. -/
def refreshQueue (c : Controller ω σ) : Controller ω σ :=
  c.load "queue" (Service.ask .queue) fun songs c => c.modifyBrowser (·.replace .queue songs)

/-- Loads the library. -/
def refreshLibrary (c : Controller ω σ) : Controller ω σ :=
  c.load "library" (Service.ask .library) fun songs c =>
    c.modifyBrowser (·.replace .library songs)

/-- Reacts to news from the server. -/
def handleNews (c : Controller ω σ) : News → Controller ω σ
  | .player => c.refreshStatus
  | .queue => c.refreshQueue.refreshStatus
  | .library => c.refreshLibrary
  | .disconnected reason =>
    { c with watching := false }.disconnect.modifyUi
      (·.setError ("Disconnected from MPD: " ++ reason))

/-- Puts a service in the place of the one there was. -/
def attach (c : Controller ω σ) (service : σ) : Controller ω σ :=
  let c := c.disconnect
  { c with session := { c.session with player := some service }, watching := true }

/-- Opens a connection and loads all that is shown. `clock` is the time of the attempt. If it fails,
all stays as it is. -/
def connect (c : Controller ω σ) (clock : Nat) : Controller ω σ :=
  let (result, network) := Network.dial c.server c.network
  let c := { c with network, lastAttempt := some clock }
  match result with
  | .error error =>
    c.modifyUi (·.setError
      ("Cannot connect to MPD at " ++ c.server.display ++ ": " ++ error.message))
  | .ok (version, service) =>
    let c := (c.attach service).modifyUi
      (·.setInfo ("Connected to MPD " ++ version ++ " at " ++ c.server.display))
    c.refreshStatus.refreshQueue.refreshLibrary

/-- Whether it is time for an attempt to connect. -/
def isAttemptDue (c : Controller ω σ) (now : Nat) : Bool :=
  match c.lastAttempt with
  | some last => reconnectInterval ≤ now - last
  | none => true

/-- What is done from time to time: keys held too long are resolved; without a connection one is
tried to open, and with one the status is loaded, each when it is time for it. An attempt to connect
reads the clock anew. -/
def tick (c : Controller ω σ) (now clock : Nat) : Controller ω σ :=
  let c := c.expireKeys now
  if c.session.player.isNone then
    if c.isAttemptDue now then c.connect clock else c
  else if statusInterval ≤ now - c.lastRefresh then
    { c with lastRefresh := now }.refreshStatus
  else c

/-- Ends watching and closes the connection. -/
def shutdown (c : Controller ω σ) : Controller ω σ :=
  { c with watching := false }.disconnect

end Connection

end Controller

end Jukebox
