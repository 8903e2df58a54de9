import Jukebox.Command
import Jukebox.Playback.Batch
import Jukebox.Session

/-
# Commands that play

`play`, `pause`, `stop`, `next` and `previous`, `seek` and `volume`. Each says what it is asked in
requests to the playback service and changes nothing else. Only `volume` remembers something: the
volume to go back to after muting.
-/

namespace Jukebox.Command

open Session (request)

variable {σ : Type} [Service σ]

/-- Reads which songs to play. The songs are taken from the list at the word that names them; words
without a meaning are passed over. No songs are named by a line without such a word. -/
def songsToPlay : Reader (Session σ) (List Song) where
  State := List Song
  start := []
  read session songs
    | .word text =>
      let named (songs : List Song) : Except CommandError (List Song) :=
        if songs.isEmpty then .error (.failed "Cannot play: no song under cursor") else .ok songs
      if text = "cursor" then named session.browser.cursorSong?.toList
      else if text = "selection" then named session.browser.shown.selectedSongs
      else .ok songs
    | token => .error (.unexpected token "END")
  result songs := .ok songs

/-- Adds songs to the queue and plays the first of them. -/
def playAdded (files : List String) : Exchange σ Unit := do
  match ← addAll files none with
  | id :: _ => Service.ask (.playId id)
  | [] => pure ()

/-- Plays songs. In the queue the first of them is played where it is; from other lists they are
added to the queue first. -/
def playSongs (songs : List Song) : Act (Session σ) Unit := do
  let session ← get
  if session.browser.isQueue then
    match songs.head? >>= Song.id with
    | some id => request "play" (Service.ask (.playId id))
    | none => throw (.failed "Cannot play: song is not in the queue")
  else
    match songs.mapM Song.file? with
    | some files => request "play" (playAdded files)
    | none => throw (.failed "Cannot play: song has no file")

/-- Plays songs, or goes on playing where the player is. -/
def play : Command (Session σ) :=
  simple songsToPlay fun songs =>
    if songs.isEmpty then request "play" (Service.ask (.play none)) else playSongs songs

/-- Pauses if a song plays, and else plays. -/
def togglePause : Exchange σ Unit := do
  let (status : Status) ← Service.ask .status
  Service.ask (.pause (status.state == .play))

/-- A command without arguments that has an exchange with the playback service. -/
def transport (action : String) (exchange : Exchange σ Unit) : Command (Session σ) :=
  simple .nothing fun () => request action exchange

/-- Pauses, or goes on. -/
def pause : Command (Session σ) := transport "pause" togglePause

/-- Stops. -/
def stop : Command (Session σ) := transport "stop" (Service.ask .stop)

/-- Goes on to the next song. -/
def next : Command (Session σ) := transport "switch to next song" (Service.ask .next)

/-- Goes back to the previous song. -/
def previous : Command (Session σ) := transport "switch to previous song" (Service.ask .previous)

/-- The place that a number of seconds means, with a sign from where the player is. -/
def seekTarget (token : Token) : Except CommandError SeekTarget :=
  match token.toInt? with
  | some n =>
    if token.isRelative then .ok (.relative n)
    else if 0 ≤ n ∧ n ≤ (Text.maxWord : Int) then .ok (.absolute n.toNat)
    else .error (.argument ("Position out of range: " ++ toString n))
  | none => .error (.unexpected token "a position in seconds")

/-- Moves within the song. -/
def seek : Command (Session σ) :=
  simple (.oneWord "a position in seconds" seekTarget) fun target =>
    request "seek" (Service.ask (.seek target))

/-- What to do with the volume. -/
inductive VolumeChange where
  | absolute (volume : Int)
  | relative (amount : Int)
  | toggleMute
deriving DecidableEq, Repr

/-- The change that a word means. -/
def volumeChange (token : Token) : Except CommandError VolumeChange :=
  if token.text = "mute" then .ok .toggleMute
  else match token.toInt? with
    | some n => .ok (if token.isRelative then .relative n else .absolute n)
    | none => .error (.unexpected token "a volume")

/-- The volume nearest to a number, between nothing and everything. -/
def clampVolume (n : Int) : Nat := (max 0 (min n 100)).toNat

/-- The sum of a volume and an amount. There is none if it does not fit a signed 64-bit word. -/
def addAmount? (current : Nat) (amount : Int) : Option Int :=
  let sum := (current : Int) + amount
  if -9223372036854775808 ≤ sum ∧ sum ≤ 9223372036854775807 then some sum else none

/-- The volume after a change. A sum has to fit a word, and to undo a muting there has to be a volume
to go back to. -/
def VolumeChange.target (change : VolumeChange) (current : Nat) (unmuted : Option Nat) :
    Except CommandError Nat :=
  match change with
  | absolute n => .ok (clampVolume n)
  | relative n =>
    match addAmount? current n with
    | some sum => .ok (clampVolume sum)
    | none => .error .overflow
  | toggleMute =>
    if 0 < current then .ok 0
    else match unmuted with
      | some volume => .ok volume
      | none => .error (.failed "Cannot unmute: no previous volume")

/-- Changes the volume. What was audible before a muting is remembered until the muting is
undone. -/
def changeVolume (change : VolumeChange) : Act (Option Nat × Session σ) Unit := do
  let (status : Status) ← besideMemory (request "set volume" (Service.ask .status))
  match status.volume with
  | none => throw (.failed "Cannot set volume: MPD has no mixer")
  | some current =>
    let volume ← MonadExcept.ofExcept (change.target current (← get).1)
    besideMemory (request "set volume" (Service.ask (.setVolume volume)))
    if change = .toggleMute then
      modify fun (_, session) => (if 0 < current then some current else none, session)

/-- Changes the volume. -/
def volume : Command (Session σ) :=
  ofReader (.oneWord "a volume" volumeChange) none changeVolume

end Jukebox.Command
