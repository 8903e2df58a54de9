import Jukebox.Playback

/-
# Rehearsals

A service that plays nothing. It notes down every request, fails those it was told to fail, and
answers the others from what it was given: a fixed status, song, queue and library. Only the volume
and the ids of added songs change. It serves to see what a client would ask for.
-/

namespace Jukebox

/-- A service that only notes requests down. -/
structure Rehearsal where
  nextId : Nat := 1
  status : Status := {}
  currentSong : Option Song := none
  queue : List Song := []
  library : List Song := []
  /-- Songs that cannot be added. -/
  missing : List String := []
  /-- Ids that cannot be deleted. -/
  gone : List Nat := []
  /-- Requests that fail, by the first word of their note. -/
  failures : List (String × PlaybackError) := []
  /-- The requests so far, the last one first. -/
  notes : List String := []

namespace Rehearsal

/-- The first word of the note of a request. -/
def word : Request → String
  | .play _ => "play"
  | .playId _ => "playid"
  | .add _ | .insert _ _ => "addid"
  | .delete _ => "deleteid"
  | .pause _ => "pause"
  | .stop => "stop"
  | .next => "next"
  | .previous => "previous"
  | .setVolume _ => "setvol"
  | .seek _ => "seek"
  | .status => "status"
  | .currentSong => "currentsong"
  | .queue => "queue"
  | .library => "library"

/-- What a request is about, after the first word of its note. -/
def details : Request → List String
  | .play (some position) => [toString position]
  | .playId id | .delete id => [toString id]
  | .add uri => [uri]
  | .insert uri position => [uri, "@" ++ toString position]
  | .pause paused => [if paused then "true" else "false"]
  | .setVolume volume => [toString volume]
  | .seek (.absolute seconds) => ["abs", toString seconds]
  | .seek (.relative seconds) => ["rel", toString seconds]
  | _ => []

/-- The note of a request. -/
def note (request : Request) : String :=
  String.intercalate " " (word request :: details request)

/-- The answer to a request that was not told to fail. -/
def reply : (request : Request) → Rehearsal → Except PlaybackError request.Reply × Rehearsal
  | .add uri, r | .insert uri _, r =>
    if r.missing.contains uri then (.error (.rejected "No such song"), r)
    else (.ok r.nextId, { r with nextId := r.nextId + 1 })
  | .delete id, r =>
    if r.gone.contains id then (.error (.rejected "No such song"), r) else (.ok (), r)
  | .setVolume volume, r => (.ok (), { r with status := { r.status with volume := some volume } })
  | .status, r => (.ok r.status, r)
  | .currentSong, r => (.ok r.currentSong, r)
  | .queue, r => (.ok r.queue, r)
  | .library, r => (.ok r.library, r)
  | .play _, r | .playId _, r | .pause _, r | .stop, r | .next, r | .previous, r | .seek _, r =>
    (.ok (), r)

instance : Service Rehearsal where
  answer request r :=
    let r := { r with notes := note request :: r.notes }
    match r.failures.lookup (word request) with
    | some error => (.error error, r)
    | none => reply request r

end Rehearsal

end Jukebox
