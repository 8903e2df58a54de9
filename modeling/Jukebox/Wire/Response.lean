import Jukebox.Text.Blank
import Jukebox.Text.Split
import Jukebox.Wire

/-
# Responses of the server

A response is a run of lines, each a key and a value, up to the line `OK`; or up to a line that says
that and why the request is refused. The pairs of a response are then read as what was asked for: a
status, an id, or songs. In a listing each song begins with its place on the server, and what belongs
to directories and playlists is skipped.
-/

namespace Jukebox.Wire

open Text

/-- The keys and values of a response, in order. -/
abbrev Pairs := List (String × String)

/-- A text without all repetitions of `start` at its start. -/
def dropRepeated (start : List Char) (text : List Char) : List Char :=
  if _h : start ≠ [] ∧ start.isPrefixOf text then dropRepeated start (text.drop start.length)
  else text
termination_by text.length
decreasing_by
  have hle := (List.isPrefixOf_iff_prefix.1 (And.right ‹_›)).length_le
  have hpos := List.length_pos_iff.2 (And.left ‹_›)
  simp only [List.length_drop]
  omega

/-- What a refusal says to people: the part after the name of the refused request. -/
def refusalText (line : String) : String :=
  match splitOnce line "\x7d " with
  | some (_, message) => message
  | none => trim (String.ofList (dropRepeated "ACK".toList line.toList))

/-- Reads the line that the server opens a connection with, and gives the version in it. -/
def readGreeting (stream : List UInt8) : Except PlaybackError String × List UInt8 :=
  match readLine stream with
  | (.ok line, rest) =>
    match afterStart? line "OK MPD " with
    | some version => (.ok version, rest)
    | none => (.error (.unexpected ("not an MPD server: " ++ line)), rest)
  | (.error error, rest) => (.error error, rest)

/-- What a line means within a response. -/
inductive ResponseLine where
  /-- The response is complete. -/
  | done
  /-- The request is refused. -/
  | refusal (message : String)
  | pair (key value : String)
  /-- The line has no meaning. -/
  | senseless
deriving DecidableEq, Repr

/-- What a line means within a response. -/
def ResponseLine.ofText (line : String) : ResponseLine :=
  if line = "OK" then done
  else if (afterStart? line "ACK ").isSome then refusal (refusalText line)
  else match splitOnce line ": " with
    | some (key, value) => pair key value
    | none => senseless

/-- Reads the rest of a response, given the pairs before it. A line that cannot be read ends the
reading and leaves unread what follows it. -/
def readPairs (pairs : Pairs) (stream : List UInt8) : Except PlaybackError Pairs × List UInt8 :=
  match _h : readLine stream with
  | (.error error, rest) => (.error error, rest)
  | (.ok line, rest) =>
    match ResponseLine.ofText line with
    | .done => (.ok pairs, rest)
    | .refusal message => (.error (.rejected message), rest)
    | .pair key value => readPairs (pairs ++ [(key, value)]) rest
    | .senseless => (.error (.unexpected line), rest)
termination_by stream.length
decreasing_by exact length_readLine_lt (by assumption)

/-- Reads one response. -/
def readResponse (stream : List UInt8) : Except PlaybackError Pairs × List UInt8 :=
  readPairs [] stream

/-- Collects the songs of a listing, given the songs before and the tags of the song that is being
listed, if one is. -/
def collectSongs (songs : List Song) (current : Option Pairs) : Pairs → List Song
  | [] => songs ++ (current.map Song.ofTags).toList
  | (key, value) :: pairs =>
    if key = "file" then
      collectSongs (songs ++ (current.map Song.ofTags).toList) (some [(key, value)]) pairs
    else if key = "directory" ∨ key = "playlist" then
      collectSongs (songs ++ (current.map Song.ofTags).toList) none pairs
    else collectSongs songs (current.map (· ++ [(key, value)])) pairs

/-- The songs of a listing. -/
def songsOf (pairs : Pairs) : List Song := collectSongs [] none pairs

/-- Whether a value means that something is on. -/
def isOn (value : String) : Bool := value ≠ "0"

/-- The state of the player that a word means. -/
def playStateOf (word : String) : Except PlaybackError PlayState :=
  match word with
  | "play" => .ok .play
  | "pause" => .ok .pause
  | "stop" => .ok .stop
  | other => .error (.unexpected ("unknown state '" ++ other ++ "'"))

/-- A volume; servers that cannot change it report a negative one. -/
def volumeOf (value : String) : Option Nat :=
  match readInt32? value with
  | some n => if 0 ≤ n ∧ n ≤ maxByte then some n.toNat else none
  | none => none

/-- Takes one pair over into a status. Keys that are of no interest are skipped. -/
def addToStatus (status : Status) : String × String → Except PlaybackError Status
  | ("state", value) => (playStateOf value).map fun state => { status with state }
  | ("volume", value) => .ok { status with volume := volumeOf value }
  | ("songid", value) => .ok { status with songId := readNat? maxWord value }
  | ("elapsed", value) => .ok { status with elapsed := readFloat? value }
  | ("duration", value) => .ok { status with duration := readFloat? value }
  | ("repeat", value) => .ok { status with repeating := isOn value }
  | ("random", value) => .ok { status with random := isOn value }
  | ("single", value) => .ok { status with single := isOn value }
  | ("consume", value) => .ok { status with consume := isOn value }
  | _ => .ok status

/-- The status that a response describes. -/
def statusOf (pairs : Pairs) : Except PlaybackError Status :=
  pairs.foldlM addToStatus {}

/-- The id of a song that was added. -/
def idOf (pairs : Pairs) : Except PlaybackError Nat :=
  match pairs.lookup "Id" >>= readNat? maxWord with
  | some id => .ok id
  | none => .error (.unexpected "addid returned no Id")

end Jukebox.Wire
