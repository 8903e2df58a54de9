import Jukebox.Text.Quoted
import Jukebox.Wire.Response

/-
# The client

A client is a playback service at the other end of a connection. For every request it sends one line
and then reads one response, so that the responses it reads belong to the requests it sent, in order.
When it is no longer needed it says good-bye.
-/

namespace Jukebox.Wire

open Text

/-- Where a server is, and the password it asks for. -/
structure ServerAddress where
  host : String
  port : Nat
  password : Option String := none
deriving DecidableEq, Repr

/-- The address in writing. -/
def ServerAddress.display (address : ServerAddress) : String :=
  address.host ++ ":" ++ toString address.port

/-- A number with its sign, also when it is positive. -/
def signed (n : Int) : String := if n < 0 then toString n else "+" ++ toString n

/-- The line that asks for something. -/
def requestLine : Request → String
  | .play (some position) => "play " ++ toString position
  | .play none => "play"
  | .playId id => "playid " ++ toString id
  | .add uri => "addid " ++ enquote uri
  | .insert uri position => "addid " ++ enquote uri ++ " " ++ toString position
  | .delete id => "deleteid " ++ toString id
  | .pause paused => if paused then "pause 1" else "pause 0"
  | .stop => "stop"
  | .next => "next"
  | .previous => "previous"
  | .setVolume volume => "setvol " ++ toString (min volume 100)
  | .seek (.absolute seconds) => "seekcur " ++ toString seconds
  | .seek (.relative seconds) => "seekcur " ++ signed seconds
  | .status => "status"
  | .currentSong => "currentsong"
  | .queue => "playlistinfo"
  | .library => "listallinfo"

/-- The line that gives a password. -/
def passwordLine (password : String) : String := "password " ++ enquote password

/-- What the pairs of a response mean as an answer to a request. -/
def replyOf : (request : Request) → Pairs → Except PlaybackError request.Reply
  | .add _, pairs | .insert _ _, pairs => idOf pairs
  | .status, pairs => statusOf pairs
  | .currentSong, pairs => .ok (songsOf pairs).head?
  | .queue, pairs | .library, pairs => .ok (songsOf pairs)
  | .play _, _ | .playId _, _ | .delete _, _ | .pause _, _ | .stop, _ | .next, _ | .previous, _
  | .setVolume _, _ | .seek _, _ => .ok ()

/-- A connection that the server has greeted. -/
structure Client where
  connection : Connection
  version : String
deriving DecidableEq, Repr

namespace Client

/-- Sends a line and reads the response to it. -/
def converse (line : String) (client : Client) : Except PlaybackError Pairs × Client :=
  let (result, rest) := readResponse client.connection.unread
  (result, { client with connection := { client.connection.send line with unread := rest } })

instance : Service Client where
  answer request client :=
    let (result, client) := client.converse (requestLine request)
    (result.bind (replyOf request), client)

/-- Says good-bye and leaves the connection. -/
def close (client : Client) : Connection := client.connection.send "close"

/-- Opens a conversation on a new connection: reads the greeting and gives the password. If that
fails, the connection is given back, with a good-bye if the server had greeted. -/
def start (password : Option String) (connection : Connection) :
    Except (PlaybackError × Connection) Client :=
  let (greeting, rest) := readGreeting connection.unread
  let connection := { connection with unread := rest }
  match greeting with
  | .error error => .error (error, connection)
  | .ok version =>
    let client : Client := { connection, version }
    match password with
    | none => .ok client
    | some password =>
      match client.converse (passwordLine password) with
      | (.ok _, client) => .ok client
      | (.error error, client) => .error (error, client.close)

end Client

end Jukebox.Wire
