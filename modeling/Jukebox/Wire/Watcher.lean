import Jukebox.Wire.Client

/-
# Watching for changes

A second connection waits for news: the client asks to be told of changes, the server names the
subsystems that changed and ends with `OK`, and the client asks again. News is passed on in order
until the server refuses, sends a line that is no text, or ends the stream; that is the last news.
If nobody takes the news any more, watching ends in silence.
-/

namespace Jukebox.Wire

open Text

/-- News from the server. -/
inductive News where
  /-- The player, the volume or the way of playing changed. -/
  | player
  | queue
  | library
  /-- There will be no more news, for this reason. -/
  | disconnected (reason : String)
deriving DecidableEq, Repr

/-- The news that a change of a subsystem is. -/
def News.ofSubsystem? : String → Option News
  | "player" | "mixer" | "options" => some .player
  | "playlist" => some .queue
  | "database" | "update" => some .library
  | _ => none

/-- The request to be told of changes. -/
def idleLine : String := "idle player mixer options playlist database update"

/-- A line without its newline, or without the carriage return and newline that end it. -/
def withoutBreak (line : List Char) : List Char :=
  if line.getLast? = some '\n' then withoutReturn line.dropLast else line

/-- The text of a line taken from the stream, or what is wrong with the stream. -/
def newsLine (line : List UInt8) : Except String String :=
  if line.isEmpty then .error "connection closed"
  else match decodeUtf8 line with
    | .ok text => .ok (String.ofList (withoutBreak text.toList))
    | .error fault => .error fault.message

/-- What a line of the server means to someone who waits for news. -/
inductive NewsLine where
  /-- The server has said all there is, and waits for the next request. -/
  | done
  | refusal (message : String)
  | news (news : News)
  | other
deriving DecidableEq, Repr

/-- What a line of the server means to someone who waits for news. -/
def NewsLine.ofText (line : String) : NewsLine :=
  if line = "OK" then done
  else if (afterStart? line "ACK ").isSome then refusal (refusalText line)
  else match (afterStart? line "changed: ").bind News.ofSubsystem? with
    | some found => news found
    | none => other

/-- How watching went: the news passed on, what was sent, and why it ended, unless it was because
nobody listens. -/
structure Watch where
  news : List News := []
  connection : Connection
  reason : Option String := none
deriving DecidableEq, Repr

/-- The watch with one more piece of news at its start. -/
def Watch.tell (news : News) (watch : Watch) : Watch := { watch with news := news :: watch.news }

/-- Waits for news on a stream. `sent` is what was sent so far, the request to be told included. -/
def listen (listening : Bool) (sent : Connection) (stream : List UInt8) : Watch :=
  match stream with
  | [] => { connection := { sent with unread := [] }, reason := some "connection closed" }
  | b :: bytes =>
    let rest := (takeLine (b :: bytes)).2
    let connection := { sent with unread := rest }
    match newsLine (takeLine (b :: bytes)).1 with
    | .error reason => { connection, reason := some reason }
    | .ok text =>
      match NewsLine.ofText text with
      | .done => listen listening (connection.send idleLine) rest
      | .refusal message => { connection, reason := some message }
      | .news news =>
        if listening then (listen listening connection rest).tell news else { connection }
      | .other => listen listening connection rest
termination_by stream.length
decreasing_by all_goals exact length_takeLine_lt b bytes

/-- Watches on a new connection: reads the greeting, gives the password and waits for news. -/
def watchConnection (listening : Bool) (password : Option String) (connection : Connection) :
    Watch :=
  let (line, rest) := takeLine connection.unread
  let connection := { connection with unread := rest }
  match newsLine line with
  | .error reason => { connection, reason := some reason }
  | .ok greeting =>
    if (afterStart? greeting "OK MPD ").isNone then
      { connection, reason := some ("not an MPD server: " ++ greeting) }
    else match password with
      | none => listen listening (connection.send idleLine) rest
      | some password =>
        let connection := connection.send (passwordLine password)
        let (line, rest) := takeLine rest
        match newsLine line with
        | .error reason => { connection := { connection with unread := rest }, reason }
        | .ok reply =>
          if reply = "OK" then listen listening (connection.send idleLine) rest
          else { connection := { connection with unread := rest }, reason := refusalText reply }

/-- The news that somebody gets who listens: that of the watch, and at last that it ended. -/
def Watch.published (watch : Watch) (listening : Bool) : List News :=
  if listening then watch.news ++ (watch.reason.map News.disconnected).toList else []

end Jukebox.Wire
