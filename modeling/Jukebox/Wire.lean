import Jukebox.Playback
import Jukebox.Text.Split
import Jukebox.Text.Blank
import Jukebox.Text.Utf8

/-
# Lines on a connection

Both sides of a connection speak in lines. What the server sends is a stream of bytes that a client
takes line by line; a line ends with a newline, and the last one may lack it. What the client sends
is kept as one text.
-/

namespace Jukebox.Wire

/-- The byte that ends a line. -/
def newline : UInt8 := 10

/-- The first line of a stream, with the newline that ends it, and the rest of the stream. -/
def takeLine : List UInt8 → List UInt8 × List UInt8
  | [] => ([], [])
  | b :: bytes =>
    if b = newline then ([b], bytes)
    else
      let (line, rest) := takeLine bytes
      (b :: line, rest)

theorem takeLine_append (bytes : List UInt8) :
    (takeLine bytes).1 ++ (takeLine bytes).2 = bytes := by
  induction bytes with
  | nil => rfl
  | cons b bytes ih =>
    by_cases h : b = newline
    · simp [takeLine, h]
    · simpa [takeLine, h] using ih

theorem length_takeLine_lt (b : UInt8) (bytes : List UInt8) :
    (takeLine (b :: bytes)).2.length < (b :: bytes).length := by
  have happend := congrArg List.length (takeLine_append (b :: bytes))
  have hne : 0 < (takeLine (b :: bytes)).1.length := by
    by_cases h : b = newline <;> simp [takeLine, h]
  simp only [List.length_append] at happend
  omega

/-- A connection as the client has it. -/
structure Connection where
  /-- What the server sends and the client has not read yet. -/
  unread : List UInt8
  /-- What the client has sent. -/
  sent : String := ""
deriving DecidableEq, Repr

/-- Sends a line. -/
def Connection.send (connection : Connection) (line : String) : Connection :=
  { connection with sent := connection.sent ++ line ++ "\n" }

/-- The lines that the client has sent. -/
def Connection.sentLines (connection : Connection) : List String :=
  let lines := (Text.splitChars '\n' connection.sent.toList).map String.ofList
  if lines.getLast? = some "" then lines.dropLast else lines

/-- The failure to read from a stream that has ended. -/
def closed : PlaybackError := .lost "connection closed"

/-- The failure to read a line that is no text. -/
def noText : PlaybackError := .lost "stream did not contain valid UTF-8"

/-- The failure to open a connection where nobody listens. -/
def refused : PlaybackError := .lost "Connection refused (os error 111)"

/-- A line without the characters that end it. -/
def chomp (line : String) : String :=
  Text.dropEnd (fun c => c == '\r' || c == '\n') line

/-- The text of a line taken from a stream. -/
def lineText (line : List UInt8) : Except PlaybackError String :=
  match Text.decodeUtf8 line with
  | .ok text => .ok (chomp text)
  | .error _ => .error noText

/-- Reads the next line of a stream. A line that is no text is read all the same. -/
def readLine (stream : List UInt8) : Except PlaybackError String × List UInt8 :=
  if stream.isEmpty then (.error closed, stream)
  else
    let (line, rest) := takeLine stream
    (lineText line, rest)

theorem length_readLine_lt {stream rest : List UInt8} {line : String}
    (h : readLine stream = (.ok line, rest)) : rest.length < stream.length := by
  cases stream with
  | nil => simp [readLine] at h
  | cons b bytes =>
    have hlt := length_takeLine_lt b bytes
    simp only [readLine, List.isEmpty_cons, Bool.false_eq_true, if_false, Prod.mk.injEq] at h
    rw [← h.2]
    exact hlt

end Jukebox.Wire
