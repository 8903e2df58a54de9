import Jukebox.Program
import Jukebox.Screen.Row
import Jukebox.Screen.Template
import Jukebox.Session

/-
# The top bar

The rows of the template share the top of the screen. The pieces of a row share its width evenly: the
first is on the left, the last on the right, the others in the middle of their place. A variable is
drawn in the style that goes with what it shows, laid over that of the bar.
-/

namespace Jukebox.Screen

/-- What variables refer to. -/
structure TopbarContext where
  status : Status
  song : Option Song
  browser : Browser

/-- The text of a variable and the name of the style it is drawn in. -/
structure Expansion where
  text : String
  style : String
deriving DecidableEq, Repr

/-- The switches of the player, each as its letter or as a dash. -/
def switchLetters (status : Status) : String :=
  let letter (on : Bool) (c : Char) : Char := if on then c else '-'
  String.ofList
    [letter status.repeating 'r', letter status.random 'z', letter status.single 's',
      letter status.consume 'c']

/-- The volume in words. -/
def volumeExpansion : Option Nat → Expansion
  | some 0 => ⟨"Mute", "mute"⟩
  | some volume => ⟨"Vol " ++ toString volume ++ "%", "volume"⟩
  | none => ⟨"Vol --", "volume"⟩

/-- A tag of the song that plays. -/
def tagExpansion (song : Option Song) (tag : String) : Expansion :=
  match song with
  | none => ⟨"<none>", "tagmissing"⟩
  | some song =>
    match song.tag? tag with
    | some value => ⟨value, tag⟩
    | none => ⟨"<unknown>", "tagmissing"⟩

/-- The state of the player as a sign. -/
def stateSign : PlayState → String
  | .play => "|>"
  | .pause => "||"
  | .stop => "[]"

/-- What a variable shows. Unknown variables show nothing. -/
def TopbarContext.expand (context : TopbarContext) (name : String) (parameter : Option String) :
    Expansion :=
  match name, parameter with
  | "shortname", _ => ⟨Program.name, "shortname"⟩
  | "version", _ => ⟨Program.version, "version"⟩
  | "tag", some tag => tagExpansion context.song tag
  | "volume", _ => volumeExpansion context.status.volume
  | "mode", _ => ⟨switchLetters context.status, "switches"⟩
  | "elapsed", _ => ⟨formatTime (context.status.elapsed.map Text.wholeSeconds), "elapsedtime"⟩
  | "time", _ => ⟨formatTime (context.status.duration.map Text.wholeSeconds), "time"⟩
  | "state", _ => ⟨stateSign context.status.state, "state"⟩
  | "list", some "index" => ⟨toString (context.browser.active + 1), "listindex"⟩
  | "list", some "total" => ⟨toString context.browser.count, "listtotal"⟩
  | "list", some "title" => ⟨context.browser.shown.name, "listtitle"⟩
  | _, _ => ⟨"", "topbar"⟩

/-- A fragment as it is drawn. -/
def TopbarContext.span (context : TopbarContext) (styles : Stylesheet) : Fragment → Span
  | .text content => { content, style := styles.get "topbar" }
  | .var name parameter =>
    let expansion := context.expand name parameter
    { content := expansion.text,
      style := (styles.get "topbar").patch (styles.get expansion.style) }

/-- Where the place of piece `i` of `n` begins in a row: the share of the pieces before it, to the
nearest column, a half up. -/
def pieceStart (width n i : Nat) : Nat := (2 * i * width + n) / (2 * n)

/-- How the text of piece `i` of `n` stands in its place. -/
def pieceAlignment (n i : Nat) : Alignment :=
  if i = 0 then .left else if i + 1 = n then .right else .center

/-- Draws the pieces of a row from piece `i` of `n` on. -/
def TopbarContext.drawPieces (context : TopbarContext) (styles : Stylesheet) (n : Nat) :
    (i : Nat) → List Piece → Row → Row
  | _, [], row => row
  | i, piece :: pieces, row =>
    let start := pieceStart row.length n i
    let count := pieceStart row.length n (i + 1) - start
    context.drawPieces styles n (i + 1) pieces <|
      drawParagraph start count (pieceAlignment n i) (styles.get "topbar")
        (piece.map (context.span styles)) row

/-- A row of the top bar. -/
def TopbarContext.drawRow (context : TopbarContext) (styles : Stylesheet) (width : Nat)
    (pieces : List Piece) : Row :=
  context.drawPieces styles pieces.length 0 pieces (blankRow width)

end Jukebox.Screen
