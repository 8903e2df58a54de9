import Jukebox.Command
import Jukebox.Session

/-
# Commands that move about

`cursor` moves the cursor of the list on screen, `select` changes the selection in it, `list` goes to
another list, and `inputmode` says what keys are taken for. None of them has anything to ask of the
playback service.
-/

namespace Jukebox.Command

open Text

variable {σ : Type}

/-- Where the cursor is to go. -/
inductive Motion where
  | by (rows : Int)
  | to (row : Nat)
  | pageUp | pageDown | home | bottom
  /-- To the song that plays. -/
  | current
  /-- To a row that chance picks. -/
  | random
  | nextOf (tag : String)
  | prevOf (tag : String)
deriving DecidableEq, Repr

/-- A motion that is being read. -/
inductive MotionWords where
  | nothing
  /-- A tag has to follow. -/
  | awaitingTag (forward : Bool)
  | ready (motion : Motion)
deriving DecidableEq, Repr

/-- What a first word means. Rows are counted from one; a number with a sign is a distance. -/
def MotionWords.ofToken (token : Token) : Except CommandError MotionWords :=
  match token.text with
  | "up" => .ok (.ready (.by (-1)))
  | "down" => .ok (.ready (.by 1))
  | "pgup" => .ok (.ready .pageUp)
  | "pgdn" => .ok (.ready .pageDown)
  | "home" => .ok (.ready .home)
  | "end" => .ok (.ready .bottom)
  | "current" => .ok (.ready .current)
  | "random" => .ok (.ready .random)
  | "nextOf" => .ok (.awaitingTag true)
  | "prevOf" => .ok (.awaitingTag false)
  | _ =>
    match token.toInt? with
    | some n =>
      if token.isRelative then .ok (.ready (.by n))
      else if 0 < n then .ok (.ready (.to (n.toNat - 1)))
      else .error (.unexpected token "a cursor motion")
    | none => .error (.unexpected token "a cursor motion")

/-- Reads a motion. -/
def motionWords : Reader (Session σ) Motion where
  State := MotionWords
  start := .nothing
  read
    | _, .nothing, .word text => MotionWords.ofToken (.word text)
    | _, .nothing, token => .error (.unexpected token "a cursor motion")
    | _, .awaitingTag forward, .word text | _, .awaitingTag forward, .quoted text =>
      let tag := lowercase text
      .ok (.ready (if forward then .nextOf tag else .prevOf tag))
    | _, .awaitingTag _, token => .error (.unexpected token "a tag name")
    | _, .ready _, token => .error (.unexpected token "END")
  result
    | .nothing => .error (.unexpected .endOfLine "a cursor motion")
    | .awaitingTag _ => .error (.unexpected .endOfLine "a tag name")
    | .ready motion => .ok motion

/-- The list on screen after a motion; `none` if the song that plays is not in it. -/
def Motion.apply? (motion : Motion) (chance : Chance) (browser : Browser) : Option Songlist :=
  let list := browser.shown
  match motion with
  | .by rows => some (list.moveCursor rows)
  | .to row => some (list.setCursor row)
  | .pageUp => some (list.moveCursor (-(browser.pageSize : Int)))
  | .pageDown => some (list.moveCursor browser.pageSize)
  | .home => some (list.setCursor 0)
  | .bottom => some (list.setCursor (list.size - 1))
  | .current => browser.currentRow?.map list.setCursor
  | .random => some (if h : 0 < list.size then list.setCursor (chance.draw list.size h) else list)
  | .nextOf tag => some (list.setCursor (list.nextOf tag))
  | .prevOf tag => some (list.setCursor (list.prevOf tag))

/-- What is left to chance after a motion. Nothing is drawn from an empty list. -/
def Motion.chanceAfter (motion : Motion) (chance : Chance) (browser : Browser) : Chance :=
  match motion with
  | .random => if 0 < browser.shown.size then chance.after browser.shown.size else chance
  | _ => chance

/-- Moves the cursor. -/
def cursor : Command (Session σ) :=
  simple motionWords fun motion => do
    let session ← get
    match motion.apply? session.chance session.browser with
    | some list =>
      modify fun session => { session.modifyShown fun _ => list with
        chance := motion.chanceAfter session.chance session.browser }
    | none => throw (.failed "Cannot move cursor: current song is not in this list")

/-- What to do with the selection. -/
inductive Selecting where
  | visual | toggle
  | nearby (tags : List String)
deriving DecidableEq, Repr

/-- What a first word means. -/
def Selecting.ofToken (token : Token) : Except CommandError Selecting :=
  match token.text with
  | "visual" => .ok .visual
  | "toggle" => .ok .toggle
  | "nearby" => .ok (.nearby [])
  | _ => .error (.unexpected token "visual, toggle or nearby")

/-- Reads what to do with the selection, and for some of it the names of tags. -/
def selectingWords : Reader (Session σ) Selecting where
  State := Option Selecting
  start := none
  read
    | _, none, .word text => (Selecting.ofToken (.word text)).map some
    | _, some (.nearby tags), .word text | _, some (.nearby tags), .quoted text =>
      .ok (some (.nearby (tags ++ [lowercase text])))
    | _, _, token => .error (.unexpected token "END")
  result
    | none => .error (.unexpected .endOfLine "visual, toggle or nearby")
    | some (.nearby []) => .error (.unexpected .endOfLine "a tag name")
    | some selecting => .ok selecting

/-- The list with its selection changed. -/
def Selecting.apply : Selecting → Songlist → Songlist
  | .visual, list => list.toggleVisual
  | .toggle, list => (list.toggleMark list.cursor).moveCursor 1
  | .nearby tags, list => list.selectNearby tags

/-- Changes the selection. -/
def select : Command (Session σ) :=
  simple selectingWords fun selecting => modify (·.modifyShown selecting.apply)

/-- Which list to go to, or what to do with the one on screen. -/
inductive ListTarget where
  | next | previous
  /-- The list of this number, counted from one. -/
  | number (n : Int)
  | duplicate | remove
deriving DecidableEq, Repr

/-- What may follow `list`. -/
def listTargets : String := "next, previous, duplicate, remove or a number"

/-- What a word after `list` means. -/
def ListTarget.ofToken (token : Token) : Except CommandError ListTarget :=
  match token.text with
  | "next" => .ok .next
  | "previous" | "prev" => .ok .previous
  | "duplicate" => .ok .duplicate
  | "remove" => .ok .remove
  | _ =>
    match token.toInt? with
    | some n =>
      if token.isRelative then .error (.unexpected token listTargets) else .ok (.number n)
    | none => .error (.unexpected token listTargets)

/-- Goes to the target. -/
def ListTarget.apply (target : ListTarget) (browser : Browser) : Except CommandError Browser :=
  match target with
  | next => .ok (browser.cycle true)
  | previous => .ok (browser.cycle false)
  | number n =>
    match if 1 ≤ n then browser.select? (n - 1).toNat else none with
    | some browser => .ok browser
    | none => .error (.failed ("No such list: " ++ toString n))
  | duplicate => .ok browser.duplicate
  | remove =>
    match browser.remove? with
    | some browser => .ok browser
    | none => .error (.failed "Cannot remove the queue or the library")

/-- Goes to another list, copies the one on screen or closes it. -/
def list : Command (Session σ) :=
  simple (.oneWord listTargets ListTarget.ofToken) fun target => do
    let browser ← MonadExcept.ofExcept (target.apply (← get).browser)
    modify ({ · with browser })

/-- The mode that a word means. -/
def modeOfToken (token : Token) : Except CommandError InputMode :=
  match token.text with
  | "normal" => .ok .normal
  | "input" => .ok .input
  | "search" => .ok .search
  | _ => .error (.unexpected token "normal, input or search")

/-- Changes what keys are taken for. -/
def inputMode : Command (Session σ) :=
  simple (.oneWord "normal, input or search" modeOfToken) fun mode =>
    modify (·.modifyUi (·.setMode mode))

/-- Asks for the screen to be drawn anew. -/
def redraw : Command (Session σ) :=
  simple .nothing fun () => modify (·.modifyUi ({ · with redraw := true }))

/-- Asks for the program to end. -/
def quit : Command (Session σ) :=
  simple .nothing fun () => modify (·.modifyUi ({ · with quitting := true }))

end Jukebox.Command
