import Jukebox.Command
import Jukebox.Playback.Batch
import Jukebox.Session

/-
# Commands that move songs

`add` puts songs into the queue; `cut`, `yank` and `paste` move songs by way of the clipboard. They
act on the selection, or on the song under the cursor if nothing is selected. The queue belongs to
the playback service and is edited through it, the library is not edited at all, and all other lists
are edited in place.
-/

namespace Jukebox.Command

open Session (request inform)

variable {σ : Type} [Service σ]

/-- What was done with how many songs. -/
def songsMessage (verb : String) (count : Nat) : String :=
  if count = 1 then "1 song " ++ verb else toString count ++ " songs " ++ verb

/-- What was added to the queue. -/
def addedMessage : List String → String
  | [uri] => "Added " ++ uri ++ " to queue"
  | uris => "Added " ++ toString uris.length ++ " songs to queue"

/-- Adds songs to the queue: those named on the line, or else those the list points at. -/
def add : Command (Session σ) :=
  simple (.texts "a song URI") fun named => do
    let session ← get
    let uris :=
      if named.isEmpty then session.browser.shown.selectedSongs.filterMap Song.file? else named
    if uris.isEmpty then throw (.failed "Cannot add: no song under cursor")
    let _ ← request "add" (addAll uris none)
    inform (addedMessage uris)

/-- Takes rows out of the list on screen and puts their songs into the clipboard. -/
def takeOut (rows : List Nat) : Act (Session σ) Unit := do
  let session ← get
  let (removed, list) := session.browser.shown.removeRows rows
  modify fun session =>
    (session.modifyShown fun _ => list).modifyBrowser ({ · with clipboard := removed })
  inform (songsMessage "cut" removed.length)

/-- Moves songs from the list on screen into the clipboard. -/
def cut : Command (Session σ) :=
  simple .nothing fun () => do
    let list := (← get).browser.shown
    let rows := list.targetRows
    if rows.isEmpty then throw (.failed "Cannot cut: no song under cursor")
    match list.kind with
    | .library => throw (.failed "Cannot cut from the library")
    | .queue => request "cut" (deleteAll list.selectedSongs)
    | .custom | .search => pure ()
    takeOut rows

/-- Copies songs of the list on screen into the clipboard, and drops the selection. -/
def yank : Command (Session σ) :=
  simple .nothing fun () => do
    let songs := (← get).browser.shown.selectedSongs
    if songs.isEmpty then throw (.failed "Cannot yank: no song under cursor")
    modify fun session =>
      (session.modifyBrowser ({ · with clipboard := songs })).modifyShown (·.clearSelection)
    inform (songsMessage "yanked" songs.length)

/-- Whether a word means after the cursor, and not before it. -/
def afterCursor (token : Token) : Except CommandError Bool :=
  match token.text with
  | "after" => .ok true
  | "before" => .ok false
  | _ => .error (.unexpected token "after or before")

/-- The row that pasted songs begin in. -/
def pastePosition (list : Songlist) (after : Bool) : Nat :=
  if list.isEmpty then 0 else if after then list.cursor + 1 else list.cursor

/-- Puts the songs of the clipboard into the list on screen. In the queue they appear as soon as the
playback service says that it changed. -/
def paste : Command (Session σ) :=
  simple (.optionalWord afterCursor) fun after => do
    let session ← get
    let songs := session.browser.clipboard
    if songs.isEmpty then throw (.failed "Nothing to paste")
    let list := session.browser.shown
    let position := pastePosition list (after.getD true)
    match list.kind with
    | .library => throw (.failed "Cannot paste into the library")
    | .queue =>
      let _ ← request "paste" (addAll (songs.filterMap Song.file?) (some position))
    | .custom | .search => modify (·.modifyShown (·.insert position songs))
    inform (songsMessage "pasted" songs.length)

end Jukebox.Command
