import Jukebox.Key.Sequence
import Jukebox.Screen.SongRows
import Jukebox.Screen.Topbar

/-
# The screen

From top to bottom: the top bar, the list on screen, and one line at the bottom for what is typed,
for messages, and for keys on hold. Drawing takes note of how many songs there is room for, so that
moving by pages and scrolling go by the size of the screen.
-/

namespace Jukebox

/-- A picture of the screen, with the place of the terminal's cursor where something is typed. -/
structure Screen where
  rows : List Screen.Row
  cursor : Option (Nat × Nat)
deriving DecidableEq, Repr

namespace Screen

/-- The settings that shape the screen. -/
structure ScreenSettings where
  topbar : String := ""
  columns : List String := []
  center : Bool := false
deriving DecidableEq, Repr

/-- Reads the settings that shape the screen. -/
def ScreenSettings.read (settings : Settings) : Except SettingError ScreenSettings := do
  return {
    topbar := ← settings.textValue "topbar"
    columns := ← settings.listValue "columns"
    center := ← settings.switchValue "center" }

/-- What is typed on the bottom line, with the character in front of it, and its style. -/
def prompt? (ui : Ui) : Option (String × String) :=
  match ui.mode with
  | .input => some (":" ++ ui.input, "commandtext")
  | .search => some ("/" ++ ui.input, "searchtext")
  | .normal => none

/-- What the bottom line says while nothing is typed. -/
def messageSpans (ui : Ui) (visual : Bool) (styles : Stylesheet) : List Span :=
  match ui.message with
  | some (.info text) => [{ content := text, style := styles.get "readout" }]
  | some (.error text) => [{ content := text, style := styles.get "errortext" }]
  | none =>
    if visual then [{ content := "-- VISUAL --", style := styles.get "visualtext" }] else []

/-- Draws the keys on hold at the right end of a row. -/
def drawHeldKeys (keys : String) (styles : Stylesheet) (row : Row) : Row :=
  if keys = "" then row
  else
    let count := min keys.length row.length
    drawParagraph (row.length - count) count .right {}
      [{ content := keys, style := styles.get "readout" }] row

/-- The bottom line, and the column of the terminal's cursor if something is typed. -/
def drawBottom (ui : Ui) (visual : Bool) (styles : Stylesheet) (width : Nat) :
    Row × Option Nat :=
  match prompt? ui with
  | some (text, style) =>
    (drawParagraph 0 width .left {} [{ content := text, style := styles.get style }]
      (blankRow width), some (min text.length (width - 1)))
  | none =>
    let row := drawParagraph 0 width .left (styles.get "standard")
      (messageSpans ui visual styles) (blankRow width)
    (drawHeldKeys ui.heldKeys styles row, none)

/-- The settings to draw with. If they cannot be read, that is shown as an error, unless it is shown
already, and the list is drawn bare. -/
def settle {σ : Type} (session : Session σ) : ScreenSettings × Session σ :=
  match ScreenSettings.read session.settings with
  | .ok settings => (settings, session)
  | .error error =>
    let ui := session.ui
    ({}, if ui.message = some (.error error.message) then session
      else session.modifyUi (·.setError error.message))

/-- Draws a session on a screen of some size. -/
def render {σ : Type} (width height : Nat) (session : Session σ) : Screen × Session σ :=
  let (settings, session) := settle session
  let template := (Template.parse settings.topbar).take height
  let listHeight := height - template.length - 1
  let session := session.modifyBrowser (·.updateViewport (songCount listHeight) settings.center)
  let browser := session.browser
  let styles := session.styles
  let context : TopbarContext :=
    { status := session.ui.status, song := browser.currentSong, browser }
  let (bottom, column) := drawBottom session.ui browser.shown.inVisualMode styles width
  let rows := template.map (context.drawRow styles width) ++
    drawList styles browser.shown settings.columns browser.currentRow? width listHeight ++ [bottom]
  ({ rows := hideCovered 0 rows, cursor := column.map fun x => (x, height - 1) }, session)

end Screen

end Jukebox
