import Jukebox.Chance
import Jukebox.Command
import Jukebox.Keymap
import Jukebox.Setting
import Jukebox.Songlist.Browser
import Jukebox.Style
import Jukebox.Ui

/-
# Sessions

All that commands act on and the screen is drawn from: the settings, the styles, the key bindings,
the song lists, what else is on screen, and the playback service, if there is a connection to one. What
commands leave to chance is drawn in here as well.
-/

namespace Jukebox

/-- The state of a running client of a playback service of sort `σ`. -/
structure Session (σ : Type) where
  settings : Settings := Settings.initial
  styles : Stylesheet := {}
  keymap : Keymap := {}
  browser : Browser := {}
  ui : Ui := {}
  player : Player σ := none
  chance : Chance

namespace Session

variable {σ : Type}

/-- Changes what is on screen besides songs. -/
def modifyUi (session : Session σ) (f : Ui → Ui) : Session σ :=
  { session with ui := f session.ui }

/-- Changes the song lists. -/
def modifyBrowser (session : Session σ) (f : Browser → Browser) : Session σ :=
  { session with browser := f session.browser }

/-- Changes the list on screen. -/
def modifyShown (session : Session σ) (f : Songlist → Songlist) : Session σ :=
  session.modifyBrowser (·.modifyShown f)

/-- Carries out an exchange with the playback service. A failure is reported as a failure of the
action that the exchange is for. -/
def request {α : Type} (action : String) (exchange : Exchange σ α) : Act (Session σ) α :=
  ExceptT.mk fun session =>
    let (result, player) := session.player.call exchange
    (result.mapError (.ofPlayback action), { session with player })

/-- Shows a piece of information. -/
def inform (text : String) : Act (Session σ) Unit :=
  modify (·.modifyUi (·.setInfo text))

end Session

end Jukebox
