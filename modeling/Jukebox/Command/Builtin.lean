import Jukebox.Command.Arranging
import Jukebox.Command.Browsing
import Jukebox.Command.Configuring
import Jukebox.Command.Editing
import Jukebox.Command.Playing
import Jukebox.Dispatcher

/-
# The commands of the client

The commands by the names they are called by, in the order of their registration.
-/

namespace Jukebox

namespace Command

variable {σ : Type} [Service σ]

/-- The commands by name. -/
def builtin : List (String × Command (Session σ)) :=
  [("set", assign), ("style", restyle), ("bind", bindKeys), ("unbind", unbindKeys),
   ("play", play), ("pause", pause), ("stop", stop), ("next", next), ("previous", previous),
   ("volume", volume), ("seek", seek),
   ("cursor", cursor), ("inputmode", inputMode), ("list", list),
   ("sort", sort), ("add", add), ("select", select),
   ("cut", cut), ("yank", yank), ("paste", paste),
   ("isolate", isolate), ("print", print), ("redraw", redraw), ("quit", quit)]

end Command

/-- The dispatcher of the client: all its commands, none of which has seen a line yet. -/
def Dispatcher.standard {σ : Type} [Service σ] : Dispatcher (Session σ) :=
  (Dispatcher.registerAll {} Command.builtin).2

end Jukebox
