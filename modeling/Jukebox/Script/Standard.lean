import Jukebox.Command.Builtin
import Jukebox.Script

/-
# The standard configuration

What the client is set to before it reads the configuration of its user: the columns and the order of
song lists, the line on top of the screen, the styles and the key bindings.
-/

namespace Jukebox.Script

/-- The lines of the standard configuration. -/
def standard : List String :=
  ["set nocenter",
   "set columns=artist,track,title,album,year,time",
   "set sort=file,track,disc,album,year,albumartistsort",
   "set topbar=\"|$shortname $version||;" ++
     "$\x7btag|artist\x7d \\\\- $\x7btag|title\x7d||$\x7btag|album\x7d, $\x7btag|year\x7d;" ++
     "$volume $mode $elapsed $\x7bstate\x7d $time;" ++
     "|[$\x7blist|index\x7d/$\x7blist|total\x7d] $\x7blist|title\x7d||;;\"",
   "style album teal",
   "style artist yellow",
   "style date green",
   "style time darkmagenta",
   "style title white bold",
   "style disc darkgreen",
   "style track green",
   "style year green",
   "style originalyear darkgreen",
   "style allTagsMissing red",
   "style currentSong black yellow",
   "style cursor black white",
   "style header teal bold",
   "style mostTagsMissing red",
   "style selection white blue",
   "style elapsedTime green",
   "style listIndex darkblue",
   "style listTitle blue bold",
   "style listTotal darkblue",
   "style mute red",
   "style shortName bold",
   "style state default",
   "style switches teal",
   "style tagMissing red",
   "style topbar darkgray",
   "style version gray",
   "style volume green",
   "style commandText default",
   "style errorText white red bold",
   "style readout default",
   "style searchText white bold",
   "style statusbar default",
   "style visualText teal",
   "bind <Up> cursor up",
   "bind k cursor up",
   "bind <Down> cursor down",
   "bind j cursor down",
   "bind <PgUp> cursor pgup",
   "bind <C-b> cursor pgup",
   "bind <PgDn> cursor pgdn",
   "bind <C-f> cursor pgdn",
   "bind <Home> cursor home",
   "bind gg cursor home",
   "bind <End> cursor end",
   "bind G cursor end",
   "bind gc cursor current",
   "bind R cursor random",
   "bind b cursor prevOf album",
   "bind e cursor nextOf album",
   "bind : inputmode input",
   "bind / inputmode search",
   "bind <F3> inputmode search",
   "bind <Enter> play selection",
   "bind <Space> pause",
   "bind s stop",
   "bind h previous",
   "bind l next",
   "bind + volume +2",
   "bind - volume -2",
   "bind M volume mute",
   "bind <Left> seek -5",
   "bind <Right> seek +5",
   "bind v select visual",
   "bind V select visual",
   "bind m select toggle",
   "bind & select nearby albumartist album",
   "bind <Delete> cut",
   "bind x cut",
   "bind y yank",
   "bind p paste after",
   "bind P paste before",
   "bind a add",
   "bind i print file",
   "bind t list next",
   "bind T list previous",
   "bind <C-d> list duplicate",
   "bind <C-g> list remove",
   "bind <C-j> isolate artist",
   "bind <C-t> isolate albumartist album",
   "bind <C-s> sort",
   "bind <C-c> quit",
   "bind q quit",
   "bind <C-l> redraw"]

/-- A session in its first state, with the standard configuration. -/
def startingSession {σ : Type} [Service σ] (session : Session σ) :
    Except DispatchError Unit × Dispatcher (Session σ) × Session σ :=
  runStrictly standard Dispatcher.standard session

end Jukebox.Script
