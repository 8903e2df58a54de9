import Jukebox.Command
import Jukebox.Session

/-
# Commands that arrange songs by their tags

`sort` orders the list on screen, `isolate` opens a list of the songs that share tags with the one
under the cursor, and `print` shows tags of that song. The tags to sort by are those of the setting
`sort`, unless they are named.
-/

namespace Jukebox.Command

open Session (inform)

variable {σ : Type}

/-- The tags of the setting `sort`. -/
def usualOrder (session : Session σ) : Act (Session σ) (List String) :=
  MonadExcept.ofExcept ((session.settings.listValue "sort").mapError .setting)

/-- Orders the list on screen. The order of the queue is that of the playback service. -/
def sort : Command (Session σ) :=
  simple .tags fun named => do
    let session ← get
    let tags ← if named.isEmpty then usualOrder session else pure named
    if session.browser.isQueue then throw (.failed "Cannot sort the queue")
    modify (·.modifyShown (·.sortByTags tags))

/-- The list that songs are isolated from: the library once it is loaded, until then the list on
screen. -/
def isolationSource (browser : Browser) : Songlist :=
  match browser.list? .library with
  | some library => if library.isEmpty then browser.shown else library
  | none => browser.shown

/-- Opens a list of the songs that share tags with the one under the cursor. -/
def isolate : Command (Session σ) :=
  simple .someTags fun tags => do
    let session ← get
    let order ← usualOrder session
    match session.browser.cursorSong? with
    | none => throw (.failed "Cannot isolate: no song under cursor")
    | some song =>
      let isolated := (isolationSource session.browser).isolate song tags
      if isolated.isEmpty then throw (.failed ("No songs match " ++ isolated.name))
      modify (·.modifyBrowser (·.push (isolated.sortByTags order)))

/-- A tag of a song as it is shown. -/
def tagMessage (song : Song) (tag : String) : String :=
  tag ++ ": " ++ (song.tag? tag).getD "<unknown>"

/-- Shows tags of the song under the cursor. -/
def print : Command (Session σ) :=
  simple .someTags fun tags => do
    match (← get).browser.cursorSong? with
    | none => throw (.failed "Cannot print: no song under cursor")
    | some song => inform (String.intercalate ", " (tags.map (tagMessage song)))

end Jukebox.Command
