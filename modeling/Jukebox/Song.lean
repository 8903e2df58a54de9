import Jukebox.Text.Blank
import Jukebox.Text.Decimal
import Jukebox.Text.LetterCase
import Jukebox.Text.Split

/-
# Songs

A song is a set of tags, named in small letters. Three of them are also numbers: the id and the
position that a song has while it is in the queue, and its length in seconds. Next to each tag
stands the form of it that songs are ordered, grouped and searched by: small letters throughout,
track numbers padded so that their order is that of the numbers, and artist and album artist
standing in for the tags that are often left out.
-/

namespace Jukebox

open Text

/-- Tags by name, each name at most once. -/
abbrev Tags := List (String × String)

/-- Sets a tag, in place of the value it had. -/
def Tags.set (tags : Tags) (name value : String) : Tags :=
  (name, value) :: tags.filter (·.1 ≠ name)

@[simp] theorem Tags.lookup_set_self (tags : Tags) (name value : String) :
    (tags.set name value).lookup name = some value := by
  simp [Tags.set]

/-- A number with at least `width` digits, filled up with zeros from the left. -/
def padNumber (width n : Nat) : String :=
  let digits := toString n
  String.ofList (List.replicate (width - digits.length) '0') ++ digits

/-- A length in minutes and seconds. -/
def formatTime : Option Nat → String
  | some seconds => toString (seconds / 60) ++ ":" ++ padNumber 2 (seconds % 60)
  | none => "--:--"

/-- A song, as the server describes it. -/
structure Song where
  /-- The id of its entry, if the song is in the queue. -/
  id : Option Nat := none
  /-- Its place in the queue, counted from zero. -/
  position : Option Nat := none
  /-- Its length in whole seconds. -/
  time : Option Nat := none
  tags : Tags := []
deriving DecidableEq, Repr, Inhabited

namespace Song

/-- The length of a song, from the tag in whole seconds or else from the exact one. -/
def lengthOf (tags : Tags) : Option Nat :=
  match tags.lookup "time" >>= readNat? maxWord with
  | some seconds => some seconds
  | none => (tags.lookup "duration" >>= readFloat?).map nearestSeconds

/-- The year is what a date begins with, if it is long enough. -/
def yearOf (tags : Tags) : Option String :=
  match tags.lookup "date" with
  | some date =>
    if 4 ≤ date.length then some (String.ofList (date.toList.take 4)) else none
  | none => none

/-- The song with the given tags. Of several tags with one name the last counts. The time is kept in
the form in which it is shown, and a date gives the year. -/
def ofTags (pairs : List (String × String)) : Song :=
  let tags : Tags := pairs.foldl (fun tags (name, value) => tags.set (lowercase name) value) []
  let time := lengthOf tags
  let timed := tags.set "time" (formatTime time)
  { id := tags.lookup "id" >>= readNat? maxWord
    position := tags.lookup "pos" >>= readNat? maxLong
    time := time
    tags := match yearOf tags with
      | some year => timed.set "year" year
      | none => timed }

/-- A tag of the song. -/
def tag? (song : Song) (name : String) : Option String := song.tags.lookup name

/-- Where the song is on the server. -/
def file? (song : Song) : Option String := song.tag? "file"

/-- Whether the song has one of the tags. -/
def hasOneOf (song : Song) (names : List String) : Bool :=
  names.any fun name => (song.tag? name).isSome

/-- The number that a track tag begins with, before a slash. -/
def trackNumber? (track : String) : Option Nat :=
  readNat? maxWord (trim (String.ofList (track.toList.takeWhile (· ≠ '/'))))

/-- A track tag in a form whose order is that of the numbers, as long as they have three digits. -/
def trackKey (track : String) : String :=
  match trackNumber? track with
  | some n => padNumber 3 n
  | none => track

/-- The sorting form of a tag that the song has. -/
def ownKey? (song : Song) (name : String) : Option String :=
  (song.tag? name).map fun value =>
    if name = "track" then trackKey (lowercase value) else lowercase value

/-- The sorting form of a tag. Artists stand in for missing sort names and album artists; nothing
stands in for other tags. -/
def sortKey? (song : Song) (name : String) : Option String :=
  match song.ownKey? name with
  | some key => some key
  | none =>
    if name = "artistsort" ∨ name = "albumartist" then some ((song.ownKey? "artist").getD "")
    else if name = "albumartistsort" then
      some (((song.ownKey? "albumartist").or (song.ownKey? "artist")).getD "")
    else none

/-- What the song is ordered and grouped by under a tag; empty if it has nothing to go by. -/
def sortTag (song : Song) (name : String) : String := (song.sortKey? name).getD ""

/-- The names of the tags that have a sorting form. -/
def sortNames (song : Song) : List String :=
  song.tags.map (·.1) ++ ["artistsort", "albumartist", "albumartistsort"]

/-- Whether some sorting form contains the text, which is given in small letters. -/
def isMatch (song : Song) (needle : String) : Bool :=
  song.sortNames.any fun name => occursIn needle.toList (song.sortTag name).toList

end Song

end Jukebox
