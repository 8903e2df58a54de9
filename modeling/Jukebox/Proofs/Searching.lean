import Mathlib.Data.List.Infix
import Jukebox.Songlist.Browser

/-
# What a search finds

A search should find the songs that have the term in one of their tags, in whatever case. It looks at
the sorting forms of the tags instead. Most of them are the tags in small letters, and those that stand
in for a missing tag are copies of others or empty, so for most songs this comes to the same. The track
is different: its sorting form is the padded number that it begins with, and the rest is cut off. A
search by digits can therefore find a song whose tags do not have the term, and miss one whose track
does. These are the only songs it is wrong about.
-/

namespace Jukebox

namespace Text

theorem occursIn_iff (needle text : List Char) : occursIn needle text ↔ needle <:+: text := by
  induction text with
  | nil => rw [occursIn, List.isEmpty_iff, List.infix_nil]
  | cons c text ih =>
    rw [occursIn, Bool.or_eq_true, List.isPrefixOf_iff_prefix, ih, List.infix_cons_iff]

theorem lowerChar_ne_nil (c : Char) : lowerChar c ≠ [] := by
  unfold lowerChar
  split
  · exact List.cons_ne_nil _ _
  · split
    · exact List.cons_ne_nil _ _
    · split <;> exact List.cons_ne_nil _ _

/-- No character is lost in small letters, so only the empty text is empty in them. -/
theorem toList_lowercase_ne_nil {text : String} (h : text ≠ "") : (lowercase text).toList ≠ [] := by
  rw [lowercase, String.toList_ofList]
  cases htext : text.toList with
  | nil => exact absurd (String.toList_eq_nil_iff.1 htext) h
  | cons c rest =>
    rw [lowerFrom]
    split
    · exact List.cons_ne_nil _ _
    · exact List.append_ne_nil_of_left_ne_nil (lowerChar_ne_nil c) _

end Text

open Text

namespace Song

variable {song : Song} {term : String}

/-- A tag of the song has the term in it, in whatever case. -/
def Contains (song : Song) (term : String) : Prop :=
  ∃ name value, song.tag? name = some value ∧
    (lowercase term).toList <:+: (lowercase value).toList

/-- A tag of the song that is not the track has the term in it. -/
def ContainsElsewhere (song : Song) (term : String) : Prop :=
  ∃ name value, song.tag? name = some value ∧ name ≠ "track" ∧
    (lowercase term).toList <:+: (lowercase value).toList

/-- The track begins with a number, the term is in the track or in the padded number but not in both,
and it is in no other tag. -/
def MisledByTrack (song : Song) (term : String) : Prop :=
  ∃ track ∈ song.tag? "track", ∃ number ∈ trackNumber? (lowercase track),
    ¬((lowercase term).toList <:+: (lowercase track).toList ↔
      (lowercase term).toList <:+: (padNumber 3 number).toList) ∧
    ¬song.ContainsElsewhere term

theorem mem_names_of_tag? {name value : String} (h : song.tag? name = some value) :
    name ∈ song.tags.map (·.1) := by
  obtain ⟨before, after, htags, -⟩ := List.lookup_eq_some_iff.1 h
  rw [htags]
  simp

/-- Only the tags of the song have to be looked through. -/
theorem exists_tag_iff {p : String → String → Prop} :
    (∃ name ∈ song.tags.map (·.1), ∃ value ∈ song.tag? name, p name value) ↔
      ∃ name value, song.tag? name = some value ∧ p name value :=
  ⟨fun ⟨name, _, value, htag, hp⟩ => ⟨name, value, htag, hp⟩,
    fun ⟨name, value, htag, hp⟩ => ⟨name, mem_names_of_tag? htag, value, htag, hp⟩⟩

instance (song : Song) (term : String) : Decidable (song.Contains term) :=
  decidable_of_iff _ exists_tag_iff

instance (song : Song) (term : String) : Decidable (song.ContainsElsewhere term) :=
  decidable_of_iff _ exists_tag_iff

instance (song : Song) (term : String) : Decidable (song.MisledByTrack term) := by
  unfold MisledByTrack
  infer_instance

/-- What stands in for a missing tag is another tag of the song or empty. -/
theorem sortTag_cases (song : Song) (name : String) :
    song.sortTag name = "" ∨ ∃ other key, song.ownKey? other = some key ∧ song.sortTag name = key := by
  unfold sortTag sortKey?
  split
  · next key hkey => exact .inr ⟨name, key, hkey, rfl⟩
  · split
    · cases hartist : song.ownKey? "artist" with
      | none => exact .inl rfl
      | some key => exact .inr ⟨"artist", key, hartist, rfl⟩
    · split
      · cases halbum : song.ownKey? "albumartist" with
        | some key => exact .inr ⟨"albumartist", key, halbum, rfl⟩
        | none =>
          cases hartist : song.ownKey? "artist" with
          | none => exact .inl rfl
          | some key => exact .inr ⟨"artist", key, hartist, rfl⟩
      · exact .inl rfl

/-- A search looks at the sorting forms of the tags that the song has. -/
theorem isMatch_iff {needle : String} (h : needle.toList ≠ []) :
    song.isMatch needle ↔
      ∃ name key, song.ownKey? name = some key ∧ needle.toList <:+: key.toList := by
  rw [isMatch, List.any_eq_true]
  simp only [occursIn_iff]
  constructor
  · rintro ⟨name, -, hneedle⟩
    rcases song.sortTag_cases name with hempty | ⟨other, key, hkey, hsame⟩
    · rw [hempty] at hneedle
      exact absurd (List.infix_nil.1 hneedle) h
    · exact ⟨other, key, hkey, hsame ▸ hneedle⟩
  · rintro ⟨name, key, hkey, hneedle⟩
    have hsort : song.sortTag name = key := by rw [sortTag, sortKey?, hkey]; rfl
    obtain ⟨value, htag, -⟩ := Option.map_eq_some_iff.1 hkey
    exact ⟨name, List.mem_append_left _ (mem_names_of_tag? htag), hsort ▸ hneedle⟩

theorem ownKey?_of_ne_track {name : String} (h : name ≠ "track") (song : Song) :
    song.ownKey? name = (song.tag? name).map lowercase := by
  simp [ownKey?, h]

/-- What a search looks at in the track. -/
theorem ownKey?_track (song : Song) :
    song.ownKey? "track" = (song.tag? "track").map fun track => trackKey (lowercase track) := by
  simp [ownKey?]

/-- A search finds a song with the term in another tag than the track. -/
theorem isMatch_of_containsElsewhere (hterm : term ≠ "") (h : song.ContainsElsewhere term) :
    song.isMatch (lowercase term) ∧ song.Contains term := by
  obtain ⟨name, value, htag, hname, hvalue⟩ := h
  refine ⟨?_, ⟨name, value, htag, hvalue⟩⟩
  rw [isMatch_iff (toList_lowercase_ne_nil hterm)]
  exact ⟨name, lowercase value, by rw [ownKey?_of_ne_track hname, htag]; rfl, hvalue⟩

/-- If the term is in no other tag, it is all up to the track. -/
theorem isMatch_iff_of_not_containsElsewhere (hterm : term ≠ "")
    (h : ¬song.ContainsElsewhere term) :
    (song.isMatch (lowercase term) ↔ ∃ track ∈ song.tag? "track",
      (lowercase term).toList <:+: (trackKey (lowercase track)).toList) ∧
    (song.Contains term ↔ ∃ track ∈ song.tag? "track",
      (lowercase term).toList <:+: (lowercase track).toList) := by
  constructor
  · rw [isMatch_iff (toList_lowercase_ne_nil hterm)]
    constructor
    · rintro ⟨name, key, hkey, hneedle⟩
      by_cases hname : name = "track"
      · rw [hname, ownKey?_track, Option.map_eq_some_iff] at hkey
        obtain ⟨track, htrack, rfl⟩ := hkey
        exact ⟨track, htrack, hneedle⟩
      · rw [ownKey?_of_ne_track hname, Option.map_eq_some_iff] at hkey
        obtain ⟨value, htag, rfl⟩ := hkey
        exact absurd ⟨name, value, htag, hname, hneedle⟩ h
    · rintro ⟨track, htrack, hneedle⟩
      rw [Option.mem_def] at htrack
      exact ⟨"track", trackKey (lowercase track), by rw [ownKey?_track, htrack]; rfl, hneedle⟩
  · constructor
    · rintro ⟨name, value, htag, hvalue⟩
      by_cases hname : name = "track"
      · exact ⟨value, hname ▸ htag, hvalue⟩
      · exact absurd ⟨name, value, htag, hname, hvalue⟩ h
    · rintro ⟨track, htrack, hvalue⟩
      exact ⟨"track", track, htrack, hvalue⟩

theorem trackKey_of_trackNumber? {track : String} {number : Nat}
    (h : trackNumber? track = some number) : trackKey track = padNumber 3 number := by
  unfold trackKey
  rw [h]

theorem trackKey_of_eq_none {track : String} (h : trackNumber? track = none) :
    trackKey track = track := by
  unfold trackKey
  rw [h]

/-- A search is right about a song just if its track does not mislead. -/
theorem isMatch_iff_contains_iff (hterm : term ≠ "") (song : Song) :
    song.isMatch (lowercase term) ↔ (song.Contains term ↔ ¬song.MisledByTrack term) := by
  by_cases helsewhere : song.ContainsElsewhere term
  · obtain ⟨hmatch, hcontains⟩ := isMatch_of_containsElsewhere hterm helsewhere
    have hright : ¬song.MisledByTrack term := fun ⟨_, _, _, _, _, hnot⟩ => hnot helsewhere
    simp only [hmatch, hcontains, hright, not_false_eq_true]
  · obtain ⟨hmatch, hcontains⟩ := isMatch_iff_of_not_containsElsewhere hterm helsewhere
    rw [hmatch, hcontains]
    by_cases hnumber :
        ∃ track ∈ song.tag? "track", ∃ number, trackNumber? (lowercase track) = some number
    · obtain ⟨track, htrack, number, hnumber⟩ := hnumber
      have hone {p : String → Prop} : (∃ value ∈ song.tag? "track", p value) ↔ p track :=
        ⟨fun ⟨_, hvalue, hp⟩ => Option.mem_unique hvalue htrack ▸ hp,
          fun hp => ⟨track, htrack, hp⟩⟩
      have hmisled : song.MisledByTrack term ↔
          ¬((lowercase term).toList <:+: (lowercase track).toList ↔
            (lowercase term).toList <:+: (padNumber 3 number).toList) := by
        unfold MisledByTrack
        rw [hone]
        constructor
        · rintro ⟨_, hnumber', hdiffer, -⟩
          exact Option.mem_unique hnumber' hnumber ▸ hdiffer
        · exact fun hdiffer => ⟨number, hnumber, hdiffer, helsewhere⟩
      rw [hone, hone, trackKey_of_trackNumber? hnumber, hmisled, not_not]
      by_cases hvalue : (lowercase term).toList <:+: (lowercase track).toList
      · simp only [hvalue, true_iff]
      · simp only [hvalue, false_iff, not_not]
    · have hright : ¬song.MisledByTrack term :=
        fun ⟨track, htrack, number, hfound, _⟩ => hnumber ⟨track, htrack, number, hfound⟩
      have hsame {track : String} (htrack : track ∈ song.tag? "track") :
          trackKey (lowercase track) = lowercase track := by
        refine trackKey_of_eq_none (Option.eq_none_iff_forall_ne_some.2 fun number hfound => ?_)
        exact hnumber ⟨track, htrack, number, hfound⟩
      simp only [hright, not_false_eq_true, iff_true]
      constructor
      · rintro ⟨track, htrack, hvalue⟩
        exact ⟨track, htrack, hsame htrack ▸ hvalue⟩
      · rintro ⟨track, htrack, hvalue⟩
        exact ⟨track, htrack, (hsame htrack).symm ▸ hvalue⟩

end Song

/-- A search shows the songs of the library, in order, that have the term in a tag, but it is wrong
about those that their track misleads it about. So it shows just the songs that have the term if there
is none of these in the library, and only then. -/
theorem Browser.search_finds {b : Browser} {library : Songlist} {term : String}
    (hlibrary : b.list? .library = some library) (hterm : term ≠ "") :
    (b.showSearch term).search.map (·.songs) =
        some (library.songs.filter fun song => song.Contains term ↔ ¬song.MisledByTrack term) ∧
    ((b.showSearch term).search.map (·.songs) =
        some (library.songs.filter fun song => song.Contains term) ↔
      ∀ song ∈ library.songs, ¬song.MisledByTrack term) := by
  have hfound : (b.showSearch term).search.map (·.songs) =
      some (library.songs.filter fun song => song.Contains term ↔ ¬song.MisledByTrack term) := by
    rw [showSearch, if_neg hterm, hlibrary]
    refine congrArg some (List.filter_congr fun song _ => ?_)
    rw [Bool.eq_iff_iff, song.isMatch_iff_contains_iff hterm, decide_eq_true_iff]
  refine ⟨hfound, ?_⟩
  rw [hfound, Option.some.injEq]
  constructor
  · intro hsame song hmem hmisled
    have hiff : song ∈ library.songs.filter
          (fun song => song.Contains term ↔ ¬song.MisledByTrack term) ↔
        song ∈ library.songs.filter fun song => song.Contains term := by rw [hsame]
    simp only [List.mem_filter, hmem, true_and, decide_eq_true_iff, hmisled, not_true_eq_false,
      iff_false] at hiff
    exact not_iff_self hiff
  · intro hright
    refine List.filter_congr fun song hmem => ?_
    rw [Bool.eq_iff_iff, decide_eq_true_iff, decide_eq_true_iff]
    exact iff_true_right (hright song hmem)

/-- Two songs of an album of twelve. -/
def fourthOfTwelve : List Song :=
  [.ofTags [("file", "a.flac"), ("track", "4/12"), ("title", "Drift")],
    .ofTags [("file", "b.flac"), ("track", "5/12"), ("title", "DRIFTWOOD")]]

/-- A title is found in whatever case it is searched for. -/
theorem search_finds_titles :
    (({} : Browser).replace .library fourthOfTwelve).list? .library =
        some { name := "Library", kind := .library, songs := fourthOfTwelve } ∧
    "drift" ≠ "" ∧ (∀ song ∈ fourthOfTwelve, ¬song.MisledByTrack "drift") ∧
    ((({} : Browser).replace .library fourthOfTwelve).showSearch "drift").search.map (·.songs) =
      some fourthOfTwelve := by
  have hlibrary : (({} : Browser).replace .library fourthOfTwelve).list? .library =
      some { name := "Library", kind := .library, songs := fourthOfTwelve } := by decide +kernel
  have hright : ∀ song ∈ fourthOfTwelve, ¬song.MisledByTrack "drift" := by decide +kernel
  refine ⟨hlibrary, by decide, hright, ?_⟩
  rw [(Browser.search_finds hlibrary (by decide)).2.2 hright]
  decide +kernel

/-- The number of tracks is in both tracks, but no song is found by it; and one is found by the padded
number of its track, which it has in no tag. -/
theorem search_misses_track_total :
    (∀ song ∈ fourthOfTwelve, song.Contains "/12") ∧
    ((({} : Browser).replace .library fourthOfTwelve).showSearch "/12").search.map (·.songs) =
      some [] ∧
    (∀ song ∈ fourthOfTwelve, ¬song.Contains "004") ∧
    ((({} : Browser).replace .library fourthOfTwelve).showSearch "004").search.map (·.songs) =
      some (fourthOfTwelve.take 1) := by
  decide +kernel

end Jukebox
