import Mathlib.Logic.ExistsUnique
import Jukebox.Wire.Response

/-
# Listings of songs

A listing names one thing after another: a song, a directory or a playlist. Each opens with a pair that
says where it is, and goes on with whatever else is told of it; what comes before the first of them is
told of nothing. All pairs that a server can send are such a listing, and in one way only. Of a listing
the songs are kept, each with all that is told of it, and of the other entries nothing ends up in a song.
-/

namespace Jukebox.Wire

/-- What an entry of a listing is about. -/
inductive EntryKind where
  | song | directory | playlist
deriving DecidableEq, Repr

namespace EntryKind

/-- The key that an entry opens with. -/
def key : EntryKind → String
  | song => "file"
  | directory => "directory"
  | playlist => "playlist"

/-- What a pair with a key opens, if it opens an entry. -/
def ofKey? (key : String) : Option EntryKind :=
  if key = "file" then some song
  else if key = "directory" then some directory
  else if key = "playlist" then some playlist
  else none

theorem ofKey?_key (kind : EntryKind) : ofKey? kind.key = some kind := by
  cases kind <;> decide

theorem key_of_ofKey? {key : String} {kind : EntryKind} (h : ofKey? key = some kind) :
    kind.key = key := by
  unfold ofKey? at h
  split at h
  · next hkey => cases h; exact hkey.symm
  · split at h
    · next hkey => cases h; exact hkey.symm
    · split at h
      · next hkey => cases h; exact hkey.symm
      · cases h

end EntryKind

/-- Pairs that open no entry. -/
def Continues (pairs : Pairs) : Prop := ∀ pair ∈ pairs, ∀ kind : EntryKind, pair.1 ≠ kind.key

/-- What is told of one thing. -/
structure Entry where
  kind : EntryKind
  /-- Where it is on the server. -/
  place : String
  details : Pairs
  continues : Continues details

/-- A listing as it is meant. -/
@[ext]
structure Listing where
  leading : Pairs
  entries : List Entry
  continues : Continues leading

/-- All that is told of an entry. -/
def Entry.pairs (entry : Entry) : Pairs := (entry.kind.key, entry.place) :: entry.details

/-- The songs that entries are about, each with all that is told of it. -/
def songsAmong (entries : List Entry) : List Song :=
  (entries.filter (·.kind = .song)).map fun entry => Song.ofTags entry.pairs

/-- A listing as it is sent. -/
def Listing.pairs (listing : Listing) : Pairs :=
  listing.leading ++ listing.entries.flatMap Entry.pairs

theorem continues_cons {pair : String × String} {pairs : Pairs} :
    Continues (pair :: pairs) ↔ EntryKind.ofKey? pair.1 = none ∧ Continues pairs := by
  have hopens : (∀ kind : EntryKind, pair.1 ≠ kind.key) ↔ EntryKind.ofKey? pair.1 = none := by
    rw [Option.eq_none_iff_forall_ne_some]
    constructor
    · intro h kind hkind
      exact h kind (EntryKind.key_of_ofKey? hkind).symm
    · intro h kind hkey
      exact h kind (hkey ▸ EntryKind.ofKey?_key kind)
  rw [Continues, List.forall_mem_cons, hopens]
  rfl

/-! ### Pairs as a listing -/

/-- Puts a pair at the start of a listing. -/
def Listing.cons (pair : String × String) (listing : Listing) : Listing :=
  match h : EntryKind.ofKey? pair.1 with
  | some kind => {
      leading := []
      entries := ⟨kind, pair.2, listing.leading, listing.continues⟩ :: listing.entries
      continues := nofun }
  | none => { listing with
      leading := pair :: listing.leading
      continues := continues_cons.2 ⟨h, listing.continues⟩ }

/-- Takes pairs for a listing. -/
def Listing.ofPairs : Pairs → Listing
  | [] => ⟨[], [], nofun⟩
  | pair :: pairs => (ofPairs pairs).cons pair

theorem Listing.pairs_cons (pair : String × String) (listing : Listing) :
    (listing.cons pair).pairs = pair :: listing.pairs := by
  unfold cons
  split
  · next kind hkind =>
    simp [pairs, Entry.pairs, EntryKind.key_of_ofKey? hkind]
  · rfl

theorem Listing.pairs_ofPairs (pairs : Pairs) : (ofPairs pairs).pairs = pairs := by
  induction pairs with
  | nil => rfl
  | cons pair pairs ih => rw [ofPairs, pairs_cons, ih]

/-- Pairs that open no entry are told of what comes before them. -/
theorem Listing.ofPairs_append {leading : Pairs} (h : Continues leading) (rest : Pairs) :
    (ofPairs (leading ++ rest)).leading = leading ++ (ofPairs rest).leading ∧
      (ofPairs (leading ++ rest)).entries = (ofPairs rest).entries := by
  induction leading with
  | nil => exact ⟨rfl, rfl⟩
  | cons pair leading ih =>
    obtain ⟨hpair, hrest⟩ := continues_cons.1 h
    obtain ⟨hleading, hentries⟩ := ih hrest
    rw [List.cons_append, ofPairs, cons]
    split
    · next kind hkind => cases hpair.symm.trans hkind
    · exact ⟨congrArg (pair :: ·) hleading, hentries⟩

/-- The pairs of entries are taken for these entries. -/
theorem Listing.ofPairs_entries (entries : List Entry) :
    ofPairs (entries.flatMap Entry.pairs) = ⟨[], entries, nofun⟩ := by
  induction entries with
  | nil => rfl
  | cons entry entries ih =>
    obtain ⟨kind, place, details, hdetails⟩ := entry
    obtain ⟨hleading, hentries⟩ := ofPairs_append hdetails (entries.flatMap Entry.pairs)
    have hopens := EntryKind.ofKey?_key kind
    rw [ih] at hleading hentries
    rw [List.append_nil] at hleading
    change (ofPairs (details ++ entries.flatMap Entry.pairs)).cons (kind.key, place) = _
    rw [cons]
    split
    · next found hfound =>
      cases hopens.symm.trans hfound
      simp only [hleading, hentries]
    · next hnone => cases hopens.symm.trans hnone

/-- Pairs are a listing in one way only. -/
theorem Listing.ofPairs_pairs (listing : Listing) : ofPairs listing.pairs = listing := by
  obtain ⟨hleading, hentries⟩ :=
    ofPairs_append listing.continues (listing.entries.flatMap Entry.pairs)
  rw [ofPairs_entries] at hleading hentries
  rw [List.append_nil] at hleading
  exact Listing.ext hleading hentries

/-! ### The songs of a listing -/

variable (songs : List Song)

/-- Pairs that open no entry belong to the song that is being listed, if one is. -/
theorem collectSongs_append {details : Pairs} (h : Continues details) (current : Option Pairs)
    (rest : Pairs) :
    collectSongs songs current (details ++ rest) =
      collectSongs songs (current.map (· ++ details)) rest := by
  induction details generalizing current with
  | nil => simp
  | cons pair details ih =>
    obtain ⟨key, value⟩ := pair
    obtain ⟨hkey, hdetails⟩ := List.forall_mem_cons.1 h
    have hsong : key ≠ "file" := hkey .song
    have hother : ¬ (key = "directory" ∨ key = "playlist") :=
      not_or.2 ⟨hkey .directory, hkey .playlist⟩
    rw [List.cons_append, collectSongs, if_neg hsong, if_neg hother, ih hdetails]
    cases current <;> simp

/-- The pair that opens an entry completes the song before it, and lists a song if that is what the
entry is about. -/
theorem collectSongs_key (kind : EntryKind) (place : String) (current : Option Pairs) (rest : Pairs) :
    collectSongs songs current ((kind.key, place) :: rest) =
      collectSongs (songs ++ (current.map Song.ofTags).toList)
        (if kind = .song then some [(kind.key, place)] else none) rest := by
  cases kind <;> rfl

/-- Whatever song is being listed is complete where the entries begin, and the songs among them
follow it. -/
theorem collectSongs_entries (current : Option Pairs) (entries : List Entry) :
    collectSongs songs current (entries.flatMap Entry.pairs) =
      songs ++ (current.map Song.ofTags).toList ++ songsAmong entries := by
  induction entries generalizing songs current with
  | nil => simp [collectSongs, songsAmong]
  | cons entry entries ih =>
    rw [List.flatMap_cons, Entry.pairs, List.cons_append, collectSongs_key,
      collectSongs_append _ entry.continues, ih, List.append_assoc]
    by_cases hkind : entry.kind = .song
    · simp [hkind, songsAmong, Entry.pairs]
    · simp [hkind, songsAmong]

/-- All pairs are a listing in just one way, and the songs that are read from them are those that its
entries are about, in order and each with all that is told of it. -/
theorem listed_songs_are_read :
    (∀ pairs : Pairs, ∃! listing : Listing, listing.pairs = pairs) ∧
    ∀ listing : Listing, songsOf listing.pairs =
      (listing.entries.filter (·.kind = .song)).map fun entry => Song.ofTags entry.pairs := by
  constructor
  · intro pairs
    refine ⟨.ofPairs pairs, Listing.pairs_ofPairs pairs, ?_⟩
    rintro listing rfl
    exact listing.ofPairs_pairs.symm
  · intro listing
    rw [songsOf, Listing.pairs, collectSongs_append [] listing.continues, Option.map_none,
      collectSongs_entries]
    rfl

end Jukebox.Wire
