import Mathlib.Data.List.Nodup
import Jukebox.Proofs.Restoring

/-
# What a list knows of the queue

A list that shows the queue of a server is not loaded anew after every change. What it knows of its
songs stays right as far as it goes: as no id is ever given twice, a song that the server has under an
id that the list knows is the song that the list shows. The places that it knows may be those of long
ago; all that is certain of them is that they rise.
-/

namespace Jukebox.QueueServer

open Service

/-- What is known of some songs is right of those among them that the server still has. -/
structure BearsOut (s : QueueServer) (known : List QueueEntry) : Prop where
  rising : known.Pairwise (·.position < ·.position)
  distinct : (known.map (·.id)).Nodup
  old : ∀ entry ∈ known, entry.id < s.nextId
  file : ∀ entry ∈ known, ∀ there ∈ s.entries, there.1 = entry.id → there.2 = entry.file

/-- What there is to know of the songs of a queue. -/
def listing (s : QueueServer) : List QueueEntry :=
  s.entries.mapIdx fun row entry => ⟨entry.1, row, entry.2⟩

/-- What is listed of a song is about the song in its place. -/
theorem getElem?_of_mem_listing {s : QueueServer} {entry : QueueEntry} (h : entry ∈ s.listing) :
    s.entries[entry.position]? = some (entry.id, entry.file) := by
  obtain ⟨row, hrow⟩ := List.mem_iff_getElem?.1 h
  rw [listing, List.getElem?_mapIdx] at hrow
  obtain ⟨there, hthere, rfl⟩ := Option.map_eq_some_iff.1 hrow
  exact hthere

variable {s t : QueueServer} {known gone : List QueueEntry}

theorem bearsOut_listing (s : QueueServer) : s.BearsOut s.listing where
  rising := by
    rw [List.pairwise_iff_getElem]
    intro i j hi hj hless
    simpa [listing] using hless
  distinct := by
    have hids : s.listing.map (·.id) = s.entries.map Prod.fst := by
      apply List.ext_getElem?
      intro row
      simp [listing, Function.comp_def]
    rw [hids]
    exact s.nodup
  old entry hentry := s.fresh _ (List.mem_of_getElem? (getElem?_of_mem_listing hentry))
  file entry hentry there hthere hid := by
    have hplace := getElem?_of_mem_listing hentry
    obtain ⟨row, hrow⟩ := List.mem_iff_getElem?.1 hthere
    rw [row_eq_of_id_eq s.nodup hrow hplace hid, hplace] at hrow
    exact congrArg Prod.snd (Option.some.inj hrow).symm

theorem BearsOut.sublist (h : s.BearsOut known) (hpart : List.Sublist gone known) :
    s.BearsOut gone where
  rising := h.rising.sublist hpart
  distinct := h.distinct.sublist (hpart.map _)
  old entry hentry := h.old entry (hpart.subset hentry)
  file entry hentry := h.file entry (hpart.subset hentry)

/-- Whatever the server is asked, it goes on bearing out what was known. -/
theorem BearsOut.later (h : s.BearsOut known) (hlater : Later s t) : t.BearsOut known := by
  obtain ⟨hnext, hmem⟩ := mem_entries_later hlater
  refine ⟨h.rising, h.distinct, ?_, ?_⟩
  · intro entry hentry
    exact Nat.lt_of_lt_of_le (h.old entry hentry) hnext
  · intro entry hentry there hthere hid
    rcases hmem there hthere with hold | hnew
    · exact h.file entry hentry there hold hid
    · have := h.old entry hentry
      omega

theorem BearsOut.mem_entries (h : s.BearsOut known) {entry : QueueEntry} (hentry : entry ∈ known)
    (hid : entry.id ∈ s.ids) : (entry.id, entry.file) ∈ s.entries := by
  obtain ⟨there, hthere, hsame⟩ := List.mem_map.1 hid
  rw [← h.file entry hentry there hthere hsame, ← hsame]
  exact hthere

/-- Where songs can be told apart, a song is in the row in which it is found. -/
theorem getElem?_entries_of_uris (hdistinct : s.uris.Nodup) {id row : Nat} {uri : String}
    (hmem : (id, uri) ∈ s.entries) (hrow : s.uris[row]? = some uri) :
    s.entries[row]? = some (id, uri) := by
  obtain ⟨place, hplace⟩ := List.mem_iff_getElem?.1 hmem
  have huri : s.uris[place]? = some uri := by
    rw [uris, List.getElem?_map, hplace]
    rfl
  rw [row_eq_of_nodup hdistinct hrow huri]
  exact hplace

section Missing

variable {later : QueueServer} (hids : ∀ id ∈ s.ids, id ∉ later.ids ↔ id ∈ gone.map (·.id))

include hids

/-- The songs that are missing are told by their ids. -/
theorem BearsOut.filter_missing (h : s.BearsOut known) (hgone : List.Sublist gone known)
    (hknown : ∀ entry ∈ gone, entry.id ∈ s.ids) :
    known.filter (fun entry => entry.id ∈ s.ids ∧ entry.id ∉ later.ids) = gone := by
  rw [← filter_mem_eq_of_sublist hgone (List.Nodup.of_map _ h.distinct)]
  refine List.filter_congr fun entry hentry => decide_eq_decide.2 ⟨?_, fun hmem => ?_⟩
  · rintro ⟨hid, hout⟩
    obtain ⟨other, hother, hsame⟩ := List.mem_map.1 ((hids entry.id hid).1 hout)
    rw [← List.inj_on_of_nodup_map h.distinct (hgone.subset hother) hentry hsame]
    exact hother
  · have hid := hknown entry hmem
    exact ⟨hid, (hids entry.id hid).2 (List.mem_map_of_mem hmem)⟩

/-- The songs that are not missing are those that were not deleted. -/
theorem Deleted.filter_remaining (h : s.Deleted gone t) :
    (s.entries.filter (·.1 ∈ later.ids)).map Prod.snd = t.uris := by
  rw [uris, h.entries]
  refine congrArg (List.map Prod.snd) (List.filter_congr fun entry hentry => decide_eq_decide.2 ?_)
  have hid := hids entry.1 (List.mem_map_of_mem hentry)
  rw [← hid, not_not]

end Missing

end Jukebox.QueueServer
