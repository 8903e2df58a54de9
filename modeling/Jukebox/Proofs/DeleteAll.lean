import Mathlib.Data.List.Nodup
import Jukebox.Proofs.Restoring

/-
# Deleting many songs is one act

Songs of the queue are deleted in the order of the queue, whatever order they are given in. Either
all of them are deleted, or the first that the server does not delete ends it: then that refusal is
reported, and the queue holds the songs that it held before, in the same order.
-/

namespace Jukebox

open Service

theorem Song.queueEntry?_eq_some_iff {song : Song} {entry : QueueEntry} :
    song.queueEntry? = some entry ↔
      song.id = some entry.id ∧ song.position = some entry.position ∧
        song.file? = some entry.file := by
  unfold queueEntry?
  cases song.id with
  | none => simp
  | some id =>
    cases song.position with
    | none => simp
    | some position =>
      cases song.file? with
      | none => simp
      | some file => cases entry; simp

theorem Song.queueEntry?_eq_none_iff {song : Song} :
    song.queueEntry? = none ↔ song.id = none ∨ song.position = none ∨ song.file? = none := by
  unfold queueEntry?
  cases song.id with
  | none => simp
  | some id =>
    cases song.position with
    | none => simp
    | some position => cases song.file? <;> simp

/-- Where no two songs have one place, the sorted places rise. -/
theorem mergeSort_rising {entries : List QueueEntry}
    (hdistinct : (entries.map (·.position)).Nodup) :
    (entries.mergeSort fun a b => a.position ≤ b.position).Pairwise
      (·.position < ·.position) := by
  have hsorted : (entries.mergeSort fun a b => a.position ≤ b.position).Pairwise
      fun a b => decide (a.position ≤ b.position) = true := by
    refine List.pairwise_mergeSort (fun a b c hab hbc => ?_) (fun a b => ?_) entries
    · exact decide_eq_true (Nat.le_trans (of_decide_eq_true hab) (of_decide_eq_true hbc))
    · simpa using Nat.le_total a.position b.position
  have hnodup := ((List.mergeSort_perm entries fun a b => a.position ≤ b.position).map
    (·.position)).nodup_iff.2 hdistinct
  exact (hsorted.and (List.pairwise_map.1 hnodup)).imp fun h =>
    Nat.lt_of_le_of_ne (of_decide_eq_true h.1) h.2

namespace QueueServer

/-- A song is what the server has in a row of its queue. -/
def Agrees (s : QueueServer) (song : Song) : Prop :=
  ∃ entry, song.queueEntry? = some entry ∧
    s.entries[entry.position]? = some (entry.id, entry.file)

/-- The requests to delete some songs, in the order of the queue. -/
def deletions (s : QueueServer) (songs : List Song) : List Request :=
  (s.entries.filter fun entry => some entry.1 ∈ songs.map (·.id)).map fun entry => .delete entry.1

variable {s : QueueServer} {songs : List Song} {entries : List QueueEntry}

theorem exists_entries (hagrees : ∀ song ∈ songs, s.Agrees song) :
    ∃ entries : List QueueEntry, songs.map Song.queueEntry? = entries.map some ∧
      ∀ entry ∈ entries, s.entries[entry.position]? = some (entry.id, entry.file) := by
  induction songs with
  | nil => exact ⟨[], rfl, nofun⟩
  | cons song songs ih =>
    rw [List.forall_mem_cons] at hagrees
    obtain ⟨entry, hentry, hplace⟩ := hagrees.1
    obtain ⟨entries, hentries, hplaces⟩ := ih hagrees.2
    refine ⟨entry :: entries, ?_, List.forall_mem_cons.2 ⟨hplace, hplaces⟩⟩
    rw [List.map_cons, List.map_cons, hentry, hentries]

theorem map_id_of_entries (hentries : songs.map Song.queueEntry? = entries.map some) :
    songs.map (·.id) = entries.map (some ·.id) := by
  induction songs generalizing entries with
  | nil =>
    cases entries with
    | nil => rfl
    | cons => cases hentries
  | cons song songs ih =>
    cases entries with
    | nil => cases hentries
    | cons entry entries =>
      rw [List.map_cons, List.map_cons, List.cons.injEq] at hentries
      rw [List.map_cons, List.map_cons, (Song.queueEntry?_eq_some_iff.1 hentries.1).1, ih hentries.2]

/-- Songs of the queue in the order of their places come in the order of the queue. -/
theorem deletions_eq (hmap : songs.map (·.id) = entries.map (some ·.id))
    {sorted : List QueueEntry} (hperm : sorted.Perm entries)
    (hrising : sorted.Pairwise (·.position < ·.position))
    (hplaces : ∀ entry ∈ sorted, s.entries[entry.position]? = some (entry.id, entry.file)) :
    s.deletions songs = sorted.map QueueEntry.deletion := by
  have hpart := filter_mem_eq_of_sublist (map_sublist_of_rising hrising hplaces)
    (List.Nodup.of_map Prod.fst s.nodup)
  have hsame : s.entries.filter (some ·.1 ∈ songs.map (·.id)) =
      s.entries.filter (· ∈ sorted.map fun entry => (entry.id, entry.file)) := by
    refine List.filter_congr fun old hold => decide_eq_decide.2 ?_
    obtain ⟨row, hrow⟩ := List.mem_iff_getElem?.1 hold
    constructor
    · intro hid
      rw [hmap] at hid
      obtain ⟨entry, hentry, heq⟩ := List.mem_map.1 hid
      have hplace := hplaces entry (hperm.mem_iff.2 hentry)
      have hsame := row_eq_of_id_eq s.nodup hplace hrow (Option.some.inj heq)
      rw [hsame, hrow] at hplace
      exact Option.some.inj hplace ▸ List.mem_map_of_mem (hperm.mem_iff.2 hentry)
    · intro hmem
      obtain ⟨entry, hentry, rfl⟩ := List.mem_map.1 hmem
      rw [hmap]
      exact List.mem_map_of_mem (hperm.mem_iff.1 hentry)
  unfold deletions
  rw [hsame, hpart, List.map_map]
  rfl

/-- Songs in the order of their places are all deleted, or the refusal of one leaves the queue as it
was. -/
theorem deleteFrom_all_or_nothing (haccepts : s.AcceptsInsertions)
    (hrising : entries.Pairwise (·.position < ·.position))
    (hplaces : ∀ entry ∈ entries, s.entries[entry.position]? = some (entry.id, entry.file)) :
    match firstRefusal? s.refusal s.received (entries.map QueueEntry.deletion) with
    | none =>
      ((deleteFrom [] entries : Exchange QueueServer Unit).run.run s).1 = .ok () ∧
      ((deleteFrom [] entries : Exchange QueueServer Unit).run.run s).2.entries =
        s.entries.filter (·.1 ∉ entries.map (·.id))
    | some message =>
      ((deleteFrom [] entries : Exchange QueueServer Unit).run.run s).1 =
        .error (.rejected message) ∧
      ((deleteFrom [] entries : Exchange QueueServer Unit).run.run s).2.uris = s.uris := by
  rcases deleteFrom_server_cases entries s with
    ⟨-, hok, hdeleted⟩ | ⟨entry, rest, message, reached, hentries, hdeleted, hrefused, hrun⟩
  · rw [hdeleted.granted]
    exact ⟨hok, hdeleted.entries⟩
  · generalize hgone : deletable entries s = gone at hentries hdeleted hrun
    have hentry : entry ∈ entries := hentries ▸ List.mem_append_right _ List.mem_cons_self
    obtain ⟨hplace, hdone⟩ : s.entries[entry.position]? = some (entry.id, entry.file) ∧
        ∀ done ∈ gone, s.entries[done.position]? = some (done.id, done.file) :=
      ⟨hplaces entry hentry, fun done hmem =>
        hplaces done (hentries ▸ List.mem_append_left _ hmem)⟩
    rw [hentries, List.pairwise_append] at hrising
    -- The server has the song, for the songs before it are others.
    have hmem : entry.id ∈ reached.ids := by
      refine hdeleted.mem_ids_iff.2 ⟨?_, fun hamong => ?_⟩
      · exact List.mem_map_of_mem (List.mem_of_getElem? hplace)
      · obtain ⟨done, hmem, hid⟩ := List.mem_map.1 hamong
        have hsame := row_eq_of_id_eq s.nodup (hdone done hmem) hplace hid
        have hless := hrising.2.2 done hmem entry List.mem_cons_self
        exact Nat.ne_of_lt hless hsame
    have hmessage : s.refusal (s.received + gone.length) entry.deletion = some message := by
      rw [← hdeleted.refusal, ← hdeleted.received]
      exact hrefused.resolve_right (absurd hmem)
    have hrefusal : firstRefusal? s.refusal s.received (entries.map QueueEntry.deletion) =
        some message := by
      rw [hentries, List.map_append, firstRefusal?_append, hdeleted.granted, Option.none_or,
        List.length_map, List.map_cons, firstRefusal?, hmessage, Option.some_or]
    rw [hrefusal, hrun]
    exact ⟨rfl, hdeleted.uris_restored_eq haccepts hrising.1 hdone⟩

end QueueServer

open QueueServer

/-- Songs of the queue, each given once and in any order, are all deleted if the server refuses to
delete none of them; what is left keeps its order. If it refuses one, then that is the error and the
queue holds the same songs in the same order as before. If one of the songs is not known to be in the
queue, then this is the error, and the service is asked nothing. -/
theorem deleteAll_all_or_nothing :
    (∀ (s : QueueServer) (songs : List Song), s.AcceptsInsertions → (songs.map (·.id)).Nodup →
      (∀ song ∈ songs, s.Agrees song) →
      match firstRefusal? s.refusal s.received (s.deletions songs) with
      | none =>
        ((deleteAll songs : Exchange QueueServer Unit).run.run s).1 = .ok () ∧
        ((deleteAll songs : Exchange QueueServer Unit).run.run s).2.entries =
          s.entries.filter (some ·.1 ∉ songs.map (·.id))
      | some message =>
        ((deleteAll songs : Exchange QueueServer Unit).run.run s).1 =
          .error (.rejected message) ∧
        ((deleteAll songs : Exchange QueueServer Unit).run.run s).2.uris = s.uris) ∧
    (∀ (σ : Type) [Service σ] (service : σ) (songs : List Song),
      (∃ song ∈ songs, song.id = none ∨ song.position = none ∨ song.file? = none) →
      (deleteAll songs : Exchange σ Unit).run.run service =
        (.error (.rejected "Song is not in the queue"), service)) := by
  constructor
  · intro s songs haccepts hdistinct hagrees
    obtain ⟨entries, hentries, hplaces⟩ := exists_entries hagrees
    have hmap := map_id_of_entries hentries
    have hids : (entries.map (·.id)).Nodup := by
      rw [hmap] at hdistinct
      exact List.pairwise_map.2 ((List.pairwise_map.1 hdistinct).imp fun hne heq =>
        hne (congrArg some heq))
    have hpositions : (entries.map (·.position)).Nodup := by
      refine List.pairwise_map.2 ((List.pairwise_map.1 hids).imp_of_mem ?_)
      intro a b ha hb hne hsame
      have hplace := hplaces a ha
      rw [hsame, hplaces b hb] at hplace
      exact hne (congrArg Prod.fst (Option.some.inj hplace)).symm
    have hperm := List.mergeSort_perm entries fun a b => a.position ≤ b.position
    have hrising := mergeSort_rising hpositions
    rw [deleteAll_of_map_eq hentries]
    generalize (entries.mergeSort fun a b => a.position ≤ b.position) = sorted at hperm hrising ⊢
    have hsorted : ∀ entry ∈ sorted, s.entries[entry.position]? = some (entry.id, entry.file) :=
      fun entry hentry => hplaces entry (hperm.mem_iff.1 hentry)
    have hleft : s.entries.filter (some ·.1 ∉ songs.map (·.id)) =
        s.entries.filter (·.1 ∉ sorted.map (·.id)) := by
      refine List.filter_congr fun old _ => decide_eq_decide.2 (not_congr ?_)
      rw [hmap, (hperm.map _).mem_iff]
      simp
    rw [deletions_eq hmap hperm hrising hsorted, hleft]
    exact deleteFrom_all_or_nothing haccepts hrising hsorted
  · intro σ _ service songs hlacks
    obtain ⟨song, hsong, hlack⟩ := hlacks
    rw [deleteAll_of_queueEntry?_eq_none hsong (Song.queueEntry?_eq_none_iff.2 hlack)]
    rfl

/-- A server with three songs in its queue that does not delete the last of them. -/
def keepsLast : QueueServer where
  entries := [(10, "a.flac"), (11, "b.flac"), (12, "c.flac")]
  nextId := 13
  nodup := by decide
  fresh := by decide
  refusal _ request := if request = .delete 12 then some "No such song" else none

/-- The last song and the first are to be deleted, and the first is put back; a song of the library is
not looked for in the queue. -/
theorem keepsLast_keeps_first :
    (keepsLast.AcceptsInsertions ∧
      ((deleteAll [describe 2 (12, "c.flac"), describe 0 (10, "a.flac")] :
          Exchange QueueServer Unit).run.run keepsLast).1 = .error (.rejected "No such song") ∧
      ((deleteAll [describe 2 (12, "c.flac"), describe 0 (10, "a.flac")] :
          Exchange QueueServer Unit).run.run keepsLast).2.uris =
        ["a.flac", "b.flac", "c.flac"]) ∧
    (deleteAll [describe 0 (10, "a.flac"), { tags := [("file", "d.flac")] }] :
        Exchange QueueServer Unit).run.run keepsLast =
      (.error (.rejected "Song is not in the queue"), keepsLast) := by
  have haccepts : keepsLast.AcceptsInsertions := fun _ _ _ => rfl
  have hagrees : ∀ song ∈ [describe 2 (12, "c.flac"), describe 0 (10, "a.flac")],
      keepsLast.Agrees song := by
    rw [List.forall_mem_cons, List.forall_mem_singleton]
    exact ⟨⟨⟨12, 2, "c.flac"⟩, rfl, rfl⟩, ⟨⟨10, 0, "a.flac"⟩, rfl, rfl⟩⟩
  exact ⟨⟨haccepts, deleteAll_all_or_nothing.1 keepsLast _ haccepts (by decide) hagrees⟩,
    deleteAll_all_or_nothing.2 QueueServer keepsLast _
      ⟨_, List.mem_cons_of_mem _ List.mem_cons_self, .inl rfl⟩⟩

end Jukebox
