import Jukebox.Proofs.QueueServer

/-
# Songs put back

Songs that were deleted are put back in the order of their places, each before the row that was its
place. The queue then holds the same songs in the same order again just if it had the same songs in
those rows before, and the same others in the other rows. So it does if those are the very rows that
the songs were deleted from; and if the songs of the queue can be told apart, it does only then.
-/

namespace Jukebox

open Service Songlist

/-- Where ids are not used twice, an id stands in one row only. -/
theorem row_eq_of_id_eq {queue : List (Nat × String)} (hnodup : (queue.map Prod.fst).Nodup)
    {i j : Nat} {a b : Nat × String} (hi : queue[i]? = some a) (hj : queue[j]? = some b)
    (hid : a.1 = b.1) : i = j := by
  have hi' : (queue.map Prod.fst)[i]? = some a.1 := by rw [List.getElem?_map, hi, Option.map_some]
  have hj' : (queue.map Prod.fst)[j]? = some a.1 := by
    rw [List.getElem?_map, hj, Option.map_some, hid]
  exact row_eq_of_nodup hnodup hi' hj'

namespace QueueServer

variable {s : QueueServer}

theorem uris_insert (haccepts : s.AcceptsInsertions) (uri : String) (row : Nat) :
    (answer (.insert uri row) s).2.uris = s.uris.insertIdx row uri := by
  unfold uris
  rcases insert_cases haccepts uri row with ⟨hrow, hanswer⟩ | ⟨hrow, hanswer⟩
  · rw [hanswer]
    exact List.map_insertIdx Prod.snd s.entries row (s.nextId, uri)
  · rw [hanswer, List.insertIdx_of_length_lt (by rwa [List.length_map])]
    rfl

/-- Putting songs back puts them into the list of what is in the queue, one after another. -/
theorem uris_restored (haccepts : s.AcceptsInsertions) (gone : List QueueEntry) :
    (after (gone.map QueueEntry.restoration) s).uris =
      gone.foldl (fun uris entry => uris.insertIdx entry.position entry.file) s.uris := by
  induction gone generalizing s with
  | nil => rfl
  | cons entry gone ih =>
    rw [List.map_cons, after_cons, ih (accepts_answer haccepts _), uris_insert haccepts,
      List.foldl_cons]

/-- No id is taken away when songs are put back. -/
theorem ids_subset_restored (haccepts : s.AcceptsInsertions) (gone : List QueueEntry) :
    s.ids ⊆ (after (gone.map QueueEntry.restoration) s).ids := by
  induction gone generalizing s with
  | nil => exact List.Subset.refl _
  | cons entry gone ih =>
    rw [List.map_cons, after_cons]
    refine List.Subset.trans ?_ (ih (accepts_answer haccepts entry.restoration))
    rcases insert_cases haccepts entry.file entry.position with ⟨hrow, hanswer⟩ | ⟨-, hanswer⟩
    · have hids : (s.counted.put entry.position entry.file hrow).ids =
          s.ids.insertIdx entry.position s.nextId := List.map_insertIdx Prod.fst s.entries _ _
      rw [hanswer, hids]
      exact List.subset_insertIdx s.ids entry.position s.nextId
    · rw [hanswer]
      exact List.Subset.refl _

section Deleted

variable {gone : List QueueEntry} {t : QueueServer}

theorem Deleted.accepts (h : s.Deleted gone t) (haccepts : s.AcceptsInsertions) :
    t.counted.AcceptsInsertions := by
  unfold AcceptsInsertions
  rw [show t.counted.refusal = s.refusal from h.refusal]
  exact haccepts

/-- What was deleted is put back under other ids, so that the old ones tell what it was. -/
theorem Deleted.not_mem_ids_restored_iff (h : s.Deleted gone t) (haccepts : s.AcceptsInsertions)
    {id : Nat} (hid : id ∈ s.ids) :
    id ∉ (after (gone.map QueueEntry.restoration) t.counted).ids ↔ id ∈ gone.map (·.id) := by
  constructor
  · intro hout
    by_contra hkept
    exact hout (ids_subset_restored (h.accepts haccepts) gone (h.mem_ids_iff.2 ⟨hid, hkept⟩))
  · intro hgone hback
    obtain ⟨entry, hentry, rfl⟩ := List.mem_map.1 hback
    rcases (mem_entries_later (later_after _ _)).2 entry hentry with hold | hnew
    · exact (h.mem_ids_iff.1 (List.mem_map_of_mem hold)).2 hgone
    · have hold := lt_nextId_of_mem_ids hid
      rw [← h.nextId] at hold
      exact Nat.not_le.2 hold hnew

/-- As many songs are missing as were deleted. -/
theorem Deleted.length_uris (h : s.Deleted gone t) :
    s.uris.length = t.uris.length + gone.length := by
  have hgone : (s.ids.filter (· ∈ gone.map (·.id))).Perm (gone.map (·.id)) := by
    apply (List.perm_ext_iff_of_nodup (s.nodup.filter _) h.distinct).2
    intro id
    rw [List.mem_filter, decide_eq_true_eq, and_iff_right_iff_imp]
    intro hid
    obtain ⟨entry, hentry, rfl⟩ := List.mem_map.1 hid
    exact h.known entry hentry
  have hleft : t.ids = s.ids.filter (· ∉ gone.map (·.id)) := by
    unfold ids
    rw [h.entries, List.filter_map]
    rfl
  have hsum := @List.length_eq_length_filter_add _ s.ids (· ∈ gone.map (·.id))
  simp only [← decide_not] at hsum
  rw [hgone.length_eq, ← hleft] at hsum
  simp only [ids, List.length_map] at hsum
  rw [uris, uris, List.length_map, List.length_map, hsum, Nat.add_comm]

/-- When deleted songs are put back, what it takes for the queue to hold the same songs in the same
order again. -/
theorem Deleted.uris_restored_eq_iff (h : s.Deleted gone t) (haccepts : s.AcceptsInsertions)
    (hrising : gone.Pairwise (·.position < ·.position)) :
    (after (gone.map QueueEntry.restoration) t.counted).uris = s.uris ↔
      (∀ entry ∈ gone, s.uris[entry.position]? = some entry.file) ∧
        t.uris = keepRows (· ∉ gone.map (·.position)) 0 s.uris := by
  rw [uris_restored (h.accepts haccepts), ← foldl_insertIdx_eq_iff hrising]
  exact (and_iff_left h.length_uris).symm

/-- Songs that are put back where they stood make the queue what it was. -/
theorem Deleted.uris_restored_eq (h : s.Deleted gone t) (haccepts : s.AcceptsInsertions)
    (hrising : gone.Pairwise (·.position < ·.position))
    (hplace : ∀ entry ∈ gone, s.entries[entry.position]? = some (entry.id, entry.file)) :
    (after (gone.map QueueEntry.restoration) t.counted).uris = s.uris := by
  refine (h.uris_restored_eq_iff haccepts hrising).2 ⟨fun entry hentry => ?_, ?_⟩
  · rw [uris, List.getElem?_map, hplace entry hentry]
    rfl
  · have hrows : s.entries.filter (·.1 ∉ gone.map (·.id)) =
        keepRows (· ∉ gone.map (·.position)) 0 s.entries := by
      apply filter_eq_keepRows
      intro row there hrow
      rw [Nat.zero_add]
      refine decide_eq_decide.2 (not_congr ⟨fun hid => ?_, fun hmem => ?_⟩)
      · obtain ⟨entry, hentry, hid⟩ := List.mem_map.1 hid
        have hsame := row_eq_of_id_eq s.nodup (hplace entry hentry) hrow hid
        exact hsame ▸ List.mem_map_of_mem hentry
      · obtain ⟨entry, hentry, rfl⟩ := List.mem_map.1 hmem
        rw [hplace entry hentry] at hrow
        exact Option.some.inj hrow ▸ List.mem_map_of_mem hentry
    unfold uris
    rw [h.entries, hrows, keepRows_map]

end Deleted

end QueueServer

end Jukebox
