import Jukebox.Proofs.Service

/-
# Many requests as one act

Requests that are attempted one after another take a service through its answers to all of them,
whatever those are. Songs are deleted one after another up to the first that the service does not
delete; then those before it are put back, and the failure is reported.
-/

namespace Jukebox

variable {σ β : Type} [Service σ]

/-- The request to delete a song from the queue. -/
abbrev QueueEntry.deletion (entry : QueueEntry) : Request := .delete entry.id

/-- The request to put a song back where it was in the queue. -/
abbrev QueueEntry.restoration (entry : QueueEntry) : Request :=
  .insert entry.file entry.position

namespace Service

/-- The state that a service is in after some requests, whatever it said to them. -/
def after (requests : List Request) (s : σ) : σ :=
  requests.foldl (fun s request => (answer request s).2) s

theorem after_cons (request : Request) (requests : List Request) (s : σ) :
    after (request :: requests) s = after requests (answer request s).2 := rfl

theorem later_after (requests : List Request) (s : σ) : Later s (after requests s) := by
  induction requests generalizing s with
  | nil => exact later_refl s
  | cons request requests ih => exact (later_answer request s).trans (ih _)

/-- The songs that a service deletes, when they are to be deleted one after another, before the first
that it does not delete. -/
def deletable : List QueueEntry → σ → List QueueEntry
  | [], _ => []
  | entry :: entries, s =>
    match answer entry.deletion s with
    | (.ok _, s) => entry :: deletable entries s
    | (.error _, _) => []

theorem deletable_cons_of_ok {entry : QueueEntry} {s : σ}
    (h : (answer entry.deletion s).1 = .ok ()) (entries : List QueueEntry) :
    deletable (entry :: entries) s =
      entry :: deletable entries (answer entry.deletion s).2 := by
  rw [deletable]
  split
  · next heq => rw [heq]
  · next heq =>
    rw [heq] at h
    cases h

theorem deletable_cons_of_error {entry : QueueEntry} {s : σ} {error : PlaybackError}
    (h : (answer entry.deletion s).1 = .error error) (entries : List QueueEntry) :
    deletable (entry :: entries) s = [] := by
  rw [deletable]
  split
  · next heq =>
    rw [heq] at h
    cases h
  · rfl

theorem deletable_sublist (entries : List QueueEntry) (s : σ) :
    List.Sublist (deletable entries s) entries := by
  induction entries generalizing s with
  | nil => exact List.Sublist.refl []
  | cons entry entries ih =>
    rw [deletable]
    split
    · exact (ih _).cons_cons entry
    · exact List.nil_sublist _

end Service

open Service

theorem run_run_ask (request : Request) (s : σ) :
    (ask request).run.run s = answer request s := rfl

/-- An attempt succeeds and leaves the service as the answer left it. -/
theorem run_run_attempt (request : Request) (s : σ) :
    (attempt request).run.run s = (.ok (), (answer request s).2) := by
  have hask : (discard (ask request) : Exchange σ Unit) = ask request >>= fun _ => pure () := rfl
  unfold attempt
  rw [run_run_tryCatch, hask, run_run_bind, run_run_ask]
  rcases answer request s with ⟨_ | _, next⟩ <;> rfl

theorem run_run_forM_attempt (request : β → Request) (items : List β) (s : σ) :
    (items.forM fun item => attempt (request item) : Exchange σ PUnit).run.run s =
      (.ok ⟨⟩, after (items.map request) s) := by
  induction items generalizing s with
  | nil => rfl
  | cons item items ih =>
    refine (run_run_bind_of_ok (run_run_attempt (request item) s)).trans ?_
    exact ih (answer (request item) s).2

/-- The next song is deleted. -/
theorem run_run_deleteFrom_of_ok {entry : QueueEntry} {s : σ}
    (h : (answer entry.deletion s).1 = .ok ()) (deleted entries : List QueueEntry) :
    (deleteFrom deleted (entry :: entries) : Exchange σ Unit).run.run s =
      (deleteFrom (deleted ++ [entry]) entries : Exchange σ Unit).run.run
        (answer entry.deletion s).2 := by
  have hrun : (ask entry.deletion : Exchange σ Unit).run.run s =
      (.ok (), (answer entry.deletion s).2) := Prod.ext h rfl
  exact run_run_bind_of_ok (run_run_tryCatch_of_ok hrun)

/-- The next song is not deleted, and those before it are put back. -/
theorem run_run_deleteFrom_of_error {entry : QueueEntry} {s : σ} {error : PlaybackError}
    (h : (answer entry.deletion s).1 = .error error) (deleted entries : List QueueEntry) :
    (deleteFrom deleted (entry :: entries) : Exchange σ Unit).run.run s =
      (.error error, after (deleted.map QueueEntry.restoration) (answer entry.deletion s).2) := by
  have hrun : (ask entry.deletion : Exchange σ Unit).run.run s =
      (.error error, (answer entry.deletion s).2) := Prod.ext h rfl
  have hback := run_run_forM_attempt QueueEntry.restoration deleted (answer entry.deletion s).2
  refine run_run_bind_of_error ((run_run_tryCatch_of_error hrun).trans ?_)
  exact run_run_bind_of_ok hback

/-- Either all songs are deleted, or the first that is not ends it and those before it are put back. -/
theorem deleteFrom_cases (deleted entries : List QueueEntry) (s : σ) :
    (deletable entries s = entries ∧
      (deleteFrom deleted entries : Exchange σ Unit).run.run s =
        (.ok (), after (entries.map QueueEntry.deletion) s)) ∨
    ∃ entry rest error, entries = deletable entries s ++ entry :: rest ∧
      (answer entry.deletion
        (after ((deletable entries s).map QueueEntry.deletion) s)).1 = .error error ∧
      (deleteFrom deleted entries : Exchange σ Unit).run.run s =
        (.error error,
          after ((deleted ++ deletable entries s).map QueueEntry.restoration)
            (answer entry.deletion
              (after ((deletable entries s).map QueueEntry.deletion) s)).2) := by
  induction entries generalizing deleted s with
  | nil => exact .inl ⟨rfl, rfl⟩
  | cons entry entries ih =>
    rcases hanswer : (answer entry.deletion s).1 with error | ⟨⟩
    · refine .inr ⟨entry, entries, error, ?_⟩
      rw [deletable_cons_of_error hanswer, List.append_nil]
      exact ⟨rfl, hanswer, run_run_deleteFrom_of_error hanswer deleted entries⟩
    · rw [deletable_cons_of_ok hanswer, run_run_deleteFrom_of_ok hanswer]
      rcases ih (deleted ++ [entry]) (answer entry.deletion s).2 with
        ⟨hall, hrun⟩ | ⟨last, rest, error, hentries, herror, hrun⟩
      · exact .inl ⟨by rw [hall], hrun⟩
      · refine .inr ⟨last, rest, error, congrArg (entry :: ·) hentries, herror, ?_⟩
        rw [hrun, List.append_assoc]
        rfl

/-- All songs have queue entries just if these can be listed. -/
theorem mapM_queueEntry?_eq_some_iff {songs : List Song} {entries : List QueueEntry} :
    songs.mapM Song.queueEntry? = some entries ↔
      songs.map Song.queueEntry? = entries.map some := by
  induction songs generalizing entries with
  | nil =>
    cases entries with
    | nil => exact ⟨fun _ => rfl, fun _ => rfl⟩
    | cons entry entries => exact ⟨nofun, nofun⟩
  | cons song songs ih =>
    rw [List.mapM_cons]
    cases entries with
    | nil => simp [Option.bind_eq_some_iff]
    | cons entry entries => simp [Option.bind_eq_some_iff, ih]

theorem deleteAll_of_map_eq {songs : List Song} {entries : List QueueEntry}
    (h : songs.map Song.queueEntry? = entries.map some) :
    (deleteAll songs : Exchange σ Unit) =
      deleteFrom [] (entries.mergeSort fun a b => a.position ≤ b.position) := by
  rw [deleteAll, mapM_queueEntry?_eq_some_iff.2 h]

/-- A song that is not in the queue cannot be deleted, and then nothing is asked. -/
theorem deleteAll_of_queueEntry?_eq_none {songs : List Song} {song : Song} (hmem : song ∈ songs)
    (h : song.queueEntry? = none) :
    (deleteAll songs : Exchange σ Unit) = throw (.rejected "Song is not in the queue") := by
  unfold deleteAll
  split
  · next entries hentries =>
    have hmap := mapM_queueEntry?_eq_some_iff.1 hentries
    have hnone : none ∈ entries.map some := by
      rw [← hmap, ← h]
      exact List.mem_map_of_mem hmem
    obtain ⟨entry, -, hentry⟩ := List.mem_map.1 hnone
    cases hentry
  · rfl

end Jukebox
