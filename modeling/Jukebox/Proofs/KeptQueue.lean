import Jukebox.Proofs.QueueServer

/-
# Services that keep a queue

A client does not see into the service that it talks to. What it relies on is listed here: there is a
queue, a song that is put into it gets an id that no song of the queue has, a song that is deleted goes
while all others stay, and a request that fails changes nothing. Which ids the service gives, and what
it refuses in which of its states, is its own affair. A server that keeps a queue is such a service.
-/

namespace Jukebox

open Service

/-- A service with a queue that changes as it is asked to, and not otherwise. -/
class QueueKeeper (σ : Type) [Service σ] where
  /-- The songs of the queue in order, each with its id before it. -/
  queue : σ → List (Nat × String)
  /-- What the service says to a request that it refuses for reasons of its own. -/
  refusal? : Request → σ → Option String
  rejected : ∀ {request s message}, refusal? request s = some message →
    (answer request s).1 = .error (.rejected message)
  unchanged : ∀ {request s error}, (answer request s).1 = .error error →
    queue (answer request s).2 = queue s
  added : ∀ {uri s}, refusal? (.add uri) s = none →
    ∃ id ∉ (queue s).map Prod.fst, (answer (.add uri) s).1 = .ok id ∧
      queue (answer (.add uri) s).2 = queue s ++ [(id, uri)]
  inserted : ∀ {uri row s}, refusal? (.insert uri row) s = none → row ≤ (queue s).length →
    ∃ id ∉ (queue s).map Prod.fst, (answer (.insert uri row) s).1 = .ok id ∧
      queue (answer (.insert uri row) s).2 = (queue s).insertIdx row (id, uri)
  deleted : ∀ {id s}, refusal? (.delete id) s = none → id ∈ (queue s).map Prod.fst →
    (answer (.delete id) s).1 = .ok () ∧
      queue (answer (.delete id) s).2 = (queue s).filter (·.1 ≠ id)

namespace QueueServer

/-- What fails leaves the queue as it was. -/
theorem entries_of_answer_error {request : Request} {s : QueueServer} {error : PlaybackError}
    (h : (answer request s).1 = .error error) : (answer request s).2.entries = s.entries := by
  cases hrefusal : s.refusal s.received request with
  | some message =>
    rw [answer_of_refusal hrefusal]
    rfl
  | none =>
    rw [answer_of_no_refusal hrefusal] at h ⊢
    cases request with
    | insert uri row =>
      simp only [reply] at h ⊢
      split at h
      · cases h
      · next hrow => rw [dif_neg hrow]; rfl
    | delete id =>
      simp only [reply] at h ⊢
      split at h
      · cases h
      · next hid => rw [if_neg hid]; rfl
    | _ => cases h

instance : QueueKeeper QueueServer where
  queue := entries
  refusal? request s := s.refusal s.received request
  rejected h := congrArg Prod.fst (answer_of_refusal h)
  unchanged h := entries_of_answer_error h
  added {uri s} h := by
    refine ⟨s.nextId, s.nextId_not_mem_ids, ?_⟩
    rw [answer_of_no_refusal h]
    exact ⟨rfl, List.insertIdx_length_self⟩
  inserted {uri row s} h hrow := by
    refine ⟨s.nextId, s.nextId_not_mem_ids, ?_⟩
    have hreply : reply (.insert uri row) s.counted = (.ok s.nextId, s.counted.put row uri hrow) :=
      dif_pos hrow
    rw [answer_of_no_refusal h, hreply]
    exact ⟨rfl, rfl⟩
  deleted {id s} h hid := by
    have hreply : reply (.delete id) s.counted = (.ok (), s.counted.without id) := if_pos hid
    rw [answer_of_no_refusal h, hreply]
    exact ⟨rfl, rfl⟩

end QueueServer

namespace QueueKeeper

variable {σ : Type} [Service σ] [QueueKeeper σ]

/-- What is said to the first of some requests, made one after another, that is refused. -/
def firstRefusal? : List Request → σ → Option String
  | [], _ => none
  | request :: requests, s =>
    (refusal? request s).or (firstRefusal? requests (answer request s).2)

/-- The service refuses to delete no song, now or later. -/
def AcceptsDeletions (s : σ) : Prop := ∀ t, Later s t → ∀ id, refusal? (.delete id) t = none

theorem AcceptsDeletions.later {s t : σ} (h : AcceptsDeletions s) (hlater : Later s t) :
    AcceptsDeletions t := fun u hu => h u (hlater.trans hu)

/-- Of all songs of the queue only the one that is deleted goes. -/
theorem mem_queue_of_deleted {s : σ} {id other : Nat} (hgranted : refusal? (.delete id) s = none)
    (hid : id ∈ (queue s).map Prod.fst) (hother : other ∈ (queue s).map Prod.fst)
    (hne : other ≠ id) : other ∈ (queue (answer (.delete id) s).2).map Prod.fst := by
  obtain ⟨entry, hentry, rfl⟩ := List.mem_map.1 hother
  rw [(deleted hgranted hid).2]
  exact List.mem_map_of_mem (List.mem_filter.2 ⟨hentry, decide_eq_true hne⟩)

/-- Songs of the queue that are deleted one after another are gone then, and the rest is as it was. -/
theorem queue_after_deletions {s : σ} (haccepts : AcceptsDeletions s) {ids : List Nat}
    (hdistinct : ids.Nodup) (hids : ∀ id ∈ ids, id ∈ (queue s).map Prod.fst) :
    queue (after (ids.map .delete) s) = (queue s).filter (·.1 ∉ ids) := by
  induction ids generalizing s with
  | nil => simp [after]
  | cons id ids ih =>
    obtain ⟨hfirst, hrest⟩ := List.nodup_cons.1 hdistinct
    obtain ⟨hid, hothers⟩ := List.forall_mem_cons.1 hids
    have hgranted := haccepts s (later_refl s) id
    have hpresent : ∀ other ∈ ids, other ∈ (queue (answer (.delete id) s).2).map Prod.fst :=
      fun other hother => mem_queue_of_deleted hgranted hid (hothers other hother)
        fun heq => hfirst (heq ▸ hother)
    rw [List.map_cons, after_cons, ih (haccepts.later (later_answer _ s)) hrest hpresent,
      (deleted hgranted hid).2, filter_not_mem_cons]

end QueueKeeper

end Jukebox
