import Mathlib.Data.List.InsertIdx
import Jukebox.Proofs.Batch
import Jukebox.Proofs.Rows

/-
# Servers that keep a queue

A server with a queue of songs, each under an id of its own that no other song gets after it. It
deletes songs by their ids and puts songs in before a row of the queue. It may refuse any request for
reasons of its own; a request that it refuses changes nothing.
-/

namespace Jukebox

/-- A server that keeps a queue. -/
structure QueueServer where
  /-- The songs of the queue in order, each with its id before it. -/
  entries : List (Nat × String)
  /-- The id that the next song gets. -/
  nextId : Nat
  nodup : (entries.map Prod.fst).Nodup
  fresh : ∀ entry ∈ entries, entry.1 < nextId
  /-- What the server says to a request that it refuses, given how many came before it. -/
  refusal : Nat → Request → Option String := fun _ _ => none
  /-- How many requests came so far. -/
  received : Nat := 0

namespace QueueServer

/-- The ids of the queue in order. -/
def ids (s : QueueServer) : List Nat := s.entries.map Prod.fst

/-- Where the songs of the queue are, in order. -/
def uris (s : QueueServer) : List String := s.entries.map Prod.snd

theorem lt_nextId_of_mem_ids {s : QueueServer} {id : Nat} (h : id ∈ s.ids) : id < s.nextId := by
  obtain ⟨entry, hentry, rfl⟩ := List.mem_map.1 h
  exact s.fresh entry hentry

theorem nextId_not_mem_ids (s : QueueServer) : s.nextId ∉ s.ids := fun h =>
  Nat.lt_irrefl _ (lt_nextId_of_mem_ids h)

/-- Counts a request. -/
def counted (s : QueueServer) : QueueServer := { s with received := s.received + 1 }

/-- Takes the song of an id out of the queue. -/
def without (s : QueueServer) (id : Nat) : QueueServer where
  entries := s.entries.filter (·.1 ≠ id)
  nextId := s.nextId
  nodup := s.nodup.sublist (List.filter_sublist.map _)
  fresh entry hentry := s.fresh entry (List.mem_of_mem_filter hentry)
  refusal := s.refusal
  received := s.received

/-- Puts a song into the queue before a row, under a new id. -/
def put (s : QueueServer) (row : Nat) (uri : String) (hrow : row ≤ s.entries.length) :
    QueueServer where
  entries := s.entries.insertIdx row (s.nextId, uri)
  nextId := s.nextId + 1
  nodup := by
    have hperm := (List.perm_insertIdx (s.nextId, uri) s.entries hrow).map Prod.fst
    exact hperm.nodup_iff.2 (List.nodup_cons.2 ⟨s.nextId_not_mem_ids, s.nodup⟩)
  fresh entry hentry := by
    rcases List.eq_or_mem_of_mem_insertIdx hentry with rfl | hmem
    · exact Nat.lt_succ_self _
    · exact Nat.lt_succ_of_lt (s.fresh entry hmem)
  refusal := s.refusal
  received := s.received

/-- How the server describes what is in a row of its queue. -/
def describe (row : Nat) (entry : Nat × String) : Song where
  id := some entry.1
  position := some row
  tags := [("file", entry.2)]

/-- The answer to a request that is not refused without a reason. -/
def reply : (request : Request) → QueueServer → Except PlaybackError request.Reply × QueueServer
  | .add uri, s => (.ok s.nextId, s.put s.entries.length uri (Nat.le_refl _))
  | .insert uri row, s =>
    if hrow : row ≤ s.entries.length then (.ok s.nextId, s.put row uri hrow)
    else (.error (.rejected "Bad song index"), s)
  | .delete id, s =>
    if id ∈ s.ids then (.ok (), s.without id) else (.error (.rejected "No such song"), s)
  | .queue, s => (.ok (s.entries.mapIdx describe), s)
  | .library, s => (.ok [], s)
  | .currentSong, s => (.ok none, s)
  | .status, s => (.ok {}, s)
  | .play _, s | .playId _, s | .pause _, s | .stop, s | .next, s | .previous, s | .setVolume _, s
  | .seek _, s => (.ok (), s)

instance : Service QueueServer where
  answer request s :=
    match s.refusal s.received request with
    | some message => (.error (.rejected message), s.counted)
    | none => reply request s.counted

open Service

variable {s : QueueServer}

theorem answer_of_refusal {request : Request} {message : String}
    (h : s.refusal s.received request = some message) :
    answer request s = (.error (.rejected message), s.counted) := by
  change (match s.refusal s.received request with
    | some message => _
    | none => _) = _
  rw [h]

theorem answer_of_no_refusal {request : Request} (h : s.refusal s.received request = none) :
    answer request s = reply request s.counted := by
  change (match s.refusal s.received request with
    | some message => _
    | none => _) = _
  rw [h]

/-- What comes of a request to delete a song. -/
theorem delete_cases (s : QueueServer) (id : Nat) :
    (∃ message, s.refusal s.received (.delete id) = some message ∧
      answer (.delete id) s = (.error (.rejected message), s.counted)) ∨
    (id ∉ s.ids ∧ answer (.delete id) s = (.error (.rejected "No such song"), s.counted)) ∨
    (s.refusal s.received (.delete id) = none ∧ id ∈ s.ids ∧
      answer (.delete id) s = (.ok (), s.counted.without id)) := by
  cases hrefusal : s.refusal s.received (.delete id) with
  | some message => exact .inl ⟨message, rfl, answer_of_refusal hrefusal⟩
  | none =>
    have hreply : answer (.delete id) s =
        if id ∈ s.ids then (.ok (), s.counted.without id)
        else (.error (.rejected "No such song"), s.counted) := answer_of_no_refusal hrefusal
    by_cases hmem : id ∈ s.ids
    · rw [if_pos hmem] at hreply
      exact .inr (.inr ⟨rfl, hmem, hreply⟩)
    · rw [if_neg hmem] at hreply
      exact .inr (.inl ⟨hmem, hreply⟩)

/-- The server refuses no request to put a song into its queue at a row. -/
def AcceptsInsertions (s : QueueServer) : Prop :=
  ∀ number uri row, s.refusal number (.insert uri row) = none

theorem refusal_reply (request : Request) (s : QueueServer) :
    (reply request s).2.refusal = s.refusal := by
  cases request with
  | insert | delete =>
    simp only [reply]
    split <;> rfl
  | _ => rfl

theorem refusal_answer (request : Request) (s : QueueServer) :
    (answer request s).2.refusal = s.refusal := by
  cases hrefusal : s.refusal s.received request with
  | some message => rw [answer_of_refusal hrefusal]; rfl
  | none => rw [answer_of_no_refusal hrefusal, refusal_reply]; rfl

theorem accepts_answer (haccepts : s.AcceptsInsertions) (request : Request) :
    (answer request s).2.AcceptsInsertions := by
  unfold AcceptsInsertions
  rw [refusal_answer]
  exact haccepts

theorem nextId_le_answer (request : Request) (s : QueueServer) :
    s.nextId ≤ (answer request s).2.nextId := by
  cases hrefusal : s.refusal s.received request with
  | some message =>
    rw [answer_of_refusal hrefusal]
    exact Nat.le_refl _
  | none =>
    rw [answer_of_no_refusal hrefusal]
    cases request with
    | insert | delete =>
      simp only [reply]
      split
      · first | exact Nat.le_succ _ | exact Nat.le_refl _
      · exact Nat.le_refl _
    | add => exact Nat.le_succ _
    | _ => exact Nat.le_refl _

theorem accepts_later {t : QueueServer} (haccepts : s.AcceptsInsertions) (h : Later s t) :
    t.AcceptsInsertions :=
  h.keeps (P := AcceptsInsertions) (fun request _ hs => accepts_answer hs request) haccepts

theorem mem_entries_put {row : Nat} {uri : String} (hrow : row ≤ s.entries.length)
    {entry : Nat × String} (h : entry ∈ (s.put row uri hrow).entries) :
    entry ∈ s.entries ∨ s.nextId ≤ entry.1 := by
  rcases List.eq_or_mem_of_mem_insertIdx h with rfl | hmem
  · exact .inr (Nat.le_refl _)
  · exact .inl hmem

/-- What is in the queue after a request was there before, or has an id that was not in use. -/
theorem mem_entries_answer {request : Request} {entry : Nat × String}
    (h : entry ∈ (answer request s).2.entries) : entry ∈ s.entries ∨ s.nextId ≤ entry.1 := by
  cases hrefusal : s.refusal s.received request with
  | some message =>
    rw [answer_of_refusal hrefusal] at h
    exact .inl h
  | none =>
    rw [answer_of_no_refusal hrefusal] at h
    cases request with
    | add uri => exact mem_entries_put (s := s.counted) (Nat.le_refl _) h
    | insert uri row =>
      simp only [reply] at h
      split at h
      · next hrow => exact mem_entries_put hrow h
      · exact .inl h
    | delete id =>
      simp only [reply] at h
      split at h
      · exact .inl (List.mem_of_mem_filter h)
      · exact .inl h
    | _ => exact .inl h

/-- What is in the queue after any requests was there before, or has an id that was not in use. -/
theorem mem_entries_later {t : QueueServer} (h : Later s t) :
    s.nextId ≤ t.nextId ∧ ∀ entry ∈ t.entries, entry ∈ s.entries ∨ s.nextId ≤ entry.1 := by
  refine h.keeps (P := fun t => s.nextId ≤ t.nextId ∧
    ∀ entry ∈ t.entries, entry ∈ s.entries ∨ s.nextId ≤ entry.1) ?_
      ⟨Nat.le_refl _, fun _ => .inl⟩
  rintro request t ⟨hnext, hmem⟩
  refine ⟨Nat.le_trans hnext (nextId_le_answer request t), ?_⟩
  intro entry hentry
  rcases mem_entries_answer hentry with hold | hnew
  · exact hmem entry hold
  · exact .inr (Nat.le_trans hnext hnew)

/-- What comes of a request to put a song into the queue. -/
theorem insert_cases (haccepts : s.AcceptsInsertions) (uri : String) (row : Nat) :
    (∃ hrow : row ≤ s.entries.length,
      answer (.insert uri row) s = (.ok s.nextId, s.counted.put row uri hrow)) ∨
    (s.entries.length < row ∧
      answer (.insert uri row) s = (.error (.rejected "Bad song index"), s.counted)) := by
  have hreply : answer (.insert uri row) s =
      if hrow : row ≤ s.entries.length then (.ok s.nextId, s.counted.put row uri hrow)
      else (.error (.rejected "Bad song index"), s.counted) :=
    answer_of_no_refusal (haccepts s.received uri row)
  by_cases hrow : row ≤ s.entries.length
  · rw [dif_pos hrow] at hreply
    exact .inl ⟨hrow, hreply⟩
  · rw [dif_neg hrow] at hreply
    exact .inr ⟨Nat.lt_of_not_le hrow, hreply⟩

/-- What is said to the first of some requests that is refused, when so many came before them. -/
def firstRefusal? (refusal : Nat → Request → Option String) :
    (number : Nat) → List Request → Option String
  | _, [] => none
  | number, request :: requests =>
    (refusal number request).or (firstRefusal? refusal (number + 1) requests)

theorem firstRefusal?_append (refusal : Nat → Request → Option String) (number : Nat)
    (first second : List Request) :
    firstRefusal? refusal number (first ++ second) =
      (firstRefusal? refusal number first).or
        (firstRefusal? refusal (number + first.length) second) := by
  induction first generalizing number with
  | nil => rfl
  | cons request first ih =>
    rw [List.cons_append, firstRefusal?, firstRefusal?, ih, Option.or_assoc, List.length_cons]
    congr 3
    omega

/-- A server has deleted songs from its queue, in this order. -/
structure Deleted (s : QueueServer) (gone : List QueueEntry) (t : QueueServer) : Prop where
  entries : t.entries = s.entries.filter (·.1 ∉ gone.map (·.id))
  nextId : t.nextId = s.nextId
  refusal : t.refusal = s.refusal
  received : t.received = s.received + gone.length
  known : ∀ entry ∈ gone, entry.id ∈ s.ids
  distinct : (gone.map (·.id)).Nodup
  granted : firstRefusal? s.refusal s.received (gone.map QueueEntry.deletion) = none

theorem deleted_nil (s : QueueServer) : s.Deleted [] s where
  entries := by simp
  nextId := rfl
  refusal := rfl
  received := rfl
  known := nofun
  distinct := List.nodup_nil
  granted := rfl

theorem Deleted.cons {entry : QueueEntry} {gone : List QueueEntry} {t : QueueServer}
    (hgranted : s.refusal s.received (.delete entry.id) = none) (hmem : entry.id ∈ s.ids)
    (h : (s.counted.without entry.id).Deleted gone t) : s.Deleted (entry :: gone) t := by
  have hids : ∀ id ∈ (s.counted.without entry.id).ids, id ∈ s.ids ∧ id ≠ entry.id := by
    intro id hid
    obtain ⟨kept, hkept, rfl⟩ := List.mem_map.1 hid
    obtain ⟨hold, hne⟩ := List.mem_filter.1 hkept
    exact ⟨List.mem_map_of_mem hold, of_decide_eq_true hne⟩
  constructor
  · rw [h.entries, List.map_cons]
    exact filter_not_mem_cons s.entries entry.id (gone.map (·.id))
  · exact h.nextId
  · exact h.refusal
  · rw [h.received, List.length_cons]
    change s.received + 1 + gone.length = _
    omega
  · intro other hother
    rcases List.mem_cons.1 hother with rfl | hrest
    · exact hmem
    · exact (hids other.id (h.known other hrest)).1
  · refine List.nodup_cons.2 ⟨fun hrest => ?_, h.distinct⟩
    obtain ⟨other, hother, hid⟩ := List.mem_map.1 hrest
    exact (hids other.id (h.known other hother)).2 hid
  · rw [List.map_cons, firstRefusal?, hgranted, Option.none_or]
    exact h.granted

theorem Deleted.mem_ids_iff {gone : List QueueEntry} {t : QueueServer} (h : s.Deleted gone t)
    {id : Nat} : id ∈ t.ids ↔ id ∈ s.ids ∧ id ∉ gone.map (·.id) := by
  unfold ids
  rw [h.entries]
  constructor
  · intro hid
    obtain ⟨kept, hkept, rfl⟩ := List.mem_map.1 hid
    obtain ⟨hmem, hnone⟩ := List.mem_filter.1 hkept
    exact ⟨List.mem_map_of_mem hmem, of_decide_eq_true hnone⟩
  · intro ⟨hid, hnone⟩
    obtain ⟨kept, hkept, rfl⟩ := List.mem_map.1 hid
    exact List.mem_map_of_mem (List.mem_filter.2 ⟨hkept, decide_eq_true hnone⟩)

/-- The songs that the server deletes one after another are gone then, and the rest is as it was. -/
theorem deleted_deletable (entries : List QueueEntry) (s : QueueServer) :
    s.Deleted (deletable entries s)
      (after ((deletable entries s).map QueueEntry.deletion) s) := by
  induction entries generalizing s with
  | nil => exact deleted_nil s
  | cons entry entries ih =>
    rcases delete_cases s entry.id with
      ⟨message, -, hanswer⟩ | ⟨-, hanswer⟩ | ⟨hgranted, hmem, hanswer⟩
    · rw [deletable_cons_of_error (congrArg Prod.fst hanswer)]
      exact deleted_nil s
    · rw [deletable_cons_of_error (congrArg Prod.fst hanswer)]
      exact deleted_nil s
    · rw [deletable_cons_of_ok (congrArg Prod.fst hanswer), List.map_cons, after_cons, hanswer]
      exact .cons hgranted hmem (ih _)

/-- What comes of deleting songs. If not all are deleted, then the server refused to delete the first
that is not, or does not have it; what it has when songs begin to be put back is what is left. -/
theorem deleteFrom_server_cases (entries : List QueueEntry) (s : QueueServer) :
    (deletable entries s = entries ∧
      ((deleteFrom [] entries : Exchange QueueServer Unit).run.run s).1 = .ok () ∧
      s.Deleted entries ((deleteFrom [] entries : Exchange QueueServer Unit).run.run s).2) ∨
    ∃ entry rest message reached, entries = deletable entries s ++ entry :: rest ∧
      s.Deleted (deletable entries s) reached ∧
      (reached.refusal reached.received entry.deletion = some message ∨ entry.id ∉ reached.ids) ∧
      (deleteFrom [] entries : Exchange QueueServer Unit).run.run s =
        (.error (.rejected message),
          after ((deletable entries s).map QueueEntry.restoration) reached.counted) := by
  have hdeleted := deleted_deletable entries s
  rcases deleteFrom_cases [] entries s with
    ⟨hall, hrun⟩ | ⟨entry, rest, error, hentries, herror, hrun⟩
  · rw [hall] at hdeleted
    exact .inl ⟨hall, congrArg Prod.fst hrun, hrun ▸ hdeleted⟩
  · rw [List.nil_append] at hrun
    rcases delete_cases (after ((deletable entries s).map QueueEntry.deletion) s) entry.id with
      ⟨message, hrefusal, hanswer⟩ | ⟨hmem, hanswer⟩ | ⟨-, -, hanswer⟩ <;>
      rw [hanswer] at herror hrun
    · cases herror
      exact .inr ⟨entry, rest, message, _, hentries, hdeleted, .inl hrefusal, hrun⟩
    · cases herror
      exact .inr ⟨entry, rest, _, _, hentries, hdeleted, .inr hmem, hrun⟩
    · cases herror

end QueueServer

end Jukebox
