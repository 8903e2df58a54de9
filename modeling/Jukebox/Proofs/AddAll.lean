import Mathlib.Data.List.Nodup
import Jukebox.Proofs.KeptQueue

/-
# Adding many songs is one act

Songs are added one after another, at the end of the queue or in the rows from one on, so that each
finds the song before it in the row above. Either all of them are added, or the first that the service
refuses ends it: then those before it are deleted again by the ids that they got, the refusal is
reported, and the queue is the one that it was, with the same ids.
-/

namespace Jukebox

open Service

/-- The request to add a song at the end of the queue, or before what is in a row. -/
def addition (uri : String) : Option Nat → Request
  | none => .add uri
  | some row => .insert uri row

/-- The requests to add songs at the end of the queue, or in the rows from one on. -/
def additions (uris : List String) : Option Nat → List Request
  | none => uris.map .add
  | some row => uris.mapIdx fun i uri => .insert uri (row + i)

theorem additions_nil (position : Option Nat) : additions [] position = [] := by
  cases position <;> rfl

theorem additions_cons (uri : String) (uris : List String) (position : Option Nat) :
    additions (uri :: uris) position =
      addition uri position :: additions uris (position.map (· + 1)) := by
  cases position with
  | none => rfl
  | some row =>
    simp only [additions, addition, List.mapIdx_cons, Option.map_some, Nat.add_zero,
      Nat.add_assoc, Nat.add_comm 1]

section Steps

variable {σ : Type} [Service σ] {uri : String} {position : Option Nat} {s next : σ}

/-- The next song is added. -/
theorem run_run_addFrom_of_ok {id : Nat}
    (h : (enqueue uri position : Exchange σ Nat).run.run s = (.ok id, next)) (added : List Nat)
    (uris : List String) :
    (addFrom added position (uri :: uris) : Exchange σ (List Nat)).run.run s =
      (addFrom (added ++ [id]) (position.map (· + 1)) uris : Exchange σ (List Nat)).run.run next :=
  run_run_bind_of_ok (run_run_tryCatch_of_ok h)

/-- The next song is not added, and those before it are deleted again. -/
theorem run_run_addFrom_of_error {error : PlaybackError}
    (h : (enqueue uri position : Exchange σ Nat).run.run s = (.error error, next))
    (added : List Nat) (uris : List String) :
    (addFrom added position (uri :: uris) : Exchange σ (List Nat)).run.run s =
      (.error error, after (added.map .delete) next) := by
  have hback := run_run_forM_attempt Request.delete added next
  refine run_run_bind_of_error ((run_run_tryCatch_of_error h).trans ?_)
  exact run_run_bind_of_ok hback

end Steps

namespace QueueKeeper

variable {σ : Type} [Service σ] [QueueKeeper σ] {s : σ} {position : Option Nat}

/-- A song that is refused is not in the queue. -/
theorem enqueue_of_refusal {uri message : String}
    (h : refusal? (addition uri position) s = some message) :
    (enqueue uri position : Exchange σ Nat).run.run s =
        (.error (.rejected message), (answer (addition uri position) s).2) ∧
      queue (answer (addition uri position) s).2 = queue s := by
  have hrejected := rejected h
  refine ⟨?_, unchanged hrejected⟩
  cases position with
  | none => exact Prod.ext hrejected rfl
  | some row => exact Prod.ext hrejected rfl

/-- A song that is not refused gets an id of its own in the row that it is meant for. -/
theorem enqueue_of_no_refusal {uri : String} (h : refusal? (addition uri position) s = none)
    {row : Nat} (hrow : position = some row ∧ row ≤ (queue s).length ∨
      position = none ∧ row = (queue s).length) :
    ∃ id ∉ (queue s).map Prod.fst,
      (enqueue uri position : Exchange σ Nat).run.run s =
        (.ok id, (answer (addition uri position) s).2) ∧
      queue (answer (addition uri position) s).2 = (queue s).insertIdx row (id, uri) := by
  rcases hrow with ⟨rfl, hrow⟩ | ⟨rfl, rfl⟩
  · obtain ⟨id, hfresh, hok, hqueue⟩ := inserted h hrow
    exact ⟨id, hfresh, Prod.ext hok rfl, hqueue⟩
  · obtain ⟨id, hfresh, hok, hqueue⟩ := added h
    exact ⟨id, hfresh, Prod.ext hok rfl, hqueue.trans List.insertIdx_length_self.symm⟩

/-- Songs that were added stand together in the queue, under ids that no other song has. -/
structure Holds (s : σ) (above new below : List (Nat × String)) : Prop where
  queue_eq : queue s = above ++ new ++ below
  distinct : (new.map Prod.fst).Nodup
  fresh : ∀ entry ∈ new, entry.1 ∉ (above ++ below).map Prod.fst

variable {above new below : List (Nat × String)}

/-- One more song is added below those that were added before. -/
theorem Holds.enqueue (h : Holds s above new below) {next : σ} {id : Nat} {uri : String}
    (hfresh : id ∉ (queue s).map Prod.fst)
    (hnext : queue next = (queue s).insertIdx (above ++ new).length (id, uri)) :
    Holds next above (new ++ [(id, uri)]) below := by
  rw [h.queue_eq] at hfresh hnext
  simp only [List.map_append, List.mem_append, not_or] at hfresh
  obtain ⟨⟨habove, hnew⟩, hbelow⟩ := hfresh
  constructor
  · have hput := @insertIdx_eq_and_le_iff _ (above ++ new ++ below)
      (above ++ new ++ (id, uri) :: below) (above ++ new).length (id, uri)
    rw [hnext, (hput.2 ⟨by simp, by simp [List.eraseIdx_append_of_length_le]⟩).1]
    simp
  · rw [List.map_append, List.map_singleton, ← List.concat_eq_append]
    exact List.Nodup.concat hnew h.distinct
  · intro entry hentry
    rcases List.mem_append.1 hentry with hold | hlast
    · exact h.fresh entry hold
    · rw [List.mem_singleton.1 hlast, List.map_append, List.mem_append]
      exact not_or.2 ⟨habove, hbelow⟩

/-- When the songs that were added are deleted again, the queue is what it was. -/
theorem Holds.queue_after_deletions (h : Holds s above new below) (haccepts : AcceptsDeletions s) :
    queue (after ((new.map Prod.fst).map .delete) s) = above ++ below := by
  have hids : ∀ id ∈ new.map Prod.fst, id ∈ (queue s).map Prod.fst := by
    intro id hid
    simp [h.queue_eq, hid]
  have hkept : ∀ entry ∈ above ++ below, entry.1 ∉ new.map Prod.fst := by
    intro entry hentry hid
    obtain ⟨other, hother, heq⟩ := List.mem_map.1 hid
    exact h.fresh other hother (heq ▸ List.mem_map_of_mem hentry)
  have hgone : new.filter (·.1 ∉ new.map Prod.fst) = [] := by
    rw [List.filter_eq_nil_iff]
    intro entry hentry hout
    exact of_decide_eq_true hout (List.mem_map_of_mem hentry)
  rw [QueueKeeper.queue_after_deletions haccepts h.distinct hids, h.queue_eq, List.filter_append,
    List.filter_append, hgone, List.append_nil, ← List.filter_append]
  exact List.filter_eq_self.2 fun entry hentry => decide_eq_true (hkept entry hentry)

/-- The rest of many songs is added below those that were added before, or none of them is. -/
theorem Holds.addFrom (h : Holds s above new below) (haccepts : AcceptsDeletions s)
    (hposition : position = some (above ++ new).length ∨ position = none ∧ below = [])
    (uris : List String) :
    match firstRefusal? (additions uris position) s with
    | none => ∃ ids,
      ((addFrom (new.map Prod.fst) position uris : Exchange σ (List Nat)).run.run s).1 =
        .ok (new.map Prod.fst ++ ids) ∧ ids.length = uris.length ∧
      Holds ((addFrom (new.map Prod.fst) position uris : Exchange σ (List Nat)).run.run s).2
        above (new ++ ids.zip uris) below
    | some message =>
      ((addFrom (new.map Prod.fst) position uris : Exchange σ (List Nat)).run.run s).1 =
        .error (.rejected message) ∧
      queue ((addFrom (new.map Prod.fst) position uris : Exchange σ (List Nat)).run.run s).2 =
        above ++ below := by
  -- With each song that is added, the songs added before are one more and the place is one row on.
  induction uris generalizing s new position with
  | nil =>
    rw [additions_nil]
    refine ⟨[], ?_, rfl, ?_⟩
    · rw [List.append_nil]
      rfl
    · rw [List.zip_nil_left, List.append_nil]
      exact h
  | cons uri uris ih =>
    rw [additions_cons, firstRefusal?]
    cases hrefusal : refusal? (addition uri position) s with
    | some message =>
      obtain ⟨hrun, hqueue⟩ := enqueue_of_refusal hrefusal
      have hsame : Holds (answer (addition uri position) s).2 above new below :=
        ⟨hqueue.trans h.queue_eq, h.distinct, h.fresh⟩
      rw [run_run_addFrom_of_error hrun]
      exact ⟨rfl, hsame.queue_after_deletions (haccepts.later (later_answer _ s))⟩
    | none =>
      have hrow : position = some (above ++ new).length ∧
            (above ++ new).length ≤ (queue s).length ∨
          position = none ∧ (above ++ new).length = (queue s).length := by
        rw [h.queue_eq]
        rcases hposition with hsome | ⟨hnone, rfl⟩
        · exact .inl ⟨hsome, by simp⟩
        · exact .inr ⟨hnone, by simp⟩
      obtain ⟨id, hfresh, hrun, hqueue⟩ := enqueue_of_no_refusal hrefusal hrow
      have hnext := h.enqueue hfresh hqueue
      have hplace : position.map (· + 1) = some (above ++ (new ++ [(id, uri)])).length ∨
          position.map (· + 1) = none ∧ below = [] := by
        rcases hposition with rfl | ⟨rfl, hbelow⟩
        · exact .inl (by simp [Nat.add_assoc])
        · exact .inr ⟨rfl, hbelow⟩
      have hrest := ih hnext (haccepts.later (later_answer _ s)) hplace
      rw [Option.none_or, run_run_addFrom_of_ok hrun]
      rw [List.map_append, List.map_singleton] at hrest
      split
      · next hall =>
        rw [hall] at hrest
        obtain ⟨ids, hok, hlength, hholds⟩ := hrest
        refine ⟨id :: ids, ?_, congrArg (· + 1) hlength, ?_⟩
        · rw [hok, List.append_assoc, List.singleton_append]
        · rw [List.append_assoc, List.singleton_append] at hholds
          exact hholds
      · next message hsome =>
        rw [hsome] at hrest
        exact hrest

/-- Songs are added at the end of the queue, or in the rows from one on, all of them or none. If none of
them is refused, then they stand there together and in order, under the ids that are given for them, and
no other song of the queue has one of these. If one is refused, then that is the error, and the queue is
what it was. -/
theorem addAll_all_or_nothing (σ : Type) [Service σ] [QueueKeeper σ] (s : σ) (uris : List String)
    (position : Option Nat) (hposition : ∀ row ∈ position, row ≤ (queue s).length)
    (haccepts : AcceptsDeletions s) :
    match firstRefusal? (additions uris position) s with
    | none => ∃ ids,
      ((addAll uris position : Exchange σ (List Nat)).run.run s).1 = .ok ids ∧
      ids.length = uris.length ∧ ids.Nodup ∧ (∀ id ∈ ids, id ∉ (queue s).map Prod.fst) ∧
      queue ((addAll uris position : Exchange σ (List Nat)).run.run s).2 =
        (queue s).take (position.getD (queue s).length) ++ ids.zip uris ++
          (queue s).drop (position.getD (queue s).length)
    | some message =>
      ((addAll uris position : Exchange σ (List Nat)).run.run s).1 = .error (.rejected message) ∧
      queue ((addAll uris position : Exchange σ (List Nat)).run.run s).2 = queue s := by
  have hstart : Holds s ((queue s).take (position.getD (queue s).length)) []
      ((queue s).drop (position.getD (queue s).length)) := by
    refine ⟨?_, List.nodup_nil, nofun⟩
    rw [List.append_nil, List.take_append_drop]
  have hplace : position = some ((queue s).take (position.getD (queue s).length) ++ []).length ∨
      position = none ∧ (queue s).drop (position.getD (queue s).length) = [] := by
    cases position with
    | none => exact .inr ⟨rfl, List.drop_length⟩
    | some row =>
      have hrow := hposition row rfl
      exact .inl (by simp [hrow])
  have hall := hstart.addFrom haccepts hplace uris
  rw [List.map_nil] at hall
  split
  · next hnone =>
    rw [hnone] at hall
    obtain ⟨ids, hok, hlength, hholds⟩ := hall
    have hnew : (ids.zip uris).map Prod.fst = ids := List.map_fst_zip (Nat.le_of_eq hlength)
    have hdistinct := hholds.distinct
    have hfresh := hholds.fresh
    rw [List.nil_append] at hdistinct hfresh
    rw [hnew] at hdistinct
    refine ⟨ids, hok, hlength, hdistinct, fun id hid => ?_, hholds.queue_eq⟩
    rw [← hnew] at hid
    obtain ⟨entry, hentry, rfl⟩ := List.mem_map.1 hid
    have hother := hfresh entry hentry
    rwa [List.take_append_drop] at hother
  · next message hsome =>
    rw [hsome] at hall
    obtain ⟨herror, hqueue⟩ := hall
    rw [List.take_append_drop] at hqueue
    exact ⟨herror, hqueue⟩

end QueueKeeper

namespace QueueServer

open QueueKeeper

theorem acceptsDeletions {s : QueueServer}
    (h : ∀ number id, s.refusal number (.delete id) = none) : AcceptsDeletions s := by
  intro t hlater id
  have hsame : t.refusal = s.refusal :=
    hlater.keeps (P := fun t => t.refusal = s.refusal)
      (fun request t ht => (refusal_answer request t).trans ht) rfl
  change t.refusal t.received (.delete id) = none
  rw [hsame]
  exact h _ id

/-- A server with two songs in its queue that does not have a certain third. -/
def lacksOne : QueueServer where
  entries := [(10, "a.flac"), (17, "b.flac")]
  nextId := 20
  nodup := by decide
  fresh := by decide
  refusal
    | _, .insert "missing.flac" _ | _, .add "missing.flac" => some "No such song"
    | _, _ => none

/-- Two songs are put between those of the queue; with the one that the server does not have among
them, none is. -/
theorem lacksOne_adds_both_or_none :
    AcceptsDeletions lacksOne ∧ (∀ row ∈ some 1, row ≤ (queue lacksOne).length) ∧
    (∃ ids, ((addAll ["c.flac", "d.flac"] (some 1) :
        Exchange QueueServer (List Nat)).run.run lacksOne).1 = .ok ids ∧ ids.length = 2 ∧
      queue ((addAll ["c.flac", "d.flac"] (some 1) :
        Exchange QueueServer (List Nat)).run.run lacksOne).2 =
          [(10, "a.flac")] ++ ids.zip ["c.flac", "d.flac"] ++ [(17, "b.flac")]) ∧
    ((addAll ["c.flac", "d.flac", "missing.flac"] (some 1) :
        Exchange QueueServer (List Nat)).run.run lacksOne).1 =
      .error (.rejected "No such song") ∧
    queue ((addAll ["c.flac", "d.flac", "missing.flac"] (some 1) :
        Exchange QueueServer (List Nat)).run.run lacksOne).2 =
      [(10, "a.flac"), (17, "b.flac")] := by
  have haccepts : AcceptsDeletions lacksOne := acceptsDeletions fun _ _ => rfl
  have hposition : ∀ row ∈ some 1, row ≤ (queue lacksOne).length := by decide
  have hboth := addAll_all_or_nothing QueueServer lacksOne ["c.flac", "d.flac"] (some 1)
    hposition haccepts
  have hnone := addAll_all_or_nothing QueueServer lacksOne ["c.flac", "d.flac", "missing.flac"]
    (some 1) hposition haccepts
  obtain ⟨ids, hok, hlength, -, -, hqueue⟩ := hboth
  exact ⟨haccepts, hposition, ⟨ids, hok, hlength, hqueue⟩, hnone⟩

end QueueServer

end Jukebox
