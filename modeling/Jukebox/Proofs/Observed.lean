import Jukebox.Proofs.Service

/-
# Services under observation

To say what a service is asked, and in which states, it is observed: next to its state stands a
record of all requests that it got. The answers are those of the service itself.

After an answer that breaks the connection nothing is known about what the service will say next. A
well-behaved client therefore asks nothing any more: in the record such an answer can only be the
last one. An exchange that stops at the first failure is straight in this sense, unless it goes on to
undo what it did before.
-/

namespace Jukebox

variable {σ ε α β : Type}

/-- A request that a service got. -/
structure Call (σ : Type) where
  request : Request
  /-- The state that the service was in. -/
  before : σ
  /-- Why there was no good answer, if there was none. -/
  failure : Option PlaybackError
deriving DecidableEq, Repr

/-- A service with the record of the requests that it got. -/
structure Observed (σ : Type) where
  /-- The state in which observation began. -/
  opened : σ
  service : σ
  calls : List (Call σ) := []
deriving DecidableEq, Repr

/-- Why there is no result, if there is none. -/
def failure? : Except ε α → Option ε
  | .ok _ => none
  | .error error => some error

theorem failure?_eq_some_iff {result : Except ε α} {error : ε} :
    failure? result = some error ↔ result = .error error := by
  cases result with
  | ok a => exact ⟨nofun, nofun⟩
  | error cause => simp [failure?]

theorem failure?_eq_none_iff {result : Except ε Unit} : failure? result = none ↔ result = .ok () := by
  cases result with
  | ok a => exact ⟨fun _ => rfl, fun _ => rfl⟩
  | error cause => exact ⟨nofun, nofun⟩

theorem isNone_failure?_mapError {δ : Type} (result : Except ε α) (f : ε → δ) :
    (failure? (result.mapError f)).isNone = (failure? result).isNone := by
  cases result <;> rfl

namespace Observed

/-- Begins to observe a service. -/
def fresh (service : σ) : Observed σ := { opened := service, service }

variable [Service σ]

instance : Service (Observed σ) where
  answer request observed :=
    let (result, service) := Service.answer request observed.service
    (result, { observed with
      service
      calls := observed.calls ++ [⟨request, observed.service, failure? result⟩] })

@[simp]
theorem service_answer (request : Request) (observed : Observed σ) :
    (Service.answer request observed).2.service =
      (Service.answer request observed.service).2 := rfl

@[simp]
theorem opened_answer (request : Request) (observed : Observed σ) :
    (Service.answer request observed).2.opened = observed.opened := rfl

@[simp]
theorem calls_answer (request : Request) (observed : Observed σ) :
    (Service.answer request observed).2.calls = observed.calls ++
      [⟨request, observed.service, failure? (Service.answer request observed.service).1⟩] := rfl

/-- The record only grows. -/
theorem calls_prefix_of_later {o o' : Observed σ} (h : Service.Later o o') :
    o.calls <+: o'.calls := by
  refine h.keeps (P := fun later => o.calls <+: later.calls) ?_ (List.prefix_refl _)
  intro request later hpart
  rw [calls_answer]
  exact hpart.trans (List.prefix_append _ _)

/-- The record is one that the service can have come to since observation began. -/
def Recorded (o : Observed σ) : Prop := Service.Later (fresh o.opened) o

theorem recorded_fresh (service : σ) : (fresh service).Recorded := Service.later_refl _

theorem Recorded.later {o o' : Observed σ} (hrecorded : o.Recorded) (h : Service.Later o o') :
    o'.Recorded := by
  have hopened : o'.opened = o.opened :=
    h.keeps (P := fun later => later.opened = o.opened) (fun _ _ hlater => hlater) rfl
  unfold Recorded
  rw [hopened]
  exact Service.Later.trans hrecorded h

end Observed

/-- Whether the answer broke the connection. -/
def Call.IsBroken (call : Call σ) : Prop := ∃ error ∈ call.failure, error.isBroken

instance (call : Call σ) : Decidable call.IsBroken :=
  inferInstanceAs (Decidable (∃ error ∈ call.failure, error.isBroken))

namespace Observed

/-- No answer broke the connection. -/
def Intact (o : Observed σ) : Prop := ∀ call ∈ o.calls, ¬ call.IsBroken

/-- Once an answer broke the connection, nothing more was asked. -/
def StopsAtBreak (o : Observed σ) : Prop := ∀ call ∈ o.calls.dropLast, ¬ call.IsBroken

instance (o : Observed σ) : Decidable o.Intact :=
  inferInstanceAs (Decidable (∀ call ∈ o.calls, ¬ call.IsBroken))

instance (o : Observed σ) : Decidable o.StopsAtBreak :=
  inferInstanceAs (Decidable (∀ call ∈ o.calls.dropLast, ¬ call.IsBroken))

theorem intact_fresh (service : σ) : (fresh service).Intact := nofun

theorem Intact.stopsAtBreak {o : Observed σ} (h : o.Intact) : o.StopsAtBreak :=
  fun call hcall => h call (List.dropLast_subset _ hcall)

variable [Service σ]

theorem Intact.of_later {o o' : Observed σ} (h : Service.Later o o') (hintact : o'.Intact) :
    o.Intact := fun call hcall => hintact call ((calls_prefix_of_later h).subset hcall)

/-- A record that goes on after a break does not stop at it. -/
theorem not_stopsAtBreak_of_later {o o' : Observed σ} (h : Service.Later o o')
    (hlonger : o.calls.length < o'.calls.length) (hbroken : ¬ o.Intact) : ¬ o'.StopsAtBreak := by
  intro hstops
  refine hbroken fun call hcall => hstops call ?_
  obtain ⟨rest, hrest⟩ := calls_prefix_of_later h
  have hne : rest ≠ [] := by
    rintro rfl
    rw [List.append_nil] at hrest
    rw [hrest] at hlonger
    exact Nat.lt_irrefl _ hlonger
  rw [← hrest, List.dropLast_append_of_ne_nil hne]
  exact List.mem_append_left _ hcall

/-- A question to an intact service leaves it intact or breaks the connection, and says so. -/
theorem intact_answer_or {o : Observed σ} (h : o.Intact) (request : Request) :
    (Service.answer request o).2.StopsAtBreak ∧
      ((Service.answer request o).2.Intact ∨
        ∃ error, (Service.answer request o).1 = .error error ∧ error.isBroken) := by
  constructor
  · intro call hcall
    rw [calls_answer, List.dropLast_concat] at hcall
    exact h call hcall
  · by_cases hbroken : ∃ error, (Service.answer request o).1 = .error error ∧ error.isBroken
    · exact .inr hbroken
    · left
      intro call hcall
      rw [calls_answer, List.mem_append, List.mem_singleton] at hcall
      rcases hcall with hold | rfl
      · exact h call hold
      · rintro ⟨error, hfailure, hisBroken⟩
        exact hbroken ⟨error, failure?_eq_some_iff.1 hfailure, hisBroken⟩

end Observed

namespace Exchange

variable [Service σ]

/-- An exchange that asks nothing more after a break, and fails by reporting it. -/
def Straight (exchange : Exchange (Observed σ) α) : Prop :=
  ∀ o, o.Intact → (exchange.run.run o).2.StopsAtBreak ∧
    ((exchange.run.run o).2.Intact ∨
      ∃ error, (exchange.run.run o).1 = .error error ∧ error.isBroken)

omit [Service σ] in
theorem straight_pure (a : α) : Straight (pure a : Exchange (Observed σ) α) :=
  fun _ h => ⟨h.stopsAtBreak, .inl h⟩

theorem straight_ask (request : Request) :
    Straight (Service.ask request : Exchange (Observed σ) request.Reply) :=
  fun _ h => Observed.intact_answer_or h request

omit [Service σ] in
theorem straight_bind {first : Exchange (Observed σ) α} {second : α → Exchange (Observed σ) β}
    (hfirst : Straight first) (hsecond : ∀ a, Straight (second a)) :
    Straight (first >>= second) := by
  intro o ho
  have h := hfirst o ho
  rcases hrun : first.run.run o with ⟨error | a, next⟩ <;> rw [hrun] at h
  · rw [run_run_bind_of_error hrun]
    refine ⟨h.1, h.2.imp_right ?_⟩
    rintro ⟨cause, hcause, hbroken⟩
    cases hcause
    exact ⟨error, rfl, hbroken⟩
  · rw [run_run_bind_of_ok hrun]
    rcases h.2 with hintact | ⟨error, herror, -⟩
    · exact hsecond a next hintact
    · cases herror

/-- An exchange that begins with a question leaves a longer record. -/
theorem longer_ask_bind (request : Request) {second : request.Reply → Exchange (Observed σ) α}
    (hsecond : ∀ reply, Asks (second reply)) (o : Observed σ) :
    o.calls.length < ((Service.ask request >>= second).run.run o).2.calls.length := by
  have hfirst : o.calls.length < (Service.answer request o).2.calls.length := by
    rw [Observed.calls_answer, List.length_append]
    exact Nat.lt_succ_self _
  rcases hrun : (Service.ask request : Exchange (Observed σ) _).run.run o with ⟨_ | reply, next⟩
  · rw [run_run_bind_of_error hrun]
    exact (congrArg Prod.snd hrun) ▸ hfirst
  · rw [run_run_bind_of_ok hrun]
    have hnext : (Service.answer request o).2 = next := congrArg Prod.snd hrun
    rw [hnext] at hfirst
    exact Nat.lt_of_lt_of_le hfirst
      (Observed.calls_prefix_of_later (hsecond reply next)).length_le

end Exchange

end Jukebox
