import Jukebox.Command

/-
# What comes of running

A command's action and an exchange with a service are programs of one sort: they change a state and
may fail, and what they did before they failed stays done. Here it is said what comes of running each
of the ways in which such programs are put together, so that later proofs compute with outcomes and
never look inside the monads.
-/

namespace Jukebox

variable {ε ω α β : Type}

section Outcomes

variable (world : ω)

@[simp]
theorem run_run_throw (error : ε) :
    (throw error : ExceptT ε (StateM ω) α).run.run world = (.error error, world) := rfl

@[simp]
theorem run_run_get : (get : ExceptT ε (StateM ω) ω).run.run world = (.ok world, world) := rfl

@[simp]
theorem run_run_modify (f : ω → ω) :
    (modify f : ExceptT ε (StateM ω) PUnit).run.run world = (.ok ⟨⟩, f world) := rfl

/-- The second part runs where the first one succeeded, from the state that it left. -/
theorem run_run_bind (first : ExceptT ε (StateM ω) α) (second : α → ExceptT ε (StateM ω) β) :
    (first >>= second).run.run world =
      match first.run.run world with
      | (.ok a, next) => (second a).run.run next
      | (.error error, next) => (.error error, next) := by
  simp only [ExceptT.run_bind, StateT.run_bind]
  rcases first.run.run world with ⟨_ | _, next⟩ <;> rfl

/-- The handler runs where the first part failed, from the state that it left. -/
theorem run_run_tryCatch (first : ExceptT ε (StateM ω) α)
    (handler : ε → ExceptT ε (StateM ω) α) :
    (tryCatch first handler).run.run world =
      match first.run.run world with
      | (.ok a, next) => (.ok a, next)
      | (.error error, next) => (handler error).run.run next := by
  change (match (first world).1 with
    | .ok a => (pure (.ok a) : StateM ω (Except ε α))
    | .error error => handler error) (first world).2 = match first world with
      | (.ok a, next) => (.ok a, next)
      | (.error error, next) => handler error next
  rcases first world with ⟨_ | _, next⟩ <;> rfl

end Outcomes

/-- Of two parts that succeed together the first succeeds. -/
theorem bind_eq_ok_iff {first : Except ε α} {second : α → Except ε β} {b : β} :
    first >>= second = .ok b ↔ ∃ a, first = .ok a ∧ second a = .ok b := by
  cases first with
  | error error => exact ⟨nofun, fun ⟨_, hfirst, _⟩ => nomatch hfirst⟩
  | ok a =>
    refine ⟨fun h => ⟨a, rfl, h⟩, ?_⟩
    rintro ⟨_, hfirst, hsecond⟩
    cases hfirst
    exact hsecond

theorem mapError_eq_ok_iff {δ : Type} {result : Except ε α} {f : ε → δ} {a : α} :
    result.mapError f = .ok a ↔ result = .ok a := by
  cases result with
  | error error => exact ⟨nofun, nofun⟩
  | ok b => exact ⟨fun h => by cases h; rfl, fun h => by cases h; rfl⟩

theorem exists_of_mapError_eq_error {δ : Type} {result : Except ε α} {f : ε → δ} {error : δ}
    (h : result.mapError f = .error error) : ∃ cause, result = .error cause ∧ f cause = error := by
  cases result with
  | error cause => exact ⟨cause, rfl, Except.error.inj h⟩
  | ok a => cases h

theorem map_eq_ok_iff {result : Except ε α} {f : α → β} {b : β} :
    result.map f = .ok b ↔ ∃ a, result = .ok a ∧ f a = b := by
  cases result with
  | error error => exact ⟨nofun, fun ⟨_, hresult, _⟩ => nomatch hresult⟩
  | ok a =>
    refine ⟨fun h => ⟨a, rfl, Except.ok.inj h⟩, ?_⟩
    rintro ⟨_, hresult, rfl⟩
    cases hresult
    rfl

/-- The second part continues a success of the first. -/
theorem run_run_bind_of_ok {first : ExceptT ε (StateM ω) α}
    {second : α → ExceptT ε (StateM ω) β} {world next : ω} {a : α}
    (h : first.run.run world = (.ok a, next)) :
    (first >>= second).run.run world = (second a).run.run next := by
  rw [run_run_bind, h]

/-- A failure of the first part is that of the whole. -/
theorem run_run_bind_of_error {first : ExceptT ε (StateM ω) α}
    {second : α → ExceptT ε (StateM ω) β} {world next : ω} {error : ε}
    (h : first.run.run world = (.error error, next)) :
    (first >>= second).run.run world = (.error error, next) := by
  rw [run_run_bind, h]

/-- Where nothing fails there is nothing to handle. -/
theorem run_run_tryCatch_of_ok {first : ExceptT ε (StateM ω) α}
    {handler : ε → ExceptT ε (StateM ω) α} {world next : ω} {a : α}
    (h : first.run.run world = (.ok a, next)) :
    (tryCatch first handler).run.run world = (.ok a, next) := by
  rw [run_run_tryCatch, h]

/-- A failure is handled from the state that it left. -/
theorem run_run_tryCatch_of_error {first : ExceptT ε (StateM ω) α}
    {handler : ε → ExceptT ε (StateM ω) α} {world next : ω} {error : ε}
    (h : first.run.run world = (.error error, next)) :
    (tryCatch first handler).run.run world = (handler error).run.run next := by
  rw [run_run_tryCatch, h]

end Jukebox
