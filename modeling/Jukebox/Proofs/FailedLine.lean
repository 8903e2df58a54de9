import Jukebox.Playback.Rehearsal
import Jukebox.Proofs.Builtin
import Jukebox.Proofs.Observed

/-
# A line that fails changes nothing

Whatever a session looks like and whatever the playback service answers: a command line that fails
leaves the settings, the styles, the key bindings, the song lists with their clipboard and the rest of
the screen as they were. If it fails before its end, the playback service does not get to know of it
either.
-/

namespace Jukebox

variable {σ : Type} [Service σ]

namespace Dispatcher

variable {dispatcher : Dispatcher (Session σ)} {line : String} {session : Session σ}
  {error : DispatchError}

theorem spared_of_dispatch_error (hoffers : dispatcher.Offers Command.builtin)
    (hfailed : (dispatcher.dispatch line session).1 = .error error) :
    session.Spared (dispatcher.dispatch line session).2.2 := by
  have h := dispatcher.dispatched line session
  generalize dispatcher.dispatch line session = outcome at h hfailed ⊢
  cases h with
  | blank | notACommand | notFound => exact Session.spared_refl session
  | ran _ hwords hentry _ =>
    have horderly := Command.orderly_of_mem_builtin (hoffers.mem hentry)
    obtain ⟨cause, hcause, -⟩ := exists_of_mapError_eq_error hfailed
    exact horderly.spared _ hwords _ session cause hcause

/-- The playback service answers requests, and if there was one there still is. -/
theorem served_dispatch (hoffers : dispatcher.Offers Command.builtin) (line : String)
    (session : Session σ) : session.Served (dispatcher.dispatch line session).2.2 := by
  have h := dispatcher.dispatched line session
  generalize dispatcher.dispatch line session = outcome at h ⊢
  cases h with
  | blank | notACommand | notFound => exact Session.served_refl session
  | ran _ hwords hentry _ =>
    exact (Command.orderly_of_mem_builtin (hoffers.mem hentry)).served _ hwords _ session

/-- A line that fails before its end changes nothing at all. -/
theorem dispatch_of_failsBeforeEnd (hoffers : dispatcher.Offers Command.builtin)
    (hbefore : dispatcher.FailsBeforeEnd line session) :
    (dispatcher.dispatch line session).2.2 = session := by
  unfold FailsBeforeEnd at hbefore
  have h := dispatcher.dispatched line session
  generalize dispatcher.dispatch line session = outcome at h hbefore ⊢
  cases h with
  | blank | notACommand | notFound => rfl
  | @ran entry words _ hline hwords hentry _ =>
    rcases hbefore with ⟨token, hgives, htoken⟩ | ⟨name, hname⟩ | ⟨text, htext⟩
    · have hacts := (Command.orderly_of_mem_builtin (hoffers.mem hentry)).actsAtEnd
      have hreset := hacts.reset entry.state session
      rw [givesUpAt?, hline] at hgives
      simp only [hentry, Option.bind_some] at hgives
      change (entry.command.feedAll _ _ (entry.command.reset entry.state session).2).2.2 = session
      rw [hreset] at hgives ⊢
      exact hacts.feedAll_of_givesUpAt? hwords htoken _ session hgives
    · obtain ⟨cause, -, hcause⟩ := exists_of_mapError_eq_error hname
      cases hcause
    · obtain ⟨cause, -, hcause⟩ := exists_of_mapError_eq_error htext
      cases hcause

end Dispatcher

/-- A line that fails leaves everything but the playback service as it was. It fails at its end or
before it; if before it, then the service has got no request. -/
theorem failed_line_changes_nothing (σ : Type) [Service σ] :
    (∀ (dispatcher : Dispatcher (Session σ)) (line : String) (session : Session σ)
      (error : DispatchError),
      dispatcher.Offers Command.builtin →
      (dispatcher.dispatch line session).1 = .error error →
      session.Spared (dispatcher.dispatch line session).2.2 ∧
        (dispatcher.FailsBeforeEnd line session ∨
          dispatcher.givesUpAt? line session = some .endOfLine)) ∧
    (∀ (dispatcher : Dispatcher (Session (Observed σ))) (line : String)
      (session : Session (Observed σ)),
      dispatcher.Offers Command.builtin →
      dispatcher.FailsBeforeEnd line session →
      (dispatcher.dispatch line session).2.2.player.map (·.calls) =
        session.player.map (·.calls)) := by
  constructor
  · intro dispatcher line session error hoffers hfailed
    exact ⟨Dispatcher.spared_of_dispatch_error hoffers hfailed,
      Dispatcher.failsBeforeEnd_or_of_dispatch_error hfailed⟩
  · intro dispatcher line session hoffers hbefore
    rw [Dispatcher.dispatch_of_failsBeforeEnd hoffers hbefore]

/-- A session with a service that lacks a song. -/
def lackingSession : Session (Observed Rehearsal) where
  player := some (Observed.fresh { missing := ["b.flac"] })
  chance := .first

/-- Of two songs the second cannot be added; without the closing quote none is asked for. -/
theorem lacking_song_changes_nothing :
    ((Dispatcher.standard.dispatch "add a.flac b.flac" lackingSession).1 =
        .error (.command (.playback (.rejected "No such song"))) ∧
      lackingSession.Spared (Dispatcher.standard.dispatch "add a.flac b.flac" lackingSession).2.2) ∧
    (Dispatcher.standard.FailsBeforeEnd "add a.flac \"b.flac" lackingSession ∧
      (Dispatcher.standard.dispatch "add a.flac \"b.flac" lackingSession).2.2.player.map (·.calls) =
        lackingSession.player.map (·.calls)) := by
  have hfailed : (Dispatcher.standard.dispatch "add a.flac b.flac" lackingSession).1 =
      .error (.command (.playback (.rejected "No such song"))) :=
    failure?_eq_some_iff.1 (by decide +kernel)
  have hbefore : Dispatcher.standard.FailsBeforeEnd "add a.flac \"b.flac" lackingSession :=
    .inl ⟨.stray "b.flac", by decide +kernel, nofun⟩
  exact ⟨⟨hfailed, ((failed_line_changes_nothing (Observed Rehearsal)).1 _ _ _ _
      Dispatcher.offers_standard hfailed).1⟩,
    hbefore, (failed_line_changes_nothing Rehearsal).2 _ _ _ Dispatcher.offers_standard hbefore⟩

end Jukebox
