import Jukebox.Proofs.Dispatch
import Jukebox.Startup.Launch

/-
# What lasts through a launch

A client is launched by carrying out command lines: those of the standard configuration, and then those
of the user's. What each line keeps therefore holds of every client that is launched, whatever is in the
configuration and however much of it fails, as long as it holds of the first session of all.
-/

namespace Jukebox

variable {ω σ : Type} [Service σ] {P : Session σ → Prop}

/-- A property of sessions that no command line ends, and no complaint about one. -/
structure Session.Lasting (P : Session σ → Prop) : Prop where
  dispatch : ∀ {dispatcher : Dispatcher (Session σ)} {session : Session σ},
    dispatcher.Offers Command.builtin → P session →
      ∀ line, P (dispatcher.dispatch line session).2.2
  setError : ∀ {session : Session σ} (text : String),
    P session → P (session.modifyUi (·.setError text))

namespace Session.Lasting

variable (h : Session.Lasting P) {dispatcher : Dispatcher (Session σ)} {session : Session σ}

include h

theorem runStrictly (hoffers : dispatcher.Offers Command.builtin) (hsession : P session)
    (lines : List String) :
    (Script.runStrictly lines dispatcher session).2.1.Offers Command.builtin ∧
      P (Script.runStrictly lines dispatcher session).2.2 := by
  induction lines generalizing dispatcher session with
  | nil => exact ⟨hoffers, hsession⟩
  | cons line lines ih =>
    have hoffers' := hoffers.dispatch line session
    have hsession' := h.dispatch hoffers hsession line
    unfold Script.runStrictly
    generalize dispatcher.dispatch line session = outcome at hoffers' hsession' ⊢
    obtain ⟨_ | _, dispatcher', session'⟩ := outcome
    · exact ⟨hoffers', hsession'⟩
    · exact ih hoffers' hsession'

/-- It lasts through the standard configuration. -/
theorem startingSession (hsession : P session) :
    (Script.startingSession session).2.1.Offers Command.builtin ∧
      P (Script.startingSession session).2.2 :=
  h.runStrictly Dispatcher.offers_standard hsession Script.standard

theorem runLines (hoffers : dispatcher.Offers Command.builtin) (hsession : P session)
    (lines : List (Nat × String)) :
    (Script.runLines lines dispatcher session).2.1.Offers Command.builtin ∧
      P (Script.runLines lines dispatcher session).2.2 := by
  induction lines generalizing dispatcher session with
  | nil => exact ⟨hoffers, hsession⟩
  | cons first lines ih =>
    obtain ⟨number, line⟩ := first
    have hrest := ih (hoffers.dispatch line session) (h.dispatch hoffers hsession line)
    unfold Script.runLines
    generalize dispatcher.dispatch line session = outcome at hrest ⊢
    obtain ⟨_ | _, dispatcher', session'⟩ := outcome
    · exact hrest
    · exact hrest

theorem runFile (hoffers : dispatcher.Offers Command.builtin) (hsession : P session)
    (content : Option (List UInt8)) :
    (Script.runFile content dispatcher session).2.1.Offers Command.builtin ∧
      P (Script.runFile content dispatcher session).2.2 := by
  unfold Script.runFile
  split
  · exact ⟨hoffers, hsession⟩
  · split
    · exact ⟨hoffers, hsession⟩
    · next script _ =>
      have hrun := h.runLines hoffers hsession (Script.commandLines script)
      unfold Script.run
      generalize Script.runLines (Script.commandLines script) dispatcher session = outcome
        at hrun ⊢
      exact hrun

/-- It lasts through the configuration of the user. -/
theorem carryOut (file : ConfigFile) (hoffers : dispatcher.Offers Command.builtin)
    (hsession : P session) :
    (file.carryOut dispatcher session).1.Offers Command.builtin ∧
      P (file.carryOut dispatcher session).2 := by
  cases hcontent : file.content with
  | ok content =>
    have hread := h.runFile hoffers hsession content
    unfold ConfigFile.carryOut
    rw [hcontent]
    dsimp only
    split
    · exact ⟨hread.1, h.setError _ hread.2⟩
    · exact hread
  | error reason =>
    unfold ConfigFile.carryOut
    rw [hcontent]
    exact ⟨hoffers, h.setError _ hsession⟩

theorem furnish {startup : Startup} {config : Option ConfigFile} {network : ω} {clock : Nat}
    {outcome : Except DispatchError Unit × Dispatcher (Session σ) × Session σ}
    {c : Controller ω σ} (hoffers : outcome.2.1.Offers Command.builtin) (hsession : P outcome.2.2)
    (hclient : startup.furnish config network clock outcome = .ok c) :
    c.dispatcher.Offers Command.builtin ∧ P c.session ∧ c.resolver.held = none := by
  obtain ⟨_ | _, dispatcher, session⟩ := outcome
  · cases hclient
  · cases config with
    | none =>
      cases hclient
      exact ⟨hoffers, hsession, rfl⟩
    | some file =>
      have hcarried := h.carryOut file hoffers hsession
      cases hclient
      exact ⟨hcarried.1, hcarried.2, rfl⟩

/-- It holds of every client that is launched. -/
theorem client? [Network ω σ] {chance : Chance} (hfirst : P { chance }) {startup : Startup}
    {config : Option ConfigFile} {network : ω} {clock : Nat} {c : Controller ω σ}
    (hclient : startup.client? config network chance clock = .ok c) :
    c.dispatcher.Offers Command.builtin ∧ P c.session ∧ c.resolver.held = none := by
  obtain ⟨hoffers, hstarted⟩ := h.startingSession hfirst
  exact h.furnish hoffers hstarted hclient

end Session.Lasting

end Jukebox
