import Jukebox.Playback.Rehearsal
import Jukebox.Proofs.KeyLines
import Jukebox.Proofs.Resolving

/-
# Keys that come late

Keys on hold expire at their deadline, but nothing happens until somebody looks. When it is a new key
that comes first, the controller resolves it together with the keys on hold: with the bindings that
there are before their command line runs, and in the mode that there is before it runs. The escape key
just lets go of the keys on hold. So a late key does what it would have done after a tick unless their
command line meddles with it.
-/

namespace Jukebox

namespace Resolver

variable {r : Resolver} {now : Nat} {map map' : Keymap} {key : Key}

/-- A key that puts nothing on hold and runs nothing means nothing. -/
theorem extend_eq_unbound (hidle : (r.extend map key now).2.held = none)
    (hline : (r.extend map key now).1.line? = none) : (r.extend map key now).1 = .unbound := by
  have hcases := r.extended map key now
  generalize r.extend map key now = outcome at hidle hline hcases ⊢
  cases hcases with
  | held => cases hidle
  | bound => cases hline
  | unbound => rfl

/-- What is on hold and what runs tells what a key amounted to. -/
theorem extend_eq_of_line? (hline : (r.extend map key now).1.line? = (r.extend map' key now).1.line?)
    (hheld : (r.extend map key now).2 = (r.extend map' key now).2) :
    r.extend map key now = r.extend map' key now := by
  refine Prod.ext ?_ hheld
  have hcases := r.extended map key now
  have hcases' := r.extended map' key now
  generalize r.extend map key now = ours, r.extend map' key now = theirs
    at hline hheld hcases hcases' ⊢
  cases hcases with
  | held =>
    cases hcases' with
    | held => rfl
    | bound | unbound => exact absurd (congrArg Resolver.held hheld) nofun
  | bound line =>
    cases hcases' with
    | held => exact absurd (congrArg Resolver.held hheld) nofun
    | bound line' => exact congrArg Resolution.dispatch (Option.some.inj hline)
    | unbound => cases hline
  | unbound =>
    cases hcases' with
    | held => exact absurd (congrArg Resolver.held hheld) nofun
    | bound => cases hline
    | unbound => rfl

end Resolver

theorem LineEdit.eq_of_ofKey_eq_submit {line submitted : String} {event : KeyEvent}
    (h : ofKey line event = .submit submitted) : submitted = line := by
  unfold ofKey at h
  split at h
  · cases h
    rfl
  · cases h
  · split at h <;> cases h
  · split at h
    · split at h
      · cases h
      · split at h <;> cases h
    · cases h
  · cases h

namespace Controller

variable {ω σ : Type}

/-- What a key amounts to when nothing is on hold. -/
def alone (c : Controller ω σ) (event : KeyEvent) (now : Nat) : Resolution × Resolver :=
  c.resolver.cancel.extend c.session.keymap (Key.ofEvent event) now

/-- Two controllers that differ in the message at most. -/
def SameButMessage (c d : Controller ω σ) : Prop :=
  c.modifyUi (·.clearMessage) = d.modifyUi (·.clearMessage)

/-- A key comes when keys on hold have already been held too long. -/
structure Late (c : Controller ω σ) (event : KeyEvent) (now : Nat) : Prop where
  mode : c.session.ui.mode = .normal
  motion : event.motion = .press
  expired : c.resolver.Expired now

/-- The command line of the keys on hold does not meddle with the key that comes late. If that is the
escape key, there is no such command line, and the key means nothing. If the command line leaves keys
to run commands, the key amounts to the same after it as before it. If the command line has keys typed,
the key meant nothing before it, and does not type either. -/
def Undisturbed (c : Controller ω σ) (event : KeyEvent) (now : Nat) : Prop :=
  if event.code = .escape then c.expiredLines now = [] ∧ (c.alone event now).1 = .unbound
  else match (c.expireKeys now).session.ui.mode with
    | .normal => (c.expireKeys now).alone event now = c.alone event now
    | .input | .search =>
      (c.alone event now).1 = .unbound ∧
        ((c.expireKeys now).handleKey event now).SameButMessage (c.expireKeys now)

theorem runLine_blank (c : Controller ω σ) : c.runLine "" = c := by
  have hblank : Token.ofLine "" = [.endOfLine] := by decide +kernel
  unfold runLine Dispatcher.dispatch
  rw [hblank]

/-- Typing does not concern keys on hold. -/
theorem resolver_handleKey {c : Controller ω σ} (hmode : c.session.ui.mode ≠ .normal)
    (event : KeyEvent) (now : Nat) : (c.handleKey event now).resolver = c.resolver := by
  rw [handleKey_eq, resolver_runLines]
  unfold takeIn
  split
  · rfl
  · cases htyping : c.session.ui.mode with
    | normal => exact absurd htyping hmode
    | input =>
      dsimp only
      cases LineEdit.ofKey c.session.ui.input event <;> rfl
    | search =>
      dsimp only [searchKey]
      cases LineEdit.ofKey c.session.ui.input event <;> rfl

/-- Where nothing is typed yet, no line but the blank one can be finished. -/
theorem keyLines_of_blank {c : Controller ω σ} (hblank : c.session.ui.Blank)
    (hmode : c.session.ui.mode ≠ .normal) (event : KeyEvent) (now : Nat) :
    c.keyLines event now = [] ∨
      c.keyLines event now = [""] ∧ (c.handleKey event now).session.ui.mode = .normal := by
  rw [handleKey_eq]
  unfold keyLines takeIn
  split
  · exact .inl rfl
  · cases htyping : c.session.ui.mode with
    | normal => exact absurd htyping hmode
    | search => exact .inl rfl
    | input =>
      dsimp only
      cases hkey : LineEdit.ofKey c.session.ui.input event with
      | cancel | change _ | ignore => exact .inl rfl
      | submit line =>
        obtain rfl : line = "" := by
          rw [LineEdit.eq_of_ofKey_eq_submit hkey]
          exact hblank hmode
        refine .inr ⟨rfl, ?_⟩
        exact congrArg (·.session.ui.mode) (runLine_blank (c.modifyUi (·.setMode .normal)))

/-- A key that comes while nothing is expired amounts to what it does with the keys on hold. -/
theorem key_of_not_expired {c : Controller ω σ} {event : KeyEvent} {now : Nat}
    (hmode : c.session.ui.mode = .normal) (hmotion : event.motion = .press)
    (hcancel : ¬ (event.code = .escape ∧ c.resolver.held.isSome))
    (hwaiting : ¬ c.resolver.Expired now) :
    c.keyLines event now =
        (c.resolver.extend c.session.keymap (Key.ofEvent event) now).1.line?.toList ∧
      c.takeIn event now = (c.modifyUi (·.clearMessage)).hold
        (c.resolver.extend c.session.keymap (Key.ofEvent event) now).2 :=
  key_of_press hmode hmotion hcancel (Resolver.expire_of_not_expired hwaiting _)

section Late

variable {c : Controller ω σ} {event : KeyEvent} {now : Nat} (h : c.Late event now)

include h

theorem Late.expireKeys_eq :
    c.expireKeys now = (c.hold c.resolver.cancel).runLines (c.expiredLines now) := by
  rw [Controller.expireKeys_eq, Resolver.expire_of_expired h.expired]

theorem Late.resolver_expireKeys : (c.expireKeys now).resolver = c.resolver.cancel := by
  rw [h.expireKeys_eq, resolver_runLines]
  rfl

theorem Late.alone_expireKeys : (c.expireKeys now).alone event now =
    c.resolver.cancel.extend (c.expireKeys now).session.keymap (Key.ofEvent event) now := by
  unfold alone
  rw [h.resolver_expireKeys]
  rfl

/-- A command line that leaves the key bindings, and has keys run commands, does not meddle. -/
theorem Late.undisturbed (hcode : event.code ≠ .escape)
    (hmode : (c.expireKeys now).session.ui.mode = .normal)
    (hkeymap : (c.expireKeys now).session.keymap = c.session.keymap) :
    c.Undisturbed event now := by
  unfold Undisturbed
  rw [if_neg hcode, hmode]
  show (c.expireKeys now).alone event now = c.alone event now
  rw [h.alone_expireKeys, hkeymap]
  rfl

/-- After a tick the key is resolved with what the command line of the tick left. -/
theorem Late.key_expireKeys (hmode : (c.expireKeys now).session.ui.mode = .normal) :
    (c.expireKeys now).keyLines event now = ((c.expireKeys now).alone event now).1.line?.toList ∧
      (c.expireKeys now).takeIn event now =
        ((c.expireKeys now).modifyUi (·.clearMessage)).hold
          ((c.expireKeys now).alone event now).2 := by
  have hidle : (c.expireKeys now).resolver.held = none := by
    rw [h.resolver_expireKeys]
    rfl
  have halone : (c.expireKeys now).alone event now = (c.expireKeys now).resolver.extend
      (c.expireKeys now).session.keymap (Key.ofEvent event) now := by
    rw [h.alone_expireKeys, h.resolver_expireKeys]
  rw [halone]
  refine key_of_not_expired hmode h.motion ?_ (Resolver.not_expired_of_idle hidle)
  rw [hidle]
  exact fun hcancel => nomatch hcancel.2

/-- If no command line expires, a tick just lets go of the keys on hold. -/
theorem Late.expireKeys_of_silent (hsilent : c.expiredLines now = []) :
    c.expireKeys now = c.hold c.resolver.cancel := by
  rw [h.expireKeys_eq, hsilent]
  rfl

/-- Then the key is resolved with the bindings that there were. -/
theorem Late.key_of_silent (hsilent : c.expiredLines now = []) :
    (c.expireKeys now).keyLines event now = (c.alone event now).1.line?.toList ∧
      (c.expireKeys now).takeIn event now =
        ((c.expireKeys now).modifyUi (·.clearMessage)).hold (c.alone event now).2 := by
  have hafter := h.expireKeys_of_silent hsilent
  have hmode : (c.expireKeys now).session.ui.mode = .normal := by
    rw [hafter]
    exact h.mode
  have halone : (c.expireKeys now).alone event now = c.alone event now := by
    rw [h.alone_expireKeys, hafter]
    rfl
  rw [← halone]
  exact h.key_expireKeys hmode

/-- Without a tick the key is resolved with what there was before the command line. -/
theorem Late.key (hcode : event.code ≠ .escape) :
    c.keyLines event now = c.expiredLines now ++ (c.alone event now).1.line?.toList ∧
      c.takeIn event now = (c.modifyUi (·.clearMessage)).hold (c.alone event now).2 := by
  have hexpire := Resolver.expire_of_expired h.expired c.session.keymap
  obtain ⟨hlines, htaken⟩ := key_of_press h.mode h.motion (fun hcancel => hcode hcancel.1) hexpire
  rw [hlines, htaken, expiredLines, hexpire]
  exact ⟨rfl, rfl⟩

/-- It comes after the command line, which runs without the keys on hold and the message. -/
theorem Late.handleKey (hcode : event.code ≠ .escape) :
    c.handleKey event now =
      (((c.modifyUi (·.clearMessage)).hold (c.alone event now).2).runLines
        (c.expiredLines now)).runLines (c.alone event now).1.line?.toList := by
  obtain ⟨hlines, htaken⟩ := h.key hcode
  rw [handleKey_eq, htaken, hlines, runLines_append]

theorem Late.key_of_escape (hcode : event.code = .escape) :
    c.keyLines event now = [] ∧
      c.takeIn event now = (c.modifyUi (·.clearMessage)).hold c.resolver.cancel := by
  exact key_of_cancel h.mode h.motion ⟨hcode, h.expired.isSome⟩ now

end Late

section Same

variable {c d : Controller ω σ}

theorem SameButMessage.resolver (h : c.SameButMessage d) : c.resolver = d.resolver := by
  unfold SameButMessage at h
  exact (congrArg Controller.resolver h :)

theorem SameButMessage.mode (h : c.SameButMessage d) : c.session.ui.mode = d.session.ui.mode := by
  unfold SameButMessage at h
  exact (congrArg (·.session.ui.mode) h :)

theorem SameButMessage.input (h : c.SameButMessage d) :
    c.session.ui.input = d.session.ui.input := by
  unfold SameButMessage at h
  exact (congrArg (·.session.ui.input) h :)

/-- The keys on hold may change under way if in the end they are the same. -/
theorem Twins.sameButMessage {keys : String} {quiet : Prop}
    (h : c.Twins (Ui.Apart keys keys) quiet d) (hresolver : c.resolver = d.resolver) :
    c.SameButMessage d := by
  obtain ⟨hkeys, message, hui⟩ := h.session.ui
  have hsession : c.session.modifyUi (·.clearMessage) = d.session.modifyUi (·.clearMessage) := by
    unfold Session.modifyUi
    rw [hui, h.session.settings, h.session.styles, h.session.keymap, h.session.browser,
      h.session.player, h.session.chance, ← hkeys]
    rfl
  unfold SameButMessage
  rw [h.rest, ← hresolver]
  exact congrArg (fun session => { c with session }) hsession

end Same

/-- Without keys on hold, the message or the keys that were shown, a controller is its own twin. -/
theorem twins_hold (c : Controller ω σ) (first second : Resolver) :
    ((c.modifyUi (·.clearMessage)).hold first).Twins
      (Ui.Apart (Key.displaySequence first.keys) (Key.displaySequence second.keys)) False
      (c.hold second) :=
  ⟨⟨rfl, rfl, rfl, rfl, rfl, rfl, ⟨rfl, c.session.ui.message, rfl⟩, False.elim⟩, rfl⟩

theorem Twins.hold_right {c d : Controller ω σ} {first second : String}
    (h : c.Twins (Ui.Apart first second) False d) (resolver : Resolver) :
    c.Twins (Ui.Apart first (Key.displaySequence resolver.keys)) False
      ((d.modifyUi (·.clearMessage)).hold resolver) := by
  obtain ⟨hkeys, message, hui⟩ := h.session.ui
  constructor
  · refine { h.session with ui := ⟨hkeys, none, ?_⟩ }
    change { d.session.ui.clearMessage with heldKeys := Key.displaySequence resolver.keys } = _
    rw [hui]
    rfl
  · exact congrArg (fun d : Controller ω σ => (d.modifyUi (·.clearMessage)).hold resolver) h.rest

variable [Service σ]

/-- The command lines of the keys on hold come to the same before the new key and after a tick. -/
theorem Late.twins {c : Controller ω σ} {event : KeyEvent} {now : Nat} (h : c.Late event now)
    (hoffers : c.dispatcher.Offers Command.builtin) (resolver : Resolver) :
    (((c.modifyUi (·.clearMessage)).hold resolver).runLines (c.expiredLines now)).Twins
      (Ui.Apart (Key.displaySequence resolver.keys) (Key.displaySequence [])) False
      (c.expireKeys now) := by
  rw [h.expireKeys_eq]
  exact (c.twins_hold resolver c.resolver.cancel).runLines (Ui.steady_apart _ _) hoffers _

/-- So they come to the same input mode. -/
theorem Late.mode_expireKeys {c : Controller ω σ} {event : KeyEvent} {now : Nat}
    (h : c.Late event now) (hoffers : c.dispatcher.Offers Command.builtin) (resolver : Resolver) :
    (c.expireKeys now).session.ui.mode =
      (((c.modifyUi (·.clearMessage)).hold resolver).runLines
        (c.expiredLines now)).session.ui.mode := by
  obtain ⟨-, message, hui⟩ := (h.twins hoffers resolver).session.ui
  rw [hui]

/-- A late key that means nothing leaves behind what a tick does. -/
theorem Late.sameButMessage_of_unbound {c : Controller ω σ} {event : KeyEvent} {now : Nat}
    (h : c.Late event now) (hoffers : c.dispatcher.Offers Command.builtin)
    (hcode : event.code ≠ .escape) (hmeaning : (c.alone event now).1 = .unbound) :
    (c.handleKey event now).SameButMessage (c.expireKeys now) := by
  have htwins := h.twins hoffers c.resolver.cancel
  have hidle : (c.alone event now).2 = c.resolver.cancel := Resolver.extend_of_unbound hmeaning
  rw [h.handleKey hcode, hmeaning, hidle]
  refine htwins.sameButMessage ?_
  rw [h.resolver_expireKeys, resolver_runLines]
  rfl

/-- While keys run commands, the late key comes to the same before and after a tick just if it is
resolved to the same. -/
theorem Late.same_iff_of_normal {c : Controller ω σ} {event : KeyEvent} {now : Nat}
    (h : c.Late event now) (hoffers : c.dispatcher.Offers Command.builtin)
    (hcode : event.code ≠ .escape) (hmode : (c.expireKeys now).session.ui.mode = .normal) :
    (c.keyLines event now = c.expiredLines now ++ (c.expireKeys now).keyLines event now ∧
        (c.handleKey event now).SameButMessage ((c.expireKeys now).handleKey event now)) ↔
      (c.expireKeys now).alone event now = c.alone event now := by
  obtain ⟨hlines, htaken⟩ := h.key hcode
  obtain ⟨hlines', htaken'⟩ := h.key_expireKeys hmode
  -- What expired is the same in both, so it is what the key amounts to that has to be compared.
  rw [handleKey_eq, handleKey_eq, htaken, htaken', hlines, hlines', List.append_right_inj]
  constructor
  · rintro ⟨hlist, hsame⟩
    have hresolver := hsame.resolver
    rw [resolver_runLines, resolver_runLines] at hresolver
    change (c.alone event now).2 = ((c.expireKeys now).alone event now).2 at hresolver
    have hline : (c.alone event now).1.line? = ((c.expireKeys now).alone event now).1.line? := by
      simpa only [Option.head?_toList] using congrArg List.head? hlist
    rw [h.alone_expireKeys] at hline hresolver ⊢
    exact (Resolver.extend_eq_of_line? hline hresolver).symm
  · intro halone
    rw [halone]
    refine ⟨rfl, ?_⟩
    have htwins := (h.twins hoffers (c.alone event now).2).hold_right (c.alone event now).2
    rw [runLines_append]
    refine (htwins.runLines (Ui.steady_apart _ _) (offers_runLines ?_ _) _).sameButMessage ?_
    · exact hoffers
    · rw [resolver_runLines, resolver_runLines, resolver_runLines]
      rfl

/-- Once keys are typed, the late key comes to the same before and after a tick just if it does
nothing at all. -/
theorem Late.same_iff_of_typing {c : Controller ω σ} {event : KeyEvent} {now : Nat}
    (h : c.Late event now) (hoffers : c.dispatcher.Offers Command.builtin)
    (hcode : event.code ≠ .escape) (hmode : (c.expireKeys now).session.ui.mode ≠ .normal) :
    (c.keyLines event now = c.expiredLines now ++ (c.expireKeys now).keyLines event now ∧
        (c.handleKey event now).SameButMessage ((c.expireKeys now).handleKey event now)) ↔
      (c.alone event now).1 = .unbound ∧
        ((c.expireKeys now).handleKey event now).SameButMessage (c.expireKeys now) := by
  have hblank : (c.expireKeys now).session.ui.Blank := by
    rw [h.expireKeys_eq]
    exact blank_runLines (c := c.hold c.resolver.cancel) hoffers (absurd h.mode ·) _
  have htyped := keyLines_of_blank hblank hmode event now
  have hhandled := h.handleKey hcode
  rw [(h.key hcode).1, List.append_right_inj]
  constructor
  · rintro ⟨hline, hsame⟩
    -- Either the key does not finish the line that is typed, or it finishes a blank one. Then typing
    -- is over; but it is not over where the key comes before the tick.
    rcases htyped with hnone | ⟨hblankLine, hnormal⟩
    · have hresolver := hsame.resolver
      rw [resolver_handleKey hmode, h.resolver_expireKeys, hhandled, resolver_runLines,
        resolver_runLines] at hresolver
      rw [hnone, Option.toList_eq_nil_iff] at hline
      have hmeaning : (c.alone event now).1 = .unbound :=
        Resolver.extend_eq_unbound (congrArg Resolver.held hresolver) hline
      exact ⟨hmeaning, hsame.symm.trans (h.sameButMessage_of_unbound hoffers hcode hmeaning)⟩
    · rw [hblankLine] at hline
      have hstill : (c.handleKey event now).session.ui.mode = (c.expireKeys now).session.ui.mode := by
        rw [hhandled, hline, h.mode_expireKeys hoffers (c.alone event now).2]
        exact congrArg (fun c : Controller ω σ => c.session.ui.mode) (runLine_blank _)
      exact absurd (hstill.symm.trans (hsame.mode.trans hnormal)) hmode
  · rintro ⟨hmeaning, hnothing⟩
    have hsame := h.sameButMessage_of_unbound hoffers hcode hmeaning
    refine ⟨?_, hsame.trans hnothing.symm⟩
    rw [hmeaning]
    rcases htyped with hnone | ⟨-, hnormal⟩
    · exact hnone.symm
    · exact absurd (hnothing.mode.symm.trans hnormal) hmode

omit [Service σ] in
/-- The escape key comes to the same before and after a tick just if nothing runs in either. -/
theorem Late.same_iff_of_escape {c : Controller ω σ} {event : KeyEvent} {now : Nat}
    (h : c.Late event now) (hcode : event.code = .escape) :
    (c.keyLines event now = c.expiredLines now ++ (c.expireKeys now).keyLines event now ∧
        (c.handleKey event now).SameButMessage ((c.expireKeys now).handleKey event now)) ↔
      c.expiredLines now = [] ∧ (c.alone event now).1 = .unbound := by
  obtain ⟨hlines, htaken⟩ := h.key_of_escape hcode
  rw [handleKey_eq, handleKey_eq, hlines, htaken, eq_comm, List.append_eq_nil_iff]
  constructor
  · rintro ⟨⟨hsilent, hline⟩, hsame⟩
    obtain ⟨hlines', htaken'⟩ := h.key_of_silent hsilent
    rw [hlines', Option.toList_eq_nil_iff] at hline
    rw [htaken'] at hsame
    have hresolver := hsame.resolver
    rw [resolver_runLines, resolver_runLines] at hresolver
    have hidle : (c.alone event now).2.held = none := (congrArg Resolver.held hresolver).symm
    exact ⟨hsilent, Resolver.extend_eq_unbound hidle hline⟩
  · rintro ⟨hsilent, hmeaning⟩
    obtain ⟨hlines', htaken'⟩ := h.key_of_silent hsilent
    have hidle : (c.alone event now).2 = c.resolver.cancel := Resolver.extend_of_unbound hmeaning
    rw [hlines', htaken', hmeaning, hidle, h.expireKeys_of_silent hsilent]
    exact ⟨⟨hsilent, rfl⟩, rfl⟩

/-- Whatever the keys on hold stand for and whatever chance draws: a key that comes after their deadline
runs the same command lines in the same order as after a tick, and leaves the same behind but for the
message, just if it is not disturbed. -/
theorem late_key_eq_iff_undisturbed (c : Controller ω σ) (event : KeyEvent) (now : Nat)
    (h : c.Late event now) (hoffers : c.dispatcher.Offers Command.builtin) :
    (c.keyLines event now = c.expiredLines now ++ (c.expireKeys now).keyLines event now ∧
        (c.handleKey event now).SameButMessage ((c.expireKeys now).handleKey event now)) ↔
      c.Undisturbed event now := by
  unfold Undisturbed
  split
  · next hcode => exact h.same_iff_of_escape hcode
  · next hcode =>
    cases hmode : (c.expireKeys now).session.ui.mode with
    | normal => exact h.same_iff_of_normal hoffers hcode hmode
    | input | search =>
      refine h.same_iff_of_typing hoffers hcode ?_
      rw [hmode]
      exact nofun

/-- A client that has not connected and in which nothing is bound. -/
def unboundClient : Controller Unit Rehearsal where
  session := { chance := .first }
  dispatcher := .standard
  resolver := { timeout := Resolver.defaultTimeout }
  network := ()
  server := { host := "localhost", port := 6600 }

/-- A client with a command line bound to `g`, where `g` was pressed and may go on to `gg`. -/
def holding (line : String) : Controller Unit Rehearsal :=
  (unboundClient.runLines ["bind g " ++ line, "bind gg quit"]).handleKey { code := .char 'g' } 0

theorem offers_holding (line : String) : (holding line).dispatcher.Offers Command.builtin := by
  have hstandard : unboundClient.dispatcher = .standard := by
    unfold unboundClient
    rfl
  have hlines := offers_runLines (hstandard ▸ Dispatcher.offers_standard)
    ["bind g " ++ line, "bind gg quit"]
  exact (led_handleKey hlines _ 0).offers hlines

/-- The screen is drawn anew, and then `x` means as little as before. -/
theorem late_key_after_redraw :
    (holding "redraw").Late { code := .char 'x' } 1000 ∧
    ((holding "redraw").keyLines { code := .char 'x' } 1000 =
        (holding "redraw").expiredLines 1000 ++
          ((holding "redraw").expireKeys 1000).keyLines { code := .char 'x' } 1000 ∧
      ((holding "redraw").handleKey { code := .char 'x' } 1000).SameButMessage
        (((holding "redraw").expireKeys 1000).handleKey { code := .char 'x' } 1000)) := by
  have hlate : (holding "redraw").Late { code := .char 'x' } 1000 :=
    ⟨by decide +kernel, rfl, ⟨[.ofChar 'g'], 1000⟩, by decide +kernel, Nat.le_refl 1000⟩
  have hmode : ((holding "redraw").expireKeys 1000).session.ui.mode = .normal := by decide +kernel
  have hkeymap : ((holding "redraw").expireKeys 1000).session.keymap =
      (holding "redraw").session.keymap :=
    congrArg Keymap.mk (show _ = (holding "redraw").session.keymap.bindings by decide +kernel)
  exact ⟨hlate, (late_key_eq_iff_undisturbed _ _ _ hlate (offers_holding "redraw")).2
    (hlate.undisturbed (by decide) hmode hkeymap)⟩

/-- The command line of `g` has keys typed, so after a tick an `x` is typed; but if the `x` comes
before the tick it is dropped. -/
theorem late_key_is_not_typed :
    (holding "inputmode input").Late { code := .char 'x' } 1000 ∧
    ¬ ((holding "inputmode input").keyLines { code := .char 'x' } 1000 =
          (holding "inputmode input").expiredLines 1000 ++
            ((holding "inputmode input").expireKeys 1000).keyLines { code := .char 'x' } 1000 ∧
        ((holding "inputmode input").handleKey { code := .char 'x' } 1000).SameButMessage
          (((holding "inputmode input").expireKeys 1000).handleKey { code := .char 'x' } 1000)) := by
  refine ⟨⟨by decide +kernel, rfl, ⟨[.ofChar 'g'], 1000⟩, by decide +kernel, Nat.le_refl 1000⟩, ?_⟩
  rintro ⟨-, hsame⟩
  have hnothing : ((holding "inputmode input").handleKey
      { code := .char 'x' } 1000).session.ui.input = "" := by decide +kernel
  have htyped : (((holding "inputmode input").expireKeys 1000).handleKey
      { code := .char 'x' } 1000).session.ui.input = "x" := by decide +kernel
  exact absurd (hnothing.symm.trans (hsame.input.trans htyped)) (by decide)

end Controller

end Jukebox
