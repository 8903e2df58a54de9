import Jukebox.Proofs.LateKey
import Jukebox.Proofs.Launching
import Jukebox.Proofs.Upkeep

/-
# Typing

While a command line or a search term is typed, no keys should be on hold: they could expire, and a
command would run in the midst of typing. And what a search finds should be on screen just while there
is a term. Keys, ticks and news of the server keep it that way, but for one case: a key that comes late
may be put on hold before the command line of the keys before it has keys typed. So typing is coherent
all through a run unless that happens in it.
-/

namespace Jukebox

/-- No command line types, so all is calm however a client is launched. -/
theorem Session.lasting_calm {σ : Type} [Service σ] :
    Session.Lasting fun session : Session σ => session.Calm where
  dispatch hoffers hcalm line := hcalm.dispatch hoffers line
  setError _ hcalm := ⟨hcalm.blank, hcalm.search⟩

namespace Controller

open Wire

variable {ω σ : Type}

/-- While keys are typed none are on hold, and a search is shown just while there is a term for it. -/
structure Coherent (c : Controller ω σ) : Prop where
  idle : c.session.ui.mode ≠ .normal → c.resolver.held = none
  search : c.session.browser.search.isSome ↔
    c.session.ui.mode = .search ∧ c.session.ui.input ≠ ""

/-- So a tick runs no command while keys are typed. -/
theorem Coherent.expiredLines_eq_nil {c : Controller ω σ} (h : c.Coherent)
    (hmode : c.session.ui.mode ≠ .normal) (now : Nat) : c.expiredLines now = [] := by
  unfold expiredLines
  rw [Resolver.expire_of_not_expired (Resolver.not_expired_of_idle (h.idle hmode))]
  rfl

theorem Coherent.search_eq_none {c : Controller ω σ} (h : c.Coherent)
    (hmode : c.session.ui.mode ≠ .search) : c.session.browser.search = none := by
  rw [← Option.not_isSome_iff_eq_none, h.search]
  exact fun hboth => hmode hboth.1

/-- While keys run commands all is calm. -/
theorem Coherent.calm {c : Controller ω σ} (h : c.Coherent) (hmode : c.session.ui.mode = .normal) :
    c.session.Calm :=
  ⟨absurd hmode, h.search_eq_none (by rw [hmode]; exact nofun)⟩

/-- While all is calm, typing is coherent if no keys are on hold. -/
theorem coherent_of_calm {c : Controller ω σ} (hcalm : c.session.Calm)
    (hidle : c.session.ui.mode ≠ .normal → c.resolver.held = none) : c.Coherent := by
  refine ⟨hidle, ?_⟩
  rw [hcalm.search]
  constructor
  · exact nofun
  · rintro ⟨hmode, hinput⟩
    refine absurd (hcalm.blank ?_) hinput
    rw [hmode]
    exact nofun

theorem Coherent.of_upkept {c d : Controller ω σ} (h : c.Coherent) (hupkept : Upkept c d) :
    d.Coherent := by
  obtain ⟨-, hresolver, hmode, hinput, hsearch⟩ := hupkept
  constructor
  · rw [hresolver, hmode]
    exact h.idle
  · rw [hsearch, hmode, hinput]
    exact h.search

theorem coherent_iff_of_upkept {c d : Controller ω σ} (h : Upkept c d) :
    d.Coherent ↔ c.Coherent :=
  ⟨fun hd => hd.of_upkept
    ⟨h.dispatcher.symm, h.resolver.symm, h.mode.symm, h.input.symm, h.search.symm⟩,
    fun hc => hc.of_upkept h⟩

/-- A controller before its first event. -/
structure Ready [Service σ] (c : Controller ω σ) : Prop where
  offers : c.dispatcher.Offers Command.builtin
  idle : c.resolver.held = none
  calm : c.session.Calm

/-- Whatever the configuration, a client that is launched is ready. -/
theorem ready_of_client? [Network ω σ] [Service σ] {startup : Startup}
    {config : Option ConfigFile} {network : ω} {chance : Chance} {clock : Nat} {c : Controller ω σ}
    (h : startup.client? config network chance clock = .ok c) : c.Ready := by
  have hfirst : ({ chance } : Session σ).Calm := ⟨fun _ => rfl, rfl⟩
  obtain ⟨hoffers, hcalm, hidle⟩ := Session.lasting_calm.client? hfirst h
  exact ⟨hoffers, hidle, hcalm⟩

/-- A key that comes late is put on hold, since with the key bindings before the command line of the
keys that expired it may begin a sequence; but that command line has keys typed. -/
structure Overtaken (c : Controller ω σ) (event : KeyEvent) (now : Nat) : Prop where
  late : c.Late event now
  code : event.code ≠ .escape
  longer : c.session.keymap.hasLonger [Key.ofEvent event]
  typing : (c.expireKeys now).session.ui.mode ≠ .normal

section Keys

variable [Service σ] {c : Controller ω σ}

theorem calm_runLines (hoffers : c.dispatcher.Offers Command.builtin) (hcalm : c.session.Calm)
    (lines : List String) : (c.runLines lines).session.Calm := by
  have hself : c.Twins (fun u v => v = u ∧ u.Blank) True c :=
    ⟨Session.twins_self hcalm.blank fun _ => hcalm.search, rfl⟩
  have hafter := (hself.runLines Ui.steady_blank hoffers lines).session
  exact ⟨hafter.ui.2, hafter.search trivial⟩

/-- Command lines may run while all is calm and no keys are on hold. -/
theorem coherent_runLines (hoffers : c.dispatcher.Offers Command.builtin) (hcalm : c.session.Calm)
    (hidle : c.resolver.held = none) (lines : List String) : (c.runLines lines).Coherent := by
  refine coherent_of_calm (calm_runLines hoffers hcalm lines) fun _ => ?_
  rw [resolver_runLines]
  exact hidle

theorem Coherent.expireKeys (h : c.Coherent) (hoffers : c.dispatcher.Offers Command.builtin)
    (now : Nat) : (c.expireKeys now).Coherent := by
  rw [expireKeys_eq]
  by_cases hexpired : c.resolver.Expired now
  · have hmode : c.session.ui.mode = .normal := by
      by_contra htyping
      exact Resolver.not_expired_of_idle (h.idle htyping) hexpired
    have hcalm := h.calm hmode
    rw [Resolver.expire_of_expired hexpired]
    exact coherent_runLines (c := c.hold c.resolver.cancel) hoffers
      ⟨hcalm.blank, hcalm.search⟩ rfl _
  · have hexpire := Resolver.expire_of_not_expired hexpired c.session.keymap
    rw [expiredLines, hexpire]
    exact ⟨h.idle, h.search⟩

/-- Whatever is typed, typing stays coherent. -/
theorem Coherent.handleKey_of_typing (h : c.Coherent)
    (hoffers : c.dispatcher.Offers Command.builtin) (hmode : c.session.ui.mode ≠ .normal)
    (event : KeyEvent) (now : Nat) : (c.handleKey event now).Coherent := by
  have hidle := h.idle hmode
  unfold handleKey
  split
  · exact h
  · cases htyping : c.session.ui.mode with
    | normal => exact absurd htyping hmode
    | input =>
      have hsearch : c.session.browser.search = none :=
        h.search_eq_none (by rw [htyping]; exact nofun)
      dsimp only [inputKey]
      cases LineEdit.ofKey c.session.ui.input event with
      | submit line =>
        exact coherent_runLines (c := c.modifyUi (·.setMode .normal)) hoffers
          ⟨fun _ => rfl, hsearch⟩ hidle [line]
      | cancel => exact coherent_of_calm ⟨fun _ => rfl, hsearch⟩ fun _ => hidle
      | change line =>
        refine ⟨fun _ => hidle, ?_⟩
        show c.session.browser.search.isSome ↔ c.session.ui.mode = .search ∧ line ≠ ""
        rw [hsearch, htyping]
        exact ⟨nofun, nofun⟩
      | ignore => exact h
    | search =>
      dsimp only [searchKey]
      cases LineEdit.ofKey c.session.ui.input event with
      | submit _ =>
        refine coherent_of_calm ⟨fun _ => rfl, ?_⟩ fun _ => hidle
        show c.session.browser.commitSearch.search = none
        unfold Browser.commitSearch
        split
        · assumption
        · split <;> rfl
      | cancel => exact coherent_of_calm ⟨fun _ => rfl, rfl⟩ fun _ => hidle
      | change term =>
        refine ⟨fun _ => hidle, ?_⟩
        show (c.session.browser.showSearch term).search.isSome ↔
          c.session.ui.mode = .search ∧ term ≠ ""
        rw [htyping]
        unfold Browser.showSearch
        split
        · next hblank => simp [hblank]
        · next hterm => simp [hterm]
      | ignore => exact h

/-- A key that is resolved with nothing expired leaves typing coherent. -/
theorem Coherent.handleKey_of_not_expired (h : c.Coherent)
    (hoffers : c.dispatcher.Offers Command.builtin) {event : KeyEvent} {now : Nat}
    (hmode : c.session.ui.mode = .normal) (hmotion : event.motion = .press)
    (hcancel : ¬ (event.code = .escape ∧ c.resolver.held.isSome))
    (hwaiting : ¬ c.resolver.Expired now) : (c.handleKey event now).Coherent := by
  have hcalm := h.calm hmode
  obtain ⟨hlines, htaken⟩ := key_of_not_expired hmode hmotion hcancel hwaiting
  have hcases := c.resolver.extended c.session.keymap (Key.ofEvent event) now
  rw [handleKey_eq, htaken, hlines]
  generalize c.resolver.extend c.session.keymap (Key.ofEvent event) now = outcome at hcases ⊢
  cases hcases with
  | held => exact coherent_of_calm ⟨hcalm.blank, hcalm.search⟩ (absurd hmode)
  | bound line =>
    exact coherent_runLines (c := (c.modifyUi (·.clearMessage)).hold c.resolver.cancel) hoffers
      ⟨hcalm.blank, hcalm.search⟩ rfl _
  | unbound => exact coherent_of_calm ⟨hcalm.blank, hcalm.search⟩ fun _ => rfl

/-- A key that comes late leaves typing coherent unless it is put on hold and then overtaken. -/
theorem Late.coherent_handleKey_iff {event : KeyEvent} {now : Nat} (hlate : c.Late event now)
    (h : c.Coherent) (hoffers : c.dispatcher.Offers Command.builtin)
    (hcode : event.code ≠ .escape) :
    (c.handleKey event now).Coherent ↔ ¬ c.Overtaken event now := by
  have hcalm := h.calm hlate.mode
  obtain ⟨hlines, htaken⟩ := hlate.key hcode
  have hcases := c.resolver.cancel.extended c.session.keymap (Key.ofEvent event) now
  change Resolver.Extended _ _ _ _ (c.alone event now) at hcases
  rw [handleKey_eq, htaken, hlines]
  generalize c.alone event now = outcome at hcases ⊢
  obtain ⟨resolution, resolver⟩ := outcome
  have hstart : ((c.modifyUi (·.clearMessage)).hold resolver).session.Calm :=
    ⟨hcalm.blank, hcalm.search⟩
  have hoffered : ((c.modifyUi (·.clearMessage)).hold resolver).dispatcher.Offers
    Command.builtin := hoffers
  have hmode := hlate.mode_expireKeys hoffers resolver
  have hafter := resolver_runLines ((c.modifyUi (·.clearMessage)).hold resolver)
    (c.expiredLines now)
  cases hcases with
  | held hlonger =>
    show Coherent (runLines _ (c.expiredLines now ++ [])) ↔ _
    rw [List.append_nil]
    constructor
    · intro hcoherent hovertaken
      have hidle := hcoherent.idle (hmode ▸ hovertaken.typing)
      rw [hafter] at hidle
      cases hidle
    · intro hnot
      refine coherent_of_calm (calm_runLines hoffered hstart _) fun htyping => ?_
      exact absurd ⟨hlate, hcode, hlonger, hmode ▸ htyping⟩ hnot
  | bound line hlonger =>
    refine ⟨fun _ hovertaken => hlonger hovertaken.longer, fun _ => ?_⟩
    exact coherent_runLines hoffered hstart rfl _
  | unbound hlonger =>
    refine ⟨fun _ hovertaken => hlonger hovertaken.longer, fun _ => ?_⟩
    exact coherent_runLines hoffered hstart rfl _

/-- A key leaves typing coherent unless it comes late, is put on hold and then overtaken. -/
theorem Coherent.handleKey_iff (h : c.Coherent) (hoffers : c.dispatcher.Offers Command.builtin)
    (event : KeyEvent) (now : Nat) :
    (c.handleKey event now).Coherent ↔ ¬ c.Overtaken event now := by
  by_cases hmode : c.session.ui.mode = .normal
  · by_cases hmotion : event.motion = .press
    · by_cases hcancel : event.code = .escape ∧ c.resolver.held.isSome
      · refine ⟨fun _ hovertaken => hovertaken.code hcancel.1, fun _ => ?_⟩
        obtain ⟨hlines, htaken⟩ := key_of_cancel hmode hmotion hcancel now
        have hcalm := h.calm hmode
        rw [handleKey_eq, htaken, hlines]
        exact coherent_of_calm ⟨hcalm.blank, hcalm.search⟩ fun _ => rfl
      · by_cases hexpired : c.resolver.Expired now
        · have hlate : c.Late event now := ⟨hmode, hmotion, hexpired⟩
          exact hlate.coherent_handleKey_iff h hoffers
            fun hcode => hcancel ⟨hcode, hexpired.isSome⟩
        · refine ⟨fun _ hovertaken => hexpired hovertaken.late.expired, fun _ => ?_⟩
          exact h.handleKey_of_not_expired hoffers hmode hmotion hcancel hexpired
    · refine ⟨fun _ hovertaken => hmotion hovertaken.late.motion, fun _ => ?_⟩
      rw [handleKey, if_pos hmotion]
      exact h
  · exact ⟨fun _ hovertaken => hmode hovertaken.late.mode,
      fun _ => h.handleKey_of_typing hoffers hmode event now⟩

end Keys

section Run

variable [Network ω σ] [Service σ] {c : Controller ω σ}

/-- In an event other than a bare command line, typing stays coherent just if it is not that of a key
that is overtaken. -/
theorem Coherent.step_iff (h : c.Coherent) (hoffers : c.dispatcher.Offers Command.builtin)
    {event : Event} (hevent : ∀ line, event ≠ .line line) :
    (c.step event).Coherent ↔ ∀ key now, event = .key key now → ¬ c.Overtaken key now := by
  rw [step_eq, coherent_iff_of_upkept (upkept_attend _ event)]
  cases event with
  | line line => exact absurd rfl (hevent line)
  | key key now =>
    rw [runCommands, h.handleKey_iff hoffers]
    constructor
    · rintro hnot _ _ ⟨⟩
      exact hnot
    · intro hnot
      exact hnot key now rfl
  | tick now clock =>
    refine iff_of_true (h.expireKeys hoffers now) ?_
    intro _ _ hkey
    cases hkey
  | news | connect | shutdown =>
    refine iff_of_true h ?_
    intro _ _ hkey
    cases hkey

/-- Typing is coherent all through a run just if no key in it is overtaken. -/
theorem Coherent.run_iff (h : c.Coherent) (hoffers : c.dispatcher.Offers Command.builtin)
    {events : List Event} (hevents : ∀ line, .line line ∉ events) :
    (∀ done, done <+: events → (c.run done).Coherent) ↔
      ∀ done key now, done ++ [.key key now] <+: events → ¬ (c.run done).Overtaken key now := by
  constructor
  · intro hall done key now hpart
    have hbefore := hall done ((List.prefix_append done _).trans hpart)
    have hafter := hall (done ++ [.key key now]) hpart
    rw [run_concat] at hafter
    have hevent : ∀ line, Event.key key now ≠ .line line := by
      intro line hline
      cases hline
    exact (hbefore.step_iff (offers_run hoffers done) hevent).1 hafter key now rfl
  · intro hnone done
    -- The run is followed from its first event on: each part of it is a shorter part and one step.
    induction done using List.reverseRecOn with
    | nil => exact fun _ => h
    | append_singleton done event ih =>
      intro hpart
      have hbefore := ih ((List.prefix_append done [event]).trans hpart)
      have hevent : ∀ line, event ≠ .line line := by
        rintro line rfl
        exact hevents line (hpart.subset (List.mem_append_right _ List.mem_cons_self))
      rw [run_concat]
      refine (hbefore.step_iff (offers_run hoffers done) hevent).2 ?_
      rintro key now rfl
      exact hnone done key now hpart

end Run

/-- Every client that is launched is ready, and from then on, whatever keys are pressed, whatever
chance draws and whatever else happens: typing is coherent all through a run just if no key in it is
overtaken, and while it is, keys that expire run no command in the midst of typing. -/
theorem typing_coherent_iff_not_overtaken (ω σ : Type) [Network ω σ] [Service σ] :
    (∀ (startup : Startup) (config : Option ConfigFile) (network : ω) (chance : Chance)
      (clock : Nat),
      match (startup.client? config network chance clock :
        Except DispatchError (Controller ω σ)) with
      | .ok c => c.Ready
      | .error _ => True) ∧
    ∀ (c : Controller ω σ) (events : List Event), c.Ready → (∀ line, .line line ∉ events) →
      ((∀ done, done <+: events → (c.run done).Coherent) ↔
        ∀ done key now, done ++ [.key key now] <+: events →
          ¬ (c.run done).Overtaken key now) ∧
      ((c.run events).Coherent → (c.run events).session.ui.mode ≠ .normal →
        ∀ now, (c.run events).expiredLines now = []) := by
  constructor
  · intro startup config network chance clock
    cases hclient : (startup.client? config network chance clock :
        Except DispatchError (Controller ω σ)) with
    | error error => trivial
    | ok c => exact ready_of_client? hclient
  · intro c events hready hevents
    have hstart : c.Coherent := coherent_of_calm hready.calm fun _ => hready.idle
    exact ⟨hstart.run_iff hready.offers hevents, fun hcoherent => hcoherent.expiredLines_eq_nil⟩

/-- A client in which `:` begins a command line, and so does `g` unless it goes on to `gg`. -/
def typist : Controller ScriptedNetwork Link where
  session :=
    { keymap := { bindings := [([.ofChar ':'], "inputmode input"), ([.ofChar 'g'], "inputmode input"),
        ([.ofChar 'g', .ofChar 'g'], "quit")] }
      chance := .first }
  dispatcher := .standard
  resolver := { timeout := Resolver.defaultTimeout }
  network := {}
  server := { host := "localhost", port := 6600 }

theorem ready_typist : typist.Ready := by
  have hstandard : typist.dispatcher = .standard := by
    unfold typist
    rfl
  exact ⟨hstandard ▸ Dispatcher.offers_standard, rfl, fun _ => rfl, rfl⟩

/-- After `:` a command line is typed, and no tick runs anything. -/
theorem typist_types_undisturbed :
    typist.Ready ∧
    (∀ done, done <+: [Event.key { code := .char ':' } 0] → (typist.run done).Coherent) ∧
    (typist.run [.key { code := .char ':' } 0]).session.ui.mode = .input ∧
    ∀ now, (typist.run [.key { code := .char ':' } 0]).expiredLines now = [] := by
  obtain ⟨hiff, hsilent⟩ := (typing_coherent_iff_not_overtaken ScriptedNetwork Link).2 typist
    [.key { code := .char ':' } 0] ready_typist (by simp)
  have hcoherent := hiff.2 (by
    intro done key now hpart hovertaken
    obtain ⟨rfl, -⟩ : done = [] ∧ Event.key key now = .key { code := .char ':' } 0 := by
      simpa [List.prefix_cons_iff, List.append_eq_cons_iff] using hpart
    exact Resolver.not_expired_of_idle rfl hovertaken.late.expired)
  have hmode : (typist.run [.key { code := .char ':' } 0]).session.ui.mode = .input := by
    decide +kernel
  exact ⟨ready_typist, hcoherent, hmode,
    hsilent (hcoherent _ (List.prefix_refl _)) (by rw [hmode]; exact nofun)⟩

/-- A second `g` comes late and is put on hold, while the command line of the first begins a command
line: the client types with a key on hold, and a tick will begin the line anew. -/
theorem late_key_is_held_while_typing :
    typist.Ready ∧
    ¬ (typist.run [.key { code := .char 'g' } 0, .key { code := .char 'g' } 1000]).Coherent ∧
    (typist.run [.key { code := .char 'g' } 0,
      .key { code := .char 'g' } 1000]).expiredLines 60000 = ["inputmode input"] := by
  refine ⟨ready_typist, ?_, by decide +kernel⟩
  intro hcoherent
  have hmode : (typist.run [.key { code := .char 'g' } 0,
      .key { code := .char 'g' } 1000]).session.ui.mode = .input := by decide +kernel
  have hheld : (typist.run [.key { code := .char 'g' } 0,
      .key { code := .char 'g' } 1000]).resolver.held =
        some { keys := [.ofChar 'g'], deadline := 2000 } := by decide +kernel
  have hidle := hcoherent.idle (by rw [hmode]; exact nofun)
  rw [hheld] at hidle
  cases hidle

end Controller

end Jukebox
