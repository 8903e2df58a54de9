import Mathlib.Data.List.Infix
import Jukebox.Proofs.InOrder

/-
# A search from its first key to its last

While a term is typed, what it finds in the library is on screen, in the place of the active list. It is
not one of the lists yet: as long as the search goes on nothing else has changed. So to give it up is to
have everything as it was, and to finish it is to have the findings as one list more, unless there are
none. To finish it before anything is typed is to give it up.
-/

namespace Jukebox

/-- What a term finds in a list. The empty term is no search. -/
def Songlist.findings? (list : Songlist) (term : String) : Option Songlist :=
  if term = "" then none else some (list.filter ("Search: " ++ term) term)

namespace Browser

variable {b : Browser} {library : Songlist}

/-- The lists with the findings of a search behind them, and on screen, if anything was found. -/
def keep (b : Browser) : Option Songlist → Browser
  | some found =>
    if found.songs = [] then b
    else { b with lists := b.lists ++ [found], active := b.lists.length }
  | none => b

theorem showSearch_eq (h : b.list? .library = some library) (live : Option Songlist)
    (term : String) :
    Browser.showSearch { b with search := live } term =
      { b with search := library.findings? term } := by
  have hlibrary : Browser.list? { b with search := live } .library = some library := h
  unfold showSearch Songlist.findings?
  split
  · rfl
  · rw [hlibrary]
    rfl

theorem commitSearch_eq (h : b.search = none) (found : Option Songlist) :
    Browser.commitSearch { b with search := found } = b.keep found := by
  obtain ⟨lists, active, search, currentSong, pageSize, clipboard⟩ := b
  obtain rfl : search = none := h
  cases found with
  | none => rfl
  | some found =>
    simp only [commitSearch, keep, Songlist.isEmpty, List.isEmpty_iff]
    rfl

theorem cancelSearch_eq (h : b.search = none) (found : Option Songlist) :
    Browser.cancelSearch { b with search := found } = b := by
  show { b with search := none } = b
  rw [← h]

theorem shown_of_search (h : b.search = none) (found : Option Songlist) :
    Browser.shown { b with search := found } = found.getD b.shown := by
  rw [shown, shown, h, Option.getD_none]
  rfl

end Browser

namespace KeyEvent

/-- The key gives up a line that was typed so far. -/
def GivesUp (line : String) (event : KeyEvent) : Prop :=
  event.motion = .press ∧ (event.code = .escape ∨
    event.code = .char 'c' ∧ event.modifiers.control = true ∨ event.code = .backspace ∧ line = "")

/-- The key finishes a line. -/
def Finishes (event : KeyEvent) : Prop := event.motion = .press ∧ event.code = .enter

end KeyEvent

namespace LineEdit

variable {line : String} {event : KeyEvent}

theorem ofKey_of_givesUp (h : event.GivesUp line) : ofKey line event = .cancel := by
  obtain ⟨-, hcode | ⟨hcode, hcontrol⟩ | ⟨hcode, hline⟩⟩ := h
  · rw [ofKey, hcode]
  · simp [ofKey, hcode, hcontrol]
  · simp [ofKey, hcode, hline]

theorem ofKey_of_finishes (h : event.Finishes) : ofKey line event = .submit line := by
  rw [ofKey, h.2]

/-- Any other key leaves the line as it is or changes it. -/
theorem ofKey_cases (hpress : event.motion = .press) (hkept : ¬event.GivesUp line)
    (hopen : ¬event.Finishes) :
    ofKey line event = .ignore ∨ ∃ changed, ofKey line event = .change changed := by
  unfold ofKey
  split
  · next hcode => exact absurd ⟨hpress, hcode⟩ hopen
  · next hcode => exact absurd ⟨hpress, .inl hcode⟩ hkept
  · next hcode =>
    split
    · next hline => exact absurd ⟨hpress, .inr (.inr ⟨hcode, hline⟩)⟩ hkept
    · exact .inr ⟨_, rfl⟩
  · next c hcode =>
    split
    · next hcontrol =>
      split
      · next hc => exact absurd ⟨hpress, .inr (.inl ⟨hc ▸ hcode, hcontrol⟩)⟩ hkept
      · split
        · exact .inr ⟨_, rfl⟩
        · exact .inl rfl
    · exact .inr ⟨_, rfl⟩
  · exact .inl rfl

end LineEdit

namespace Controller

variable {ω σ : Type} {c : Controller ω σ} {b : Browser} {library : Songlist}

/-- A search goes on that began with some lists: what is typed is looked for in the library, and the lists
are the same otherwise. -/
structure Searches (b : Browser) (library : Songlist) (c : Controller ω σ) : Prop where
  mode : c.session.ui.mode = .search
  browser : c.session.browser = { b with search := library.findings? c.session.ui.input }

namespace Searches

variable (h : Searches b library c) {event : KeyEvent} (now : Nat)

include h

theorem handleKey_of_press (hpress : event.motion = .press) :
    c.handleKey event now = c.searchKey event := by
  rw [handleKey, if_neg (not_not_intro hpress), h.mode]

/-- A search that is given up leaves everything as it was. -/
theorem giveUp (hsearch : b.search = none) (hkey : event.GivesUp c.session.ui.input) :
    (c.handleKey event now).session.ui.mode = .normal ∧
      (c.handleKey event now).session.browser = b := by
  rw [h.handleKey_of_press now hkey.1, searchKey, LineEdit.ofKey_of_givesUp hkey]
  refine ⟨rfl, ?_⟩
  show c.session.browser.cancelSearch = b
  rw [h.browser, Browser.cancelSearch_eq hsearch]

/-- A search that is finished leaves what it found. -/
theorem finish (hsearch : b.search = none) (hkey : event.Finishes) :
    (c.handleKey event now).session.ui.mode = .normal ∧
      (c.handleKey event now).session.browser =
        b.keep (library.findings? c.session.ui.input) := by
  rw [h.handleKey_of_press now hkey.1, searchKey, LineEdit.ofKey_of_finishes hkey]
  refine ⟨rfl, ?_⟩
  show c.session.browser.commitSearch = _
  rw [h.browser, Browser.commitSearch_eq hsearch]

/-- With any other key a search goes on. -/
theorem goOn (hlibrary : b.list? .library = some library)
    (hkept : ¬event.GivesUp c.session.ui.input) (hopen : ¬event.Finishes) :
    Searches b library (c.handleKey event now) := by
  by_cases hpress : event.motion = .press
  · rw [h.handleKey_of_press now hpress, searchKey]
    rcases LineEdit.ofKey_cases hpress hkept hopen with hedit | ⟨term, hedit⟩
    · rw [hedit]
      exact h
    · rw [hedit]
      refine ⟨h.mode, ?_⟩
      show c.session.browser.showSearch term = { b with search := library.findings? term }
      rw [h.browser, Browser.showSearch_eq hlibrary]
  · rw [handleKey, if_pos hpress]
    exact h

/-- So it goes on just as long as neither happens. -/
theorem mode_handleKey_iff (hsearch : b.search = none) (hlibrary : b.list? .library = some library) :
    (c.handleKey event now).session.ui.mode = .search ↔
      ¬event.GivesUp c.session.ui.input ∧ ¬event.Finishes := by
  constructor
  · refine fun hmode => ⟨fun hkey => ?_, fun hkey => ?_⟩
    · cases hmode.symm.trans (h.giveUp now hsearch hkey).1
    · cases hmode.symm.trans (h.finish now hsearch hkey).1
  · exact fun hkey => (h.goOn now hlibrary hkey.1 hkey.2).mode

end Searches

section Run

variable [Network ω σ] [Service σ]

/-- The pressing or releasing of a key at some time. -/
def Event.ofKey (key : KeyEvent × Nat) : Event := .key key.1 key.2

/-- A search goes on with each key as long as the client is still searching. -/
theorem Searches.run (h : Searches b library c) (hsearch : b.search = none)
    (hlibrary : b.list? .library = some library) {keys : List (KeyEvent × Nat)}
    (hkeys : ∀ done, done <+: keys → (c.run (done.map Event.ofKey)).session.ui.mode = .search) :
    Searches b library (c.run (keys.map Event.ofKey)) := by
  induction keys using List.reverseRecOn with
  | nil => exact h
  | append_singleton keys key ih =>
    have hbefore := ih fun done hdone => hkeys done (hdone.trans (List.prefix_append keys [key]))
    have hmode := hkeys (keys ++ [key]) (List.prefix_refl _)
    rw [List.map_append, List.map_singleton, run_concat] at hmode ⊢
    obtain ⟨hkept, hopen⟩ := (hbefore.mode_handleKey_iff key.2 hsearch hlibrary).1 hmode
    exact hbefore.goOn key.2 hlibrary hkept hopen

end Run

/-- The lists of every client that is launched are in order. From then on, in whatever state it comes to
search with nothing typed and nothing found yet: while keys are pressed and the search goes on, what was
typed is looked for in the library and shown, and without anything typed the list that was there. A key
that gives the search up leaves all lists as they were. One that finishes it leaves what was found as one
list more, and on screen, if anything was typed and found, and else all lists as they were. With any
other key the search goes on. -/
theorem search_session (ω σ : Type) [Network ω σ] [Service σ] :
    (∀ (startup : Startup) (config : Option ConfigFile) (network : ω) (chance : Chance)
      (clock : Nat),
      match (startup.client? config network chance clock :
        Except DispatchError (Controller ω σ)) with
      | .ok first => first.dispatcher.Offers Command.builtin ∧ first.InOrder
      | .error _ => True) ∧
    ∀ (first : Controller ω σ) (events : List Event),
      first.dispatcher.Offers Command.builtin → first.InOrder →
      let c := first.run events
      c.session.ui.mode = .search → c.session.ui.input = "" → c.session.browser.search = none →
      ∃ library, c.session.browser.list? .library = some library ∧
      ∀ keys : List (KeyEvent × Nat),
        (∀ done, done <+: keys → (c.run (done.map Event.ofKey)).session.ui.mode = .search) →
        let d := c.run (keys.map Event.ofKey)
        let found := library.findings? d.session.ui.input
        d.session.browser = { c.session.browser with search := found } ∧
        d.session.browser.shown = found.getD c.session.browser.shown ∧
        ∀ (event : KeyEvent) (now : Nat),
          let next := (d.step (.key event now)).session
          (event.GivesUp d.session.ui.input →
            next.ui.mode = .normal ∧ next.browser = c.session.browser) ∧
          (event.Finishes →
            next.ui.mode = .normal ∧ next.browser = c.session.browser.keep found) ∧
          (¬event.GivesUp d.session.ui.input → ¬event.Finishes → next.ui.mode = .search) := by
  constructor
  · intro startup config network chance clock
    cases hclient : (startup.client? config network chance clock :
        Except DispatchError (Controller ω σ)) with
    | error error => trivial
    | ok first => exact inOrder_of_client? hclient
  · intro first events hoffers horder c hmode hinput hsearch
    obtain ⟨library, hlibrary⟩ := (horder.run hoffers events).exists_library
    refine ⟨library, hlibrary, ?_⟩
    intro keys hkeys d found
    have hstart : Searches c.session.browser library c := by
      refine ⟨hmode, ?_⟩
      rw [hinput, Songlist.findings?, if_pos rfl, ← hsearch]
    have hsearches : Searches c.session.browser library d := hstart.run hsearch hlibrary hkeys
    refine ⟨hsearches.browser, ?_, fun event now => ⟨hsearches.giveUp now hsearch,
      hsearches.finish now hsearch, fun hkept hopen => (hsearches.goOn now hlibrary hkept hopen).mode⟩⟩
    rw [hsearches.browser, Browser.shown_of_search hsearch]

/-- What a server says that has nothing in the queue and two songs in the library. -/
def twoAlbums : String :=
  "OK MPD 0.23.5\nOK\nOK\nOK\nfile: a.flac\nAlbum: Low\nfile: b.flac\nAlbum: Heroes\nOK\n"

/-- The search that a client of this server begins once it has connected. -/
def beginSearch : List Event := [.connect 0, .line "inputmode search"]

/-- The first two letters of an album. -/
def letters : List (KeyEvent × Nat) := [({ code := .char 'l' }, 1), ({ code := .char 'o' }, 2)]

theorem inOrder_beforeServer : (beforeServer twoAlbums).InOrder := ⟨_, Browser.holds_initial⟩

/-- An album is found by its first letters. It is kept if the search is finished then, and if the search
is given up nothing has changed. -/
theorem search_keeps_what_it_finds :
    (beforeServer twoAlbums).dispatcher.Offers Command.builtin ∧ (beforeServer twoAlbums).InOrder ∧
    let c := (beforeServer twoAlbums).run beginSearch
    (c.session.ui.mode = .search ∧ c.session.ui.input = "" ∧ c.session.browser.search = none) ∧
    let d := c.run (letters.map Event.ofKey)
    d.session.browser.shown.songs.map Song.file? = [some "a.flac"] ∧
    (d.step (.key { code := .escape } 3)).session.browser = c.session.browser ∧
    (d.step (.key { code := .enter } 3)).session.browser.lists.map (·.name) =
      ["Queue", "Library", "Search: lo"] := by
  have hoffers := (starts_beforeServer twoAlbums).offers
  refine ⟨hoffers, inOrder_beforeServer, ?_⟩
  intro c
  have hentered : c.session.ui.mode = .search ∧ c.session.ui.input = "" ∧
      c.session.browser.search = none := by decide +kernel
  refine ⟨hentered, ?_⟩
  intro d
  obtain ⟨library, hlibrary, hsession⟩ := (search_session _ _).2 (beforeServer twoAlbums)
    beginSearch hoffers inOrder_beforeServer hentered.1 hentered.2.1 hentered.2.2
  have hkeys : ∀ done, done <+: letters →
      (c.run (done.map Event.ofKey)).session.ui.mode = .search := by
    intro done hdone
    rw [← List.mem_inits] at hdone
    revert done
    decide +kernel
  obtain ⟨-, hshown, hnext⟩ := hsession _ hkeys
  have hfound : (c.session.browser.list? .library).map (fun library =>
      (library.findings? d.session.ui.input).map fun found =>
        (found.name, found.songs.map Song.file?)) =
      some (some ("Search: lo", [some "a.flac"])) := by decide +kernel
  rw [hlibrary, Option.map_some, Option.some.injEq, Option.map_eq_some_iff] at hfound
  obtain ⟨found, hfindings, hparts⟩ := hfound
  obtain ⟨hname, hfiles⟩ := Prod.mk.inj hparts
  have hnonempty : found.songs ≠ [] := by
    intro hnone
    rw [hnone] at hfiles
    cases hfiles
  have hgiven := (hnext { code := .escape } 3).1 ⟨rfl, .inl rfl⟩
  have hfinished := (hnext { code := .enter } 3).2.1 ⟨rfl, rfl⟩
  rw [hfindings] at hshown hfinished
  refine ⟨?_, hgiven.2, ?_⟩
  · rw [hshown]
    exact hfiles
  · have hnames : c.session.browser.lists.map (·.name) = ["Queue", "Library"] := by decide +kernel
    rw [hfinished.2, Browser.keep, if_neg hnonempty]
    show (c.session.browser.lists ++ [found]).map (·.name) = _
    rw [List.map_append, hnames, List.map_singleton, hname]
    rfl

/-- With nothing typed every song would be found, but to finish the search then keeps nothing. -/
theorem empty_search_keeps_nothing :
    (beforeServer twoAlbums).dispatcher.Offers Command.builtin ∧ (beforeServer twoAlbums).InOrder ∧
    let c := (beforeServer twoAlbums).run beginSearch
    (c.session.ui.mode = .search ∧ c.session.ui.input = "" ∧ c.session.browser.search = none) ∧
    (c.session.browser.list? .library).map (fun library =>
      (library.filter "Search: " c.session.ui.input).songs.map Song.file?) =
        some [some "a.flac", some "b.flac"] ∧
    (c.step (.key { code := .enter } 1)).session.ui.mode = .normal ∧
    (c.step (.key { code := .enter } 1)).session.browser.lists = c.session.browser.lists ∧
    (c.step (.key { code := .enter } 1)).session.browser.active = c.session.browser.active := by
  refine ⟨(starts_beforeServer twoAlbums).offers, inOrder_beforeServer, ?_⟩
  decide +kernel

end Controller

end Jukebox
