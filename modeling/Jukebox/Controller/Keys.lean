import Jukebox.Controller

/-
# Handling keys

What a key does depends on the input mode. In normal mode it goes to the resolver, which finds the
command lines to run. In the other modes it edits a line of text: a command line, which runs when it
is finished, or a search term, by which the library is filtered as it is typed.
-/

namespace Jukebox

/-- What a key does to a line that is typed. -/
inductive LineEdit where
  /-- The line is finished. -/
  | submit (line : String)
  /-- The line is given up. -/
  | cancel
  /-- The line is changed into this one. -/
  | change (line : String)
  /-- Nothing. -/
  | ignore
deriving DecidableEq, Repr

/-- What a key does to a line that is typed. -/
def LineEdit.ofKey (line : String) (event : KeyEvent) : LineEdit :=
  match event.code with
  | .enter => submit line
  | .escape => cancel
  | .backspace =>
    if line = "" then cancel else change (String.ofList line.toList.dropLast)
  | .char c =>
    if event.modifiers.control then
      if c = 'c' then cancel else if c = 'u' then change "" else ignore
    else change (line.push c)
  | _ => ignore

namespace Controller

variable {ω σ : Type}

/-- Carries out what a key amounts to. -/
def resolve (c : Controller ω σ) : Resolution → Controller ω σ
  | .dispatch line => c.runLine line
  | .pending | .unbound => c

/-- Has a key resolved and carries out what comes of it, in order. -/
def pressKey (c : Controller ω σ) (key : Key) (now : Nat) : Controller ω σ :=
  let (resolutions, resolver) := c.resolver.press c.session.keymap key now
  resolutions.foldl resolve { c with resolver }.showHeldKeys

/-- Handles a key in normal mode. It takes the message away. The escape key lets go of keys on hold,
and is a key like any other if there are none. -/
def normalKey (c : Controller ω σ) (event : KeyEvent) (now : Nat) : Controller ω σ :=
  let c := c.modifyUi (·.clearMessage)
  if event.code = .escape ∧ c.resolver.held.isSome then
    { c with resolver := c.resolver.cancel }.showHeldKeys
  else c.pressKey (Key.ofEvent event) now

/-- Handles a key while a command line is typed. -/
def inputKey (c : Controller ω σ) (event : KeyEvent) : Controller ω σ :=
  match LineEdit.ofKey c.session.ui.input event with
  | .submit line => (c.modifyUi (·.setMode .normal)).runLine line
  | .cancel => c.modifyUi (·.setMode .normal)
  | .change line => c.modifyUi ({ · with input := line })
  | .ignore => c

/-- Handles a key while a search term is typed. -/
def searchKey (c : Controller ω σ) (event : KeyEvent) : Controller ω σ :=
  match LineEdit.ofKey c.session.ui.input event with
  | .submit _ => (c.modifyBrowser (·.commitSearch)).modifyUi (·.setMode .normal)
  | .cancel => (c.modifyBrowser (·.cancelSearch)).modifyUi (·.setMode .normal)
  | .change term =>
    (c.modifyUi ({ · with input := term })).modifyBrowser (·.showSearch term)
  | .ignore => c

/-- Handles a report of the keyboard. Only keys that go down count. -/
def handleKey (c : Controller ω σ) (event : KeyEvent) (now : Nat) : Controller ω σ :=
  if event.motion ≠ .press then c
  else match c.session.ui.mode with
    | .normal => c.normalKey event now
    | .input => c.inputKey event
    | .search => c.searchKey event

/-- Handles reports of the keyboard one after another. -/
def handleKeys (c : Controller ω σ) (events : List KeyEvent) (now : Nat) : Controller ω σ :=
  events.foldl (fun c event => c.handleKey event now) c

end Controller

end Jukebox
