/-
# Chance

What falls to chance is nothing that the client could know beforehand: somebody else draws, and all
that is sure is that something of what there was to draw from is drawn. What is drawn may depend on
what there was to draw from before. A client is given its chance when it begins.
-/

namespace Jukebox

/-- Whatever draws one of some rows. It is told from how many rows was drawn before, the last time
first. -/
structure Chance where
  pick : (before : List Nat) → (rows : Nat) → 0 < rows → Fin rows

namespace Chance

/-- Draws for the next time. -/
def draw (chance : Chance) (rows : Nat) (h : 0 < rows) : Fin rows := chance.pick [] rows h

/-- What goes on to draw once one of some rows was drawn. -/
def after (chance : Chance) (rows : Nat) : Chance where
  pick before := chance.pick (before ++ [rows])

/-- Always draws the first row. -/
def first : Chance where
  pick _ _ h := ⟨0, h⟩

end Chance

end Jukebox
