import Jukebox.Songlist

/-
# Switching between song lists

The queue and the library are always there, in this order, and never closed. After them come the
lists that the user derives. One of the lists is the active one; a live search, while there is one,
is shown in its place without being one of the lists itself.
-/

namespace Jukebox

/-- The song lists, which of them is shown, and what is shared between them. -/
structure Browser where
  lists : List Songlist :=
    [{ name := "Queue", kind := .queue }, { name := "Library", kind := .library }]
  /-- The place of the active list. -/
  active : Nat := 0
  /-- The result of a search that is being typed. -/
  search : Option Songlist := none
  /-- The song that is playing. -/
  currentSong : Option Song := none
  /-- How many rows of songs fit on the screen, at least one. -/
  pageSize : Nat := 1
  clipboard : List Song := []
deriving DecidableEq, Repr

namespace Browser

/-- The active list. -/
def activeList (b : Browser) : Songlist :=
  (b.lists[b.active]?).getD { name := "Queue", kind := .queue }

/-- The list on screen: the live search if there is one, or else the active list. -/
def shown (b : Browser) : Songlist := b.search.getD b.activeList

/-- Changes the list on screen. -/
def modifyShown (b : Browser) (f : Songlist → Songlist) : Browser :=
  match b.search with
  | some search => { b with search := some (f search) }
  | none => { b with lists := b.lists.modify b.active f }

/-- The number of lists. -/
def count (b : Browser) : Nat := b.lists.length

/-- The song under the cursor of the list on screen. -/
def cursorSong? (b : Browser) : Option Song := b.shown.cursorSong?

/-- Whether the list on screen is the queue of the server. -/
def isQueue (b : Browser) : Bool := b.shown.kind == .queue

/-- Makes a list the active one and ends a search. There is no result if there is no such list. -/
def select? (b : Browser) (index : Nat) : Option Browser :=
  if index < b.count then some { b with search := none, active := index } else none

/-- Makes a list the active one, if there is such a list. -/
def select (b : Browser) (index : Nat) : Browser := (b.select? index).getD b

/-- Goes on to the next list, or back to the one before, around the end. -/
def cycle (b : Browser) (forward : Bool) : Browser :=
  b.select <| if forward then (b.active + 1) % b.count else (b.active + b.count - 1) % b.count

/-- The first list of a kind. -/
def list? (b : Browser) (kind : ListKind) : Option Songlist :=
  b.lists.find? (·.kind == kind)

/-- Puts other songs into the first list of a kind. -/
def replace (b : Browser) (kind : ListKind) (songs : List Song) : Browser :=
  match b.lists.findIdx? (·.kind == kind) with
  | some index => { b with lists := b.lists.modify index (·.replace songs) }
  | none => b

/-- Adds a list and shows it. -/
def push (b : Browser) (list : Songlist) : Browser :=
  { b with search := none, lists := b.lists ++ [list], active := b.count }

/-- Copies the list on screen, with its cursor, into a list of the user. -/
def duplicate (b : Browser) : Browser :=
  let copy : Songlist :=
    { name := b.shown.name ++ " (copy)", kind := .custom, songs := b.shown.songs }
  b.push (copy.setCursor b.shown.cursor)

/-- Closes the list on screen. There is no result if that is the queue or the library. -/
def remove? (b : Browser) : Option Browser :=
  if b.search.isSome then some { b with search := none }
  else match b.activeList.kind with
    | .queue | .library => none
    | .search | .custom =>
      let rest := b.lists.eraseIdx b.active
      some { b with lists := rest, active := min (b.active - 1) (rest.length - 1) }

/-- Shows the songs of the library that match a term; the empty term shows the active list. -/
def showSearch (b : Browser) (term : String) : Browser :=
  if term = "" then { b with search := none }
  else
    let source := (b.list? .library).getD b.activeList
    { b with search := some (source.filter ("Search: " ++ term) term) }

/-- Ends a search. Its result is kept as a list, and shown, unless nothing was found. -/
def commitSearch (b : Browser) : Browser :=
  match b.search with
  | none => b
  | some result => if result.isEmpty then { b with search := none } else b.push result

/-- Ends a search and forgets its result. -/
def cancelSearch (b : Browser) : Browser := { b with search := none }

/-- The row of the playing song in the list on screen. Entries of the queue are told apart by their
ids, songs elsewhere by their place on the server. -/
def currentRow? (b : Browser) : Option Nat := do
  let current ← b.currentSong
  match b.shown.kind, current.id with
  | .queue, some id => b.shown.positionOf? id
  | _, _ => b.shown.positionOfFile? (← current.file?)

/-- Takes note of how many rows there are for songs and scrolls to the cursor. -/
def updateViewport (b : Browser) (height : Nat) (center : Bool) : Browser :=
  { b with pageSize := max height 1 }.modifyShown (·.scrollToCursor height center)

@[simp] theorem count_modifyShown (b : Browser) (f : Songlist → Songlist) :
    (b.modifyShown f).count = b.count := by
  unfold modifyShown
  split
  · rfl
  · simp [count]

theorem shown_modifyShown {b : Browser} (f : Songlist → Songlist) (h : b.active < b.count) :
    (b.modifyShown f).shown = f b.shown := by
  have hlt : b.active < b.lists.length := h
  unfold modifyShown
  split
  · next search hsearch => simp [shown, hsearch]
  · next hsearch => simp [shown, hsearch, activeList, hlt]

@[simp] theorem modifyShown_id (b : Browser) : b.modifyShown id = b := by
  unfold modifyShown
  split
  · next search hsearch => rw [id, ← hsearch]
  · rw [List.modify_id]

theorem modifyShown_comp (b : Browser) (f g : Songlist → Songlist) :
    (b.modifyShown f).modifyShown g = b.modifyShown (g ∘ f) := by
  cases hsearch : b.search with
  | some search => simp [modifyShown, hsearch]
  | none => simp [modifyShown, hsearch, List.modify_modify_eq]

/-- To put in the place of the list on screen what comes of it is to change it. -/
theorem modifyShown_shown (b : Browser) (f : Songlist → Songlist) :
    (b.modifyShown fun _ => f b.shown) = b.modifyShown f := by
  cases hsearch : b.search with
  | some search => simp [modifyShown, shown, hsearch]
  | none =>
    have hshown : b.shown = b.lists[b.active]?.getD { name := "Queue", kind := .queue } := by
      rw [shown, hsearch, Option.getD_none, activeList]
    have hlists : (b.lists.modify b.active fun _ => f b.shown) = b.lists.modify b.active f := by
      apply List.ext_getElem?
      intro i
      rw [List.getElem?_modify, List.getElem?_modify]
      by_cases hi : b.active = i
      · subst hi
        cases hlist : b.lists[b.active]? <;> simp [hshown, hlist]
      · simp [hi]
    rw [modifyShown, modifyShown, hsearch]
    simp only [hlists]

@[simp] theorem count_push (b : Browser) (list : Songlist) : (b.push list).count = b.count + 1 := by
  simp [push, count]

@[simp] theorem shown_push (b : Browser) (list : Songlist) : (b.push list).shown = list := by
  simp [push, shown, activeList, count]

end Browser

end Jukebox
