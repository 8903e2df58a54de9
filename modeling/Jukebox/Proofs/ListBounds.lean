import Jukebox.Proofs.ListOperations

/-
# Song lists stay within bounds

Whatever is done to the song lists from the first moment on, the queue stays the first and the library
the second of them, one of them is active, and every cursor and every mark is on a row of its list. So
no operation ever looks for a song or a list that is not there: the strict reading of any run of
operations has a result, and it is the one that the lists really come to.
-/

namespace Jukebox.Browser

open Songlist (Edit)

/-! ### The strict reading of the lists -/

/-- The list on screen; the active list is looked up in any case. -/
def shown? (b : Browser) : Option Songlist := do
  let list ← b.lists[b.active]?
  return b.search.getD list

/-- Changes the list on screen. -/
def modifyShown? (b : Browser) (f : Songlist → Option Songlist) : Option Browser :=
  match b.search with
  | some search => do
    let search ← f search
    return { b with search := some search }
  | none => do
    let list ← b.lists[b.active]?
    let list ← f list
    return { b with lists := b.lists.set b.active list }

/-- Goes on to the next list, or back to the one before. Without lists there is nothing to count
around. -/
def cycle? (b : Browser) (forward : Bool) : Option Browser :=
  if b.count = 0 then none else some (b.cycle forward)

/-- Copies the list on screen. -/
def duplicate? (b : Browser) : Option Browser := do
  let list ← b.shown?
  let copy : Songlist := { name := list.name ++ " (copy)", kind := .custom, songs := list.songs }
  return b.push (copy.setCursor list.cursor)

/-- Closes the list on screen, if it may be closed. The list that is active afterwards is looked for
among those that are left. -/
def removeIfAllowed? (b : Browser) : Option Browser :=
  if b.search.isSome then some { b with search := none }
  else do
    let list ← b.lists[b.active]?
    match list.kind with
    | .queue | .library => return b
    | .search | .custom =>
      let rest := b.lists.eraseIdx b.active
      if rest.isEmpty then none
      else return { b with lists := rest, active := min (b.active - 1) (rest.length - 1) }

/-- Shows the songs of the library that match a term; the active list is looked up in case there is no
library. -/
def showSearch? (b : Browser) (term : String) : Option Browser :=
  if term = "" then some { b with search := none }
  else do
    let list ← b.lists[b.active]?
    let source := (b.list? .library).getD list
    return { b with search := some (source.filter ("Search: " ++ term) term) }

/-- What can be done to the song lists. -/
inductive Operation where
  | select (index : Nat)
  | cycle (forward : Bool)
  | replace (kind : ListKind) (songs : List Song)
  /-- A list that was just made is added. -/
  | push (name : String) (kind : ListKind) (songs : List Song)
  | duplicate
  | remove
  | showSearch (term : String)
  | commitSearch
  | cancelSearch
  | updateViewport (height : Nat) (center : Bool)
  /-- The list on screen is edited. -/
  | edit (change : Edit)

/-- Carries out an operation. What is refused changes nothing. -/
def Operation.apply : Operation → Browser → Browser
  | select index, b => b.select index
  | cycle forward, b => b.cycle forward
  | replace kind songs, b => b.replace kind songs
  | push name kind songs, b => b.push { name, kind, songs }
  | duplicate, b => b.duplicate
  | remove, b => b.remove?.getD b
  | showSearch term, b => b.showSearch term
  | commitSearch, b => b.commitSearch
  | cancelSearch, b => b.cancelSearch
  | updateViewport height center, b => b.updateViewport height center
  | edit change, b => b.modifyShown change.apply

/-- Carries out an operation read strictly. -/
def Operation.apply? : Operation → Browser → Option Browser
  | cycle forward, b => b.cycle? forward
  | duplicate, b => b.duplicate?
  | remove, b => b.removeIfAllowed?
  | showSearch term, b => b.showSearch? term
  | updateViewport height center, b =>
    modifyShown? { b with pageSize := max height 1 } fun list =>
      some (list.scrollToCursor height center)
  | edit change, b => b.modifyShown? change.apply?
  | operation, b => some (operation.apply b)

/-- Carries out operations one after another. -/
def afterOperations (operations : List Operation) (b : Browser) : Browser :=
  operations.foldl (fun b operation => operation.apply b) b

/-- Carries out operations one after another, all read strictly. -/
def afterOperations? (operations : List Operation) (b : Browser) : Option Browser :=
  operations.foldlM (fun b operation => operation.apply? b) b

/-! ### Bounds of the lists -/

/-- The queue and the library are in their places, one of the lists is active, and each list is within
its bounds. -/
structure InBounds (b : Browser) : Prop where
  queue : b.lists[0]?.map (·.kind) = some .queue
  library : b.lists[1]?.map (·.kind) = some .library
  active_lt : b.active < b.count
  lists : ∀ list ∈ b.lists, list.InBounds
  search : ∀ list ∈ b.search, list.InBounds

theorem inBounds_initial : InBounds {} where
  queue := rfl
  library := rfl
  active_lt := Nat.zero_lt_two
  lists := by
    intro list hlist
    rcases List.mem_cons.1 hlist with rfl | hlist
    · exact Songlist.inBounds_fresh _ _ _
    · rw [List.mem_singleton.1 hlist]
      exact Songlist.inBounds_fresh _ _ _
  search := nofun

variable {b : Browser}

theorem InBounds.getElem?_active (h : b.InBounds) : b.lists[b.active]? = some b.activeList := by
  have hlt : b.active < b.lists.length := h.active_lt
  unfold activeList
  rw [List.getElem?_eq_getElem hlt]
  rfl

theorem InBounds.activeList (h : b.InBounds) : b.activeList.InBounds :=
  h.lists _ (List.mem_of_getElem? h.getElem?_active)

theorem InBounds.two_le_count (h : b.InBounds) : 2 ≤ b.count := by
  obtain ⟨list, hlist, -⟩ := Option.map_eq_some_iff.1 h.library
  exact (List.getElem?_eq_some_iff.1 hlist).1

theorem InBounds.shown (h : b.InBounds) : b.shown.InBounds := by
  unfold Browser.shown
  cases hsearch : b.search with
  | none => exact h.activeList
  | some search => exact h.search search hsearch

/-- A search may end at any time. -/
theorem InBounds.withoutSearch (h : b.InBounds) : InBounds { b with search := none } :=
  ⟨h.queue, h.library, h.active_lt, h.lists, nofun⟩

/-- Lists may change in their places as long as they stay what they are. -/
theorem InBounds.modify (h : b.InBounds) (index : Nat) {f : Songlist → Songlist}
    (hkind : ∀ list, (f list).kind = list.kind)
    (hf : ∀ list : Songlist, list.InBounds → (f list).InBounds) :
    InBounds { b with lists := b.lists.modify index f } := by
  have hkinds : ∀ row : Nat, (b.lists.modify index f)[row]?.map (·.kind) =
      b.lists[row]?.map (·.kind) := by
    intro row
    rw [List.getElem?_modify]
    cases b.lists[row]? with
    | none => split <;> rfl
    | some list =>
      split
      · exact congrArg some (hkind list)
      · rfl
  refine ⟨(hkinds 0).trans h.queue, (hkinds 1).trans h.library, ?_, fun list hlist => ?_, h.search⟩
  · change b.active < (b.lists.modify index f).length
    rw [List.length_modify]
    exact h.active_lt
  · obtain ⟨row, hrow⟩ := List.mem_iff_getElem?.1 hlist
    rw [List.getElem?_modify] at hrow
    obtain ⟨old, hold, rfl⟩ := Option.map_eq_some_iff.1 hrow
    have hbounds := h.lists old (List.mem_of_getElem? hold)
    split
    · exact hf old hbounds
    · exact hbounds

theorem InBounds.modifyShown (h : b.InBounds) {f : Songlist → Songlist}
    (hkind : ∀ list, (f list).kind = list.kind)
    (hf : ∀ list : Songlist, list.InBounds → (f list).InBounds) : (b.modifyShown f).InBounds := by
  unfold Browser.modifyShown
  split
  · next search hsearch =>
    refine ⟨h.queue, h.library, h.active_lt, h.lists, fun list hlist => ?_⟩
    rw [← Option.some.inj hlist]
    exact hf search (h.search search hsearch)
  · exact h.modify b.active hkind hf

/-- A list may be added and shown. -/
theorem InBounds.push (h : b.InBounds) {list : Songlist} (hlist : list.InBounds) :
    (b.push list).InBounds := by
  have hcount := h.two_le_count
  have hkept : ∀ row < 2, (b.lists ++ [list])[row]? = b.lists[row]? := fun row hrow =>
    List.getElem?_append_left (Nat.lt_of_lt_of_le hrow hcount)
  refine ⟨?_, ?_, ?_, ?_, nofun⟩
  · change (b.lists ++ [list])[0]?.map (·.kind) = _
    rw [hkept 0 (by omega)]
    exact h.queue
  · change (b.lists ++ [list])[1]?.map (·.kind) = _
    rw [hkept 1 (by omega)]
    exact h.library
  · rw [count_push]
    exact Nat.lt_succ_self b.count
  · intro other hother
    rcases List.mem_append.1 hother with hold | hnew
    · exact h.lists other hold
    · rw [List.mem_singleton.1 hnew]
      exact hlist

theorem InBounds.select (h : b.InBounds) (index : Nat) : (b.select index).InBounds := by
  unfold Browser.select select?
  split
  · next hindex => exact ⟨h.queue, h.library, hindex, h.lists, nofun⟩
  · exact h

/-- The list that is closed is neither the queue nor the library, so that these keep their places. -/
theorem InBounds.remove (h : b.InBounds) : (b.remove?.getD b).InBounds := by
  unfold remove?
  split
  · exact h.withoutSearch
  · have hclosed : ∀ kind, b.activeList.kind = kind → kind ≠ .queue → kind ≠ .library →
        InBounds { b with
          lists := b.lists.eraseIdx b.active
          active := min (b.active - 1) ((b.lists.eraseIdx b.active).length - 1) } := by
      intro kind hkind hqueue hlibrary
      have hactive := h.getElem?_active
      have hfirst : b.active ≠ 0 := by
        intro hzero
        have hsame := h.queue
        rw [← hzero, hactive, Option.map_some, hkind] at hsame
        exact hqueue (Option.some.inj hsame)
      have hsecond : b.active ≠ 1 := by
        intro hone
        have hsame := h.library
        rw [← hone, hactive, Option.map_some, hkind] at hsame
        exact hlibrary (Option.some.inj hsame)
      have hlt : b.active < b.lists.length := h.active_lt
      refine ⟨?_, ?_, ?_, fun list hlist => h.lists list (List.mem_of_mem_eraseIdx hlist), h.search⟩
      · change (b.lists.eraseIdx b.active)[0]?.map (·.kind) = _
        rw [List.getElem?_eraseIdx_of_lt (by omega)]
        exact h.queue
      · change (b.lists.eraseIdx b.active)[1]?.map (·.kind) = _
        rw [List.getElem?_eraseIdx_of_lt (by omega)]
        exact h.library
      · change min (b.active - 1) ((b.lists.eraseIdx b.active).length - 1) <
          (b.lists.eraseIdx b.active).length
        rw [List.length_eraseIdx_of_lt hlt]
        omega
    split
    · exact h
    · exact h
    · next hkind => exact hclosed _ hkind (by decide) (by decide)
    · next hkind => exact hclosed _ hkind (by decide) (by decide)

theorem kind_insert (list : Songlist) (row : Nat) (songs : List Song) :
    (list.insert row songs).kind = list.kind := by
  unfold Songlist.insert
  dsimp only
  split <;> rfl

theorem kind_edit (change : Edit) (list : Songlist) : (change.apply list).kind = list.kind := by
  cases change with
  | toggleVisual => simp only [Edit.apply, Songlist.toggleVisual]; split <;> rfl
  | toggleMark row =>
    simp only [Edit.apply, Songlist.toggleMark]
    split
    · split <;> rfl
    · rfl
  | selectNearby tags => simp only [Edit.apply, Songlist.selectNearby]; split <;> rfl
  | removeRows rows => simp only [Edit.apply, Songlist.removeRows]; split <;> rfl
  | insert row songs => exact kind_insert list row songs
  | _ => rfl

theorem kind_scrollToCursor (list : Songlist) (height : Nat) (center : Bool) :
    (list.scrollToCursor height center).kind = list.kind := by
  unfold Songlist.scrollToCursor
  split <;> rfl

theorem inBounds_scrollToCursor {list : Songlist} (h : list.InBounds) (height : Nat)
    (center : Bool) : (list.scrollToCursor height center).InBounds := by
  unfold Songlist.scrollToCursor
  split
  · exact h
  · exact ⟨h.cursor_lt, h.cursor_eq_zero, h.marked⟩

/-- Every operation keeps the lists within bounds. -/
theorem InBounds.apply (h : b.InBounds) (operation : Operation) : (operation.apply b).InBounds := by
  cases operation with
  | select index => exact h.select index
  | cycle forward => exact h.select _
  | replace kind songs =>
    simp only [Operation.apply, Browser.replace]
    split
    · exact h.modify _ (fun _ => rfl) fun list _ =>
        Songlist.inBounds_setCursor_clearSelection { list with songs } list.cursor
    · exact h
  | push name kind songs => exact h.push (Songlist.inBounds_fresh name kind songs)
  | duplicate =>
    apply h.push
    apply Songlist.inBounds_setCursor
    intro row hrow
    cases hrow
  | remove => exact h.remove
  | showSearch term =>
    simp only [Operation.apply, Browser.showSearch]
    split
    · exact h.withoutSearch
    · refine ⟨h.queue, h.library, h.active_lt, h.lists, fun list hlist => ?_⟩
      rw [← Option.some.inj hlist]
      exact Songlist.inBounds_fresh _ _ _
  | commitSearch =>
    simp only [Operation.apply, Browser.commitSearch]
    split
    · exact h
    · next result hresult =>
      split
      · exact h.withoutSearch
      · exact h.push (h.search result hresult)
  | cancelSearch => exact h.withoutSearch
  | updateViewport height center =>
    have hpage : InBounds { b with pageSize := max height 1 } :=
      ⟨h.queue, h.library, h.active_lt, h.lists, h.search⟩
    exact hpage.modifyShown (kind_scrollToCursor · height center)
      fun _ hlist => inBounds_scrollToCursor hlist height center
  | edit change => exact h.modifyShown (kind_edit change) fun _ hlist => hlist.apply change

/-! ### The two readings of an operation -/

theorem InBounds.shown?_eq (h : b.InBounds) : b.shown? = some b.shown := by
  unfold shown?
  rw [h.getElem?_active]
  rfl

theorem InBounds.modifyShown?_eq (h : b.InBounds) {f : Songlist → Option Songlist}
    {g : Songlist → Songlist} (hf : ∀ list : Songlist, list.InBounds → f list = some (g list)) :
    b.modifyShown? f = some (b.modifyShown g) := by
  unfold modifyShown? Browser.modifyShown
  cases hsearch : b.search with
  | some search =>
    dsimp only
    rw [hf search (h.search search hsearch)]
    rfl
  | none =>
    have hset : b.lists.set b.active (g b.activeList) = b.lists.modify b.active g := by
      rw [List.modify_eq_set, h.getElem?_active]
      rfl
    dsimp only
    rw [h.getElem?_active, Option.bind_eq_bind, Option.bind_some, hf _ h.activeList,
      Option.bind_some, hset]
    rfl

theorem InBounds.removeIfAllowed?_eq (h : b.InBounds) :
    b.removeIfAllowed? = some (b.remove?.getD b) := by
  have hcount := h.two_le_count
  have hleft : (b.lists.eraseIdx b.active).isEmpty = false := by
    have hlt : b.active < b.lists.length := h.active_lt
    have hlength := List.length_eraseIdx_of_lt hlt
    rw [← Bool.not_eq_true, List.isEmpty_iff_length_eq_zero, hlength]
    change ¬ b.count - 1 = 0
    omega
  unfold removeIfAllowed? remove?
  split
  · rfl
  · rw [h.getElem?_active, Option.bind_eq_bind, Option.bind_some]
    cases b.activeList.kind with
    | queue | library => rfl
    | search | custom => simp [hleft]

/-- Within bounds an operation finds all the songs and lists that it looks for. -/
theorem InBounds.apply?_eq (h : b.InBounds) (operation : Operation) :
    operation.apply? b = some (operation.apply b) := by
  cases operation with
  | cycle forward =>
    have hcount := h.two_le_count
    exact if_neg (by omega)
  | duplicate =>
    simp only [duplicate?, Operation.apply?, Operation.apply, h.shown?_eq]
    rfl
  | remove => exact h.removeIfAllowed?_eq
  | showSearch term =>
    simp only [showSearch?, Browser.showSearch, Operation.apply?, Operation.apply,
      h.getElem?_active]
    split <;> rfl
  | updateViewport height center =>
    have hpage : InBounds { b with pageSize := max height 1 } :=
      ⟨h.queue, h.library, h.active_lt, h.lists, h.search⟩
    exact hpage.modifyShown?_eq fun _ _ => rfl
  | edit change => exact h.modifyShown?_eq fun _ hlist => hlist.apply?_eq change
  | _ => rfl

theorem InBounds.afterOperations (h : b.InBounds) (operations : List Operation) :
    afterOperations? operations b = some (b.afterOperations operations) ∧
      (b.afterOperations operations).InBounds := by
  induction operations generalizing b with
  | nil => exact ⟨rfl, h⟩
  | cons operation operations ih =>
    obtain ⟨hrun, hbounds⟩ := ih (h.apply operation)
    refine ⟨?_, hbounds⟩
    unfold afterOperations? at hrun ⊢
    rw [List.foldlM_cons, h.apply?_eq, Option.bind_eq_bind, Option.bind_some, hrun]
    rfl

/-- From the first lists on, any operations with any arguments keep the lists within bounds and find
every song and every list that they look for; so do those who then look at the list on screen, at the
selection in it, and at the songs with the same tag as the one under the cursor. -/
theorem operations_stay_in_bounds (operations : List Operation) :
    afterOperations? operations {} = some (afterOperations operations {}) ∧
    (afterOperations operations {}).InBounds ∧
    (afterOperations operations {}).shown? = some (afterOperations operations {}).shown ∧
    (afterOperations operations {}).shown.selectedSongs? =
      some (afterOperations operations {}).shown.selectedSongs ∧
    ∀ tag, (afterOperations operations {}).shown.prevOf? tag =
      some ((afterOperations operations {}).shown.prevOf tag) := by
  obtain ⟨hrun, hbounds⟩ := inBounds_initial.afterOperations operations
  exact ⟨hrun, hbounds, hbounds.shown?_eq, Songlist.selectedSongs?_eq _, hbounds.shown.prevOf?_eq⟩

end Jukebox.Browser

namespace Jukebox.Songlist

/-- The lists that come of editing and scrolling a list that was just made. -/
inductive Reached : Songlist → Prop
  | fresh (name : String) (kind : ListKind) (songs : List Song) : Reached { name, kind, songs }
  | edit {list : Songlist} (h : Reached list) (change : Edit) : Reached (change.apply list)
  | scroll {list : Songlist} (h : Reached list) (height : Nat) (center : Bool) :
    Reached (list.scrollToCursor height center)

theorem Reached.inBounds {list : Songlist} (h : list.Reached) : list.InBounds := by
  induction h with
  | fresh name kind songs => exact inBounds_fresh name kind songs
  | edit _ change ih => exact ih.apply change
  | scroll _ height center ih => exact Browser.inBounds_scrollToCursor ih height center

end Jukebox.Songlist
