import Mathlib.Data.List.Basic
import Jukebox.Songlist.Browser

/-
# The lists of the server

The queue and the library belong to the server. The client holds copies of them, as the first and the
second of its lists; all others are derived by the user. What the copies should hold is kept track of as
a stock: the songs that were loaded last, and whether the library was sorted since. Moving between the
lists, deriving new ones and searching leave every stock as it is, and so does any change to the list on
screen that either leaves its songs alone or finds a derived list there.
-/

namespace Jukebox

/-- What the lists of the server should hold. -/
structure Stock where
  queue : List Song := []
  library : List Song := []
  /-- Whether the library was sorted since it was loaded. -/
  sorted : Bool := false
deriving DecidableEq, Repr

/-- To sort by several tags is to sort by each. -/
theorem Songlist.perm_sortByTags (list : Songlist) (tags : List String) :
    (list.sortByTags tags).songs.Perm list.songs := by
  show (tags.reverse.foldl sortByTag list.songs).Perm list.songs
  generalize tags.reverse = order, list.songs = songs
  induction order generalizing songs with
  | nil => exact List.Perm.refl songs
  | cons tag order ih => exact (ih _).trans (perm_sortByTag songs tag)

/-- A list that the user derived. -/
def Songlist.IsDerived (list : Songlist) : Prop := list.kind = .search ∨ list.kind = .custom

namespace Stock

/-- A list is what should stand in a place among all lists. -/
def Fits (stock : Stock) : Nat → Songlist → Prop
  | 0, list => list.kind = .queue ∧ list.songs = stock.queue
  | 1, list => list.kind = .library ∧ list.songs.Perm stock.library ∧
    (stock.sorted = false → list.songs = stock.library)
  | _ + 2, list => list.IsDerived

variable {stock : Stock} {place : Nat} {list list' : Songlist}

theorem Fits.of_same (h : stock.Fits place list) (hkind : list'.kind = list.kind)
    (hsongs : list'.songs = list.songs) : stock.Fits place list' := by
  match place with
  | 0 => exact ⟨hkind.trans h.1, hsongs.trans h.2⟩
  | 1 => exact ⟨hkind.trans h.1, hsongs ▸ h.2.1, fun hsorted => hsongs.trans (h.2.2 hsorted)⟩
  | _ + 2 => exact h.imp hkind.trans hkind.trans

/-- The user's lists may be exchanged for each other. -/
theorem Fits.of_isDerived (h : stock.Fits place list) (hlist : list.IsDerived)
    (hlist' : list'.IsDerived) : stock.Fits place list' := by
  match place with
  | 0 => rcases hlist with hkind | hkind <;> cases hkind.symm.trans h.1
  | 1 => rcases hlist with hkind | hkind <;> cases hkind.symm.trans h.1
  | _ + 2 => exact hlist'

theorem fits_of_two_le (hplace : 2 ≤ place) : stock.Fits place list ↔ list.IsDerived := by
  obtain ⟨rest, rfl⟩ := Nat.exists_eq_add_of_le hplace
  rw [Nat.add_comm]
  exact Iff.rfl

/-- Only the queue is of its kind. -/
theorem Fits.eq_zero (h : stock.Fits place list) (hkind : list.kind = .queue) : place = 0 := by
  match place with
  | 0 => rfl
  | 1 => cases hkind.symm.trans h.1
  | _ + 2 => rcases h with hderived | hderived <;> cases hkind.symm.trans hderived

/-- Only the library is of its kind. -/
theorem Fits.eq_one (h : stock.Fits place list) (hkind : list.kind = .library) : place = 1 := by
  match place with
  | 0 => cases hkind.symm.trans h.1
  | 1 => rfl
  | _ + 2 => rcases h with hderived | hderived <;> cases hkind.symm.trans hderived

/-- From the third place on stand the lists of the user. -/
theorem Fits.two_le (h : stock.Fits place list) (hqueue : list.kind ≠ .queue)
    (hlibrary : list.kind ≠ .library) : 2 ≤ place := by
  match place with
  | 0 => exact absurd h.1 hqueue
  | 1 => exact absurd h.1 hlibrary
  | _ + 2 => exact Nat.le_add_left ..

end Stock

namespace Browser

/-- The lists are those that the stock calls for, one of them is active, and what a search shows is a
list of the user. -/
structure Holds (b : Browser) (stock : Stock) : Prop where
  two_le : 2 ≤ b.count
  active_lt : b.active < b.count
  fits : ∀ place list, b.lists[place]? = some list → stock.Fits place list
  search : ∀ list ∈ b.search, list.IsDerived

/-- The songs in the first list of a kind. -/
def songs? (b : Browser) (kind : ListKind) : Option (List Song) := (b.list? kind).map (·.songs)

/-- Whatever the lists of the server hold, they hold it still. -/
def Spares (b b' : Browser) : Prop := ∀ stock, b.Holds stock → b'.Holds stock

variable {b b' b'' : Browser} {stock : Stock}

theorem holds_initial : ({} : Browser).Holds {} where
  two_le := Nat.le_refl 2
  active_lt := Nat.zero_lt_two
  fits place list hlist := by
    match place with
    | 0 =>
      cases hlist
      exact ⟨rfl, rfl⟩
    | 1 =>
      cases hlist
      exact ⟨rfl, List.Perm.refl _, fun _ => rfl⟩
    | _ + 2 => cases hlist
  search := nofun

section Shown

theorem modifyShown_of_search_eq_none (hsearch : b.search = none) (f : Songlist → Songlist) :
    b.modifyShown f = { b with lists := b.lists.modify b.active f } := by
  unfold modifyShown
  split
  · next hsome => cases hsearch.symm.trans hsome
  · rfl

theorem Holds.getElem?_shown (h : b.Holds stock) (hsearch : b.search = none) :
    b.lists[b.active]? = some b.shown := by
  have hlt : b.active < b.lists.length := h.active_lt
  rw [shown, hsearch, Option.getD_none, activeList, List.getElem?_eq_getElem hlt, Option.getD_some]

/-- What is on screen fits in its place, or is the result of a search. -/
theorem Holds.shown (h : b.Holds stock) :
    (b.search = none ∧ stock.Fits b.active b.shown) ∨
      ∃ result, b.search = some result ∧ b.shown = result ∧ result.IsDerived := by
  cases hsearch : b.search with
  | none => exact .inl ⟨rfl, h.fits _ _ (h.getElem?_shown hsearch)⟩
  | some result =>
    exact .inr ⟨result, rfl, by rw [Browser.shown, hsearch, Option.getD_some], h.search _ hsearch⟩

/-- If the queue is on screen, it is the active list and not the result of a search. -/
theorem Holds.of_kind_eq_queue (h : b.Holds stock) (hkind : b.shown.kind = .queue) :
    b.search = none ∧ b.active = 0 ∧ b.shown.songs = stock.queue := by
  rcases h.shown with ⟨hsearch, hfits⟩ | ⟨result, -, hresult, hderived⟩
  · have hactive := hfits.eq_zero hkind
    rw [hactive] at hfits
    exact ⟨hsearch, hactive, hfits.2⟩
  · rw [hresult] at hkind
    rcases hderived with hderived | hderived <;> cases hkind.symm.trans hderived

theorem isDerived_of_kind {list : Songlist} (hqueue : list.kind ≠ .queue)
    (hlibrary : list.kind ≠ .library) : list.IsDerived := by
  unfold Songlist.IsDerived
  cases hkind : list.kind with
  | queue => exact absurd hkind hqueue
  | library => exact absurd hkind hlibrary
  | search => exact .inl rfl
  | custom => exact .inr rfl

/-- If the library is on screen, it is the active list and not the result of a search. -/
theorem Holds.of_kind_eq_library (h : b.Holds stock) (hkind : b.shown.kind = .library) :
    b.search = none ∧ b.active = 1 := by
  rcases h.shown with ⟨hsearch, hfits⟩ | ⟨result, -, hresult, hderived⟩
  · exact ⟨hsearch, hfits.eq_one hkind⟩
  · rw [hresult] at hkind
    rcases hderived with hderived | hderived <;> cases hkind.symm.trans hderived

/-- One list may be changed along with what the stock says about its place. -/
theorem Holds.modify {stock' : Stock} (h : b.Holds stock) {index : Nat} {f : Songlist → Songlist}
    (hf : ∀ list, b.lists[index]? = some list → stock'.Fits index (f list))
    (hothers : ∀ place list, place ≠ index → stock.Fits place list → stock'.Fits place list) :
    Holds { b with lists := b.lists.modify index f } stock' := by
  have hcount : (b.lists.modify index f).length = b.lists.length := List.length_modify ..
  refine ⟨Nat.le_trans h.two_le (Nat.le_of_eq hcount.symm),
    Nat.lt_of_lt_of_eq h.active_lt hcount.symm, fun place list hlist => ?_, h.search⟩
  by_cases hplace : place = index
  · subst hplace
    rw [List.getElem?_modify_eq] at hlist
    obtain ⟨old, hold, rfl⟩ := Option.map_eq_some_iff.1 hlist
    exact hf old hold
  · rw [List.getElem?_modify_ne f b.lists (Ne.symm hplace)] at hlist
    exact hothers place list hplace (h.fits place list hlist)

/-- The list on screen may be changed into one that fits wherever it does. -/
theorem Holds.modifyShown (h : b.Holds stock) {f : Songlist → Songlist}
    (hf : ∀ place, stock.Fits place b.shown → stock.Fits place (f b.shown)) :
    (b.modifyShown f).Holds stock := by
  cases hsearch : b.search with
  | some result =>
    have hshown : b.shown = result := by rw [Browser.shown, hsearch, Option.getD_some]
    rw [hshown] at hf
    rw [Browser.modifyShown, hsearch]
    refine ⟨h.two_le, h.active_lt, h.fits, fun list hlist => ?_⟩
    cases hlist
    exact hf 2 (h.search result hsearch)
  | none =>
    have hactive := h.getElem?_shown hsearch
    rw [modifyShown_of_search_eq_none hsearch]
    refine h.modify (fun list hlist => ?_) fun _ _ _ hfits => hfits
    obtain rfl : b.shown = list := Option.some.inj (hactive.symm.trans hlist)
    exact hf b.active (h.fits _ _ hactive)

/-- To change no songs is to spare them. -/
theorem spares_modifyShown_of_same {f : Songlist → Songlist} (hkind : (f b.shown).kind = b.shown.kind)
    (hsongs : (f b.shown).songs = b.shown.songs) : b.Spares (b.modifyShown f) :=
  fun _ h => h.modifyShown fun _ hfits => hfits.of_same hkind hsongs

/-- The lists of the user are not the server's. -/
theorem spares_modifyShown_of_isDerived {f : Songlist → Songlist} (hshown : b.shown.IsDerived)
    (hf : (f b.shown).IsDerived) : b.Spares (b.modifyShown f) :=
  fun _ h => h.modifyShown fun _ hfits => hfits.of_isDerived hshown hf

/-- The queue on screen may be changed along with the stock. -/
theorem Holds.modifyShown_queue (h : b.Holds stock) (hqueue : b.shown.kind = .queue)
    {f : Songlist → Songlist} (hkind : (f b.shown).kind = b.shown.kind) :
    (b.modifyShown f).Holds { stock with queue := (f b.shown).songs } := by
  obtain ⟨hsearch, hactive, -⟩ := h.of_kind_eq_queue hqueue
  have hshown := h.getElem?_shown hsearch
  rw [modifyShown_of_search_eq_none hsearch]
  refine h.modify (fun list hlist => ?_) fun place list hplace hfits => ?_
  · obtain rfl : b.shown = list := Option.some.inj (hshown.symm.trans hlist)
    rw [hactive]
    exact ⟨hkind.trans hqueue, rfl⟩
  · rw [hactive] at hplace
    match place with
    | 0 => exact absurd rfl hplace
    | 1 => exact hfits
    | _ + 2 => exact hfits

/-- The library on screen may be put in another order. -/
theorem Holds.modifyShown_library (h : b.Holds stock) (hlibrary : b.shown.kind = .library)
    {f : Songlist → Songlist} (hkind : (f b.shown).kind = b.shown.kind)
    (hperm : (f b.shown).songs.Perm b.shown.songs) :
    (b.modifyShown f).Holds { stock with sorted := true } := by
  obtain ⟨hsearch, hactive⟩ := h.of_kind_eq_library hlibrary
  have hshown := h.getElem?_shown hsearch
  have hfits := h.fits b.active b.shown hshown
  rw [hactive] at hfits
  rw [modifyShown_of_search_eq_none hsearch]
  refine h.modify (fun list hlist => ?_) fun place list hplace hfits => ?_
  · obtain rfl : b.shown = list := Option.some.inj (hshown.symm.trans hlist)
    rw [hactive]
    exact ⟨hkind.trans hlibrary, hperm.trans hfits.2.1, nofun⟩
  · rw [hactive] at hplace
    match place with
    | 0 => exact hfits
    | 1 => exact absurd rfl hplace
    | _ + 2 => exact hfits

end Shown

section Moving

theorem spares_refl (b : Browser) : b.Spares b := fun _ => id

theorem Spares.trans (hfirst : b.Spares b') (hsecond : b'.Spares b'') : b.Spares b'' :=
  fun stock h => hsecond stock (hfirst stock h)

/-- What is not in the lists does not count. -/
theorem spares_of_same (hlists : b'.lists = b.lists) (hactive : b'.active = b.active)
    (hsearch : b'.search = b.search) : b.Spares b' := by
  intro stock h
  refine ⟨?_, ?_, hlists ▸ h.fits, hsearch ▸ h.search⟩
  · rw [count, hlists]
    exact h.two_le
  · rw [count, hlists, hactive]
    exact h.active_lt

theorem spares_cancelSearch (b : Browser) : b.Spares b.cancelSearch :=
  fun _ h => ⟨h.two_le, h.active_lt, h.fits, nofun⟩

theorem spares_select? {index : Nat} (h : b.select? index = some b') : b.Spares b' := by
  unfold select? at h
  split at h
  · next hindex =>
    cases h
    exact fun _ h => ⟨h.two_le, hindex, h.fits, nofun⟩
  · cases h

theorem spares_cycle (b : Browser) (forward : Bool) : b.Spares (b.cycle forward) := by
  unfold cycle select
  generalize (if forward then (b.active + 1) % b.count else _) = index
  cases hselect : b.select? index with
  | none => exact spares_refl b
  | some b' => exact spares_select? hselect

/-- A list of the user is put after all others. -/
theorem spares_push {list : Songlist} (hlist : list.IsDerived) : b.Spares (b.push list) := by
  intro stock h
  have hcount : (b.push list).count = b.count + 1 := count_push b list
  refine ⟨?_, ?_, fun place other hother => ?_, nofun⟩
  · have := h.two_le
    omega
  · rw [hcount]
    exact Nat.lt_succ_self _
  · change (b.lists ++ [list])[place]? = some other at hother
    rw [List.getElem?_append] at hother
    split at hother
    · exact h.fits place other hother
    · next hplace =>
      have hlast : list = other := by
        obtain ⟨-, heq⟩ := by simpa [List.getElem?_cons] using hother
        exact heq
      rw [Stock.fits_of_two_le (Nat.le_trans h.two_le (Nat.le_of_not_lt hplace)), ← hlast]
      exact hlist

theorem spares_duplicate (b : Browser) : b.Spares b.duplicate := spares_push (.inr rfl)

/-- A list of the user may be closed: those before it stay, and those after it are the user's. -/
theorem Holds.erase (h : b.Holds stock) (hplace : 2 ≤ b.active) (hsearch : b.search = none) :
    Holds { b with
      lists := b.lists.eraseIdx b.active
      active := min (b.active - 1) ((b.lists.eraseIdx b.active).length - 1) } stock := by
  have hlt : b.active < b.lists.length := h.active_lt
  have hcount : (b.lists.eraseIdx b.active).length = b.lists.length - 1 :=
    List.length_eraseIdx_of_lt hlt
  refine ⟨?_, ?_, fun place list hlist => ?_, ?_⟩
  · show 2 ≤ (b.lists.eraseIdx b.active).length
    omega
  · show min (b.active - 1) _ < (b.lists.eraseIdx b.active).length
    omega
  · rw [List.getElem?_eraseIdx] at hlist
    split at hlist
    · exact h.fits place list hlist
    · next hafter =>
      have hderived := h.fits (place + 1) list hlist
      rw [Stock.fits_of_two_le (by omega)] at hderived ⊢
      exact hderived
  · intro list hlist
    cases hsearch.symm.trans hlist

/-- Only a list of the user is closed. -/
theorem spares_remove? (h : b.remove? = some b') : b.Spares b' := by
  unfold remove? at h
  split at h
  · cases h
    exact spares_cancelSearch b
  · next hsome =>
    have hsearch : b.search = none := by simpa using hsome
    have hshown : b.activeList = b.shown := by rw [shown, hsearch, Option.getD_none]
    intro stock hholds
    have hfits := hholds.fits _ _ (hholds.getElem?_shown hsearch)
    rw [← hshown] at hfits
    cases hkind : b.activeList.kind with
    | queue | library =>
      simp only [hkind] at h
      cases h
    | search | custom =>
      simp only [hkind] at h
      cases h
      exact hholds.erase (hfits.two_le (by simp [hkind]) (by simp [hkind])) hsearch

theorem spares_showSearch (b : Browser) (term : String) : b.Spares (b.showSearch term) := by
  unfold showSearch
  split
  · exact spares_cancelSearch b
  · intro stock h
    refine ⟨h.two_le, h.active_lt, h.fits, fun list hlist => ?_⟩
    cases hlist
    exact .inl rfl

theorem spares_commitSearch (b : Browser) : b.Spares b.commitSearch := by
  unfold commitSearch
  split
  · exact spares_refl b
  · next result hsearch =>
    split
    · exact spares_cancelSearch b
    · exact fun stock h => spares_push (h.search result hsearch) stock h

end Moving

section Loading

/-- The first two lists are the queue and the library. -/
theorem Holds.exists_lists (h : b.Holds stock) :
    ∃ queue library rest, b.lists = queue :: library :: rest ∧
      stock.Fits 0 queue ∧ stock.Fits 1 library := by
  have hfits := h.fits
  have htwo : 2 ≤ b.lists.length := h.two_le
  match hlists : b.lists, htwo with
  | queue :: library :: rest, _ =>
    rw [hlists] at hfits
    exact ⟨queue, library, rest, rfl, hfits 0 queue rfl, hfits 1 library rfl⟩

theorem Holds.songs?_queue (h : b.Holds stock) : b.songs? .queue = some stock.queue := by
  obtain ⟨queue, library, rest, hlists, hqueue, -⟩ := h.exists_lists
  rw [songs?, list?, hlists, List.find?_cons_of_pos (by simp [hqueue.1]), Option.map_some, hqueue.2]

theorem Holds.songs?_library (h : b.Holds stock) :
    ∃ songs, b.songs? .library = some songs ∧ songs.Perm stock.library ∧
      (stock.sorted = false → songs = stock.library) := by
  obtain ⟨queue, library, rest, hlists, hqueue, hlibrary⟩ := h.exists_lists
  refine ⟨library.songs, ?_, hlibrary.2.1, hlibrary.2.2⟩
  rw [songs?, list?, hlists, List.find?_cons_of_neg (by simp [hqueue.1]),
    List.find?_cons_of_pos (by simp [hlibrary.1]), Option.map_some]

/-- A library that was not sorted is the one that should be there. -/
theorem Holds.songs?_library_of_not_sorted (h : b.Holds stock) (hsorted : stock.sorted = false) :
    b.songs? .library = some stock.library := by
  obtain ⟨songs, hsongs, -, hsame⟩ := h.songs?_library
  rw [hsongs, hsame hsorted]

/-- What the lists hold may be taken for what they should. -/
theorem Holds.exists_actual (h : b.Holds stock) :
    ∃ actual, b.Holds actual ∧ actual.sorted = false := by
  obtain ⟨queue, library, rest, hlists, -, hlibrary⟩ := h.exists_lists
  refine ⟨{ stock with library := library.songs, sorted := false }, ?_, rfl⟩
  refine ⟨h.two_le, h.active_lt, fun place list hlist => ?_, h.search⟩
  have hfits := h.fits place list hlist
  match place with
  | 0 => exact hfits
  | 1 =>
    rw [hlists] at hlist
    cases hlist
    exact ⟨hlibrary.1, List.Perm.refl _, fun _ => rfl⟩
  | _ + 2 => exact hfits

/-- Where nothing was loaded yet there is nothing to put in order. -/
theorem Holds.of_empty (h : b.Holds stock) (hqueue : stock.queue = [])
    (hlibrary : stock.library = []) : b.Holds {} := by
  refine ⟨h.two_le, h.active_lt, fun place list hlist => ?_, h.search⟩
  have hfits := h.fits place list hlist
  match place with
  | 0 => exact ⟨hfits.1, hfits.2.trans hqueue⟩
  | 1 =>
    have hsongs : list.songs = [] := (hlibrary ▸ hfits.2.1).eq_nil
    exact ⟨hfits.1, hsongs ▸ List.Perm.refl _, fun _ => hsongs⟩
  | _ + 2 => exact hfits

/-- What spares the lists of the server leaves their songs alone. -/
theorem Spares.songs?_eq (hspares : b.Spares b') (h : b.Holds stock) :
    b'.songs? .queue = b.songs? .queue ∧ b'.songs? .library = b.songs? .library := by
  obtain ⟨actual, hactual, hsorted⟩ := h.exists_actual
  have hafter := hspares actual hactual
  constructor
  · rw [hafter.songs?_queue, hactual.songs?_queue]
  · rw [hafter.songs?_library_of_not_sorted hsorted, hactual.songs?_library_of_not_sorted hsorted]

/-- The copy of the queue is replaced as a whole. -/
theorem Holds.replace_queue (h : b.Holds stock) (songs : List Song) :
    (b.replace .queue songs).Holds { stock with queue := songs } := by
  obtain ⟨queue, library, rest, hlists, hqueue, hlibrary⟩ := h.exists_lists
  have hindex : b.lists.findIdx? (·.kind == .queue) = some 0 := by
    rw [hlists, List.findIdx?_cons, if_pos (by simp [hqueue.1])]
  rw [replace, hindex]
  refine h.modify (fun list hlist => ?_) fun place list hplace hfits => ?_
  · exact ⟨(h.fits 0 list hlist).1, rfl⟩
  · match place with
    | 0 => exact absurd rfl hplace
    | 1 => exact hfits
    | _ + 2 => exact hfits

/-- So is that of the library, which is not sorted then. -/
theorem Holds.replace_library (h : b.Holds stock) (songs : List Song) :
    (b.replace .library songs).Holds { stock with library := songs, sorted := false } := by
  obtain ⟨queue, library, rest, hlists, hqueue, hlibrary⟩ := h.exists_lists
  have hindex : b.lists.findIdx? (·.kind == .library) = some 1 := by
    rw [hlists, List.findIdx?_cons, if_neg (by simp [hqueue.1]), List.findIdx?_cons,
      if_pos (by simp [hlibrary.1])]
    rfl
  rw [replace, hindex]
  refine h.modify (fun list hlist => ?_) fun place list hplace hfits => ?_
  · exact ⟨(h.fits 1 list hlist).1, List.Perm.refl _, fun _ => rfl⟩
  · match place with
    | 0 => exact hfits
    | 1 => exact absurd rfl hplace
    | _ + 2 => exact hfits

end Loading

end Browser

end Jukebox
