import Mathlib.Data.List.Pairwise
import Jukebox.Songlist

/-
# Sorting by several tags

A list is sorted by one tag after another, by the last one first. Each sort leaves songs that are equal
by its tag in the order they were in, so in the end the first tag counts most, and each of the others
counts among songs that agree on those before it: it comes to one sort by all tags together. What such a
sort makes of a list is told without the way it is done, and there is just one list that fits it. So to
sort a second time changes nothing, and two choices of tags order a list alike just if they put the same
pairs of its songs the other way round.
-/

namespace Jukebox

namespace Text

theorem notAfter_iff {a b : String} : notAfter a b = true ↔ a ≤ b := by
  rw [notAfter, Bool.not_eq_true', decide_eq_false_iff_not, String.not_lt]

theorem notAfter_trans (a b c : String) (hab : notAfter a b = true) (hbc : notAfter b c = true) :
    notAfter a c = true :=
  notAfter_iff.2 (String.le_trans (notAfter_iff.1 hab) (notAfter_iff.1 hbc))

theorem notAfter_total (a b : String) : (notAfter a b || notAfter b a) = true := by
  rw [Bool.or_eq_true, notAfter_iff, notAfter_iff]
  exact String.le_total a b

end Text

open Text

namespace Song

/-- One song comes before another by some tags: the sorting forms of its tags, taken together, come
first in the order of a dictionary. -/
def Before (tags : List String) (a b : Song) : Prop :=
  List.Lex (· < ·) (tags.map a.sortTag) (tags.map b.sortTag)

instance (tags : List String) (a b : Song) : Decidable (Before tags a b) :=
  inferInstanceAs (Decidable (List.Lex (· < ·) (tags.map a.sortTag) (tags.map b.sortTag)))

variable {tag : String} {tags others : List String} {a b c : Song}

@[simp]
theorem not_before_nil (a b : Song) : ¬Before [] a b := nofun

theorem before_cons : Before (tag :: tags) a b ↔
    a.sortTag tag < b.sortTag tag ∨ a.sortTag tag = b.sortTag tag ∧ Before tags a b :=
  List.cons_lex_cons_iff

theorem Before.trans (hab : Before tags a b) (hbc : Before tags b c) : Before tags a c := by
  induction tags with
  | nil => exact absurd hab (not_before_nil a b)
  | cons tag tags ih =>
    rw [before_cons] at hab hbc ⊢
    rcases hab with hlt | ⟨heq, hrest⟩
    · rcases hbc with hlt' | ⟨heq', -⟩
      · exact .inl (String.lt_trans hlt hlt')
      · exact .inl (heq' ▸ hlt)
    · rcases hbc with hlt' | ⟨heq', hrest'⟩
      · exact .inl (heq ▸ hlt')
      · exact .inr ⟨heq.trans heq', ih hrest hrest'⟩

theorem Before.irrefl (tags : List String) (a : Song) : ¬Before tags a a :=
  List.lex_irrefl String.lt_irrefl _

theorem Before.asymm (hab : Before tags a b) : ¬Before tags b a :=
  fun hba => Before.irrefl tags a (hab.trans hba)

end Song

open Song

namespace Songlist

variable {tag : String} {tags others : List String} {a b : Song} {songs sorted sorted' : List Song}

theorem agree_iff : agree tags a b = true ↔ ∀ tag ∈ tags, a.sortTag tag = b.sortTag tag := by
  simp [agree]

theorem agree_cons : agree (tag :: tags) a b =
    (a.sortTag tag == b.sortTag tag && agree tags a b) := by
  simp [agree]

/-- Of two songs that do not agree on the tags one comes before the other. -/
theorem agree_of_not_before (hab : ¬Before tags a b) (hba : ¬Before tags b a) :
    agree tags a b = true := by
  induction tags with
  | nil => rfl
  | cons tag tags ih =>
    rw [before_cons, not_or, not_and] at hab hba
    have heq : a.sortTag tag = b.sortTag tag :=
      String.le_antisymm (String.not_lt.1 hba.1) (String.not_lt.1 hab.1)
    rw [agree_cons, Bool.and_eq_true, beq_iff_eq]
    exact ⟨heq, ih (hab.2 heq) (hba.2 heq.symm)⟩

theorem not_before_of_agree (h : agree tags a b = true) : ¬Before tags a b := by
  have hsame : tags.map a.sortTag = tags.map b.sortTag := List.map_congr_left (agree_iff.1 h)
  rw [Before, hsame]
  exact List.lex_irrefl String.lt_irrefl _

/-- What a sort by some tags makes of songs: they come in the order of the tags, and those that agree
on all of them come in the order they were in. -/
structure Sorts (tags : List String) (songs sorted : List Song) : Prop where
  perm : sorted.Perm songs
  ordered : sorted.Pairwise fun a b => ¬Before tags b a
  stable : ∀ song, sorted.filter (agree tags song) = songs.filter (agree tags song)

/-- Songs that are in order already are sorted as they are. -/
theorem sorts_self (h : songs.Pairwise fun a b => ¬Before tags b a) : Sorts tags songs songs :=
  ⟨.refl songs, h, fun _ => rfl⟩

/-- Some of the songs are sorted as they are among all. -/
theorem Sorts.filter (h : Sorts tags songs sorted) (p : Song → Bool) :
    Sorts tags (songs.filter p) (sorted.filter p) where
  perm := h.perm.filter p
  ordered := h.ordered.filter p
  stable song := by
    rw [List.filter_filter, List.filter_filter]
    simp only [Bool.and_comm (agree tags song _)]
    rw [← List.filter_filter, ← List.filter_filter, h.stable]

/-- There is just one way to sort songs: the song that comes first is one of those that come before no
other, and among these it is the one that came first. -/
theorem Sorts.unique (h : Sorts tags songs sorted) (h' : Sorts tags songs sorted') :
    sorted = sorted' := by
  have hperm : sorted.Perm sorted' := h.perm.trans h'.perm.symm
  have hstable : ∀ song, sorted.filter (agree tags song) = sorted'.filter (agree tags song) :=
    fun song => (h.stable song).trans (h'.stable song).symm
  have hordered := h.ordered
  have hordered' := h'.ordered
  clear h h'
  induction sorted generalizing sorted' with
  | nil => exact hperm.nil_eq
  | cons a rest ih =>
    cases sorted' with
    | nil => exact hperm.eq_nil
    | cons b rest' =>
      obtain ⟨hfirst, hrest⟩ := List.pairwise_cons.1 hordered
      obtain ⟨hfirst', hrest'⟩ := List.pairwise_cons.1 hordered'
      have hba : ¬Before tags b a := by
        rcases List.mem_cons.1 (hperm.mem_iff.2 List.mem_cons_self) with rfl | hb
        · exact Before.irrefl tags b
        · exact hfirst b hb
      have hab : ¬Before tags a b := by
        rcases List.mem_cons.1 (hperm.mem_iff.1 List.mem_cons_self) with rfl | ha
        · exact Before.irrefl tags a
        · exact hfirst' a ha
      have hagree : agree tags a b = true := agree_of_not_before hab hba
      have hself : agree tags a a = true := agree_iff.2 fun _ _ => rfl
      obtain rfl : a = b := by
        have hclass := hstable a
        rw [List.filter_cons_of_pos hself, List.filter_cons_of_pos hagree] at hclass
        exact (List.cons.inj hclass).1
      refine congrArg (a :: ·) (ih hperm.cons_inv (fun song => ?_) hrest hrest')
      have hclass := hstable song
      rw [List.filter_cons, List.filter_cons] at hclass
      split at hclass
      · exact (List.cons.inj hclass).2
      · exact hclass

/-- Two songs in the wrong order change places. -/
theorem sorts_swap (hba : Before tags b a) : Sorts tags [a, b] [b, a] where
  perm := .swap a b []
  ordered := List.pairwise_pair.2 hba.asymm
  stable song := by
    cases hagree : agree tags song b with
    | false => simp [List.filter_cons, hagree]
    | true =>
      have hother : ¬agree tags song a = true := fun ha =>
        not_before_of_agree (agree_iff.2 fun tag htag =>
          (agree_iff.1 hagree tag htag).symm.trans (agree_iff.1 ha tag htag)) hba
      rw [List.filter_cons_of_pos hagree, List.filter_cons_of_neg hother,
        List.filter_cons_of_neg hother, List.filter_cons_of_pos hagree]

/-! ### One sort after another -/

theorem pairwise_sortByTag (songs : List Song) (tag : String) :
    (sortByTag songs tag).Pairwise fun a b => a.sortTag tag ≤ b.sortTag tag := by
  have htrans (a b c : Song) := notAfter_trans (a.sortTag tag) (b.sortTag tag) (c.sortTag tag)
  have htotal (a b : Song) := notAfter_total (a.sortTag tag) (b.sortTag tag)
  exact (List.pairwise_mergeSort htrans htotal songs).imp notAfter_iff.1

/-- Songs that are in order already stay so. -/
theorem sublist_sortByTag {part : List Song} (hsub : part.Sublist songs)
    (h : part.Pairwise fun a b => a.sortTag tag ≤ b.sortTag tag) :
    part.Sublist (sortByTag songs tag) := by
  have htrans (a b c : Song) := notAfter_trans (a.sortTag tag) (b.sortTag tag) (c.sortTag tag)
  have htotal (a b : Song) := notAfter_total (a.sortTag tag) (b.sortTag tag)
  exact List.sublist_mergeSort htrans htotal (h.imp notAfter_iff.2) hsub

/-- A sort by one tag leaves songs with equal tags in the order they were in. -/
theorem filter_sortByTag (songs : List Song) (tag key : String) :
    (sortByTag songs tag).filter (fun song => key == song.sortTag tag) =
      songs.filter fun song => key == song.sortTag tag := by
  have hsub : (songs.filter fun song => key == song.sortTag tag).Sublist
      (sortByTag songs tag) := by
    refine sublist_sortByTag List.filter_sublist ?_
    refine List.pairwise_of_forall_mem_list fun a ha b hb => ?_
    have hkeyA : key = a.sortTag tag := eq_of_beq (List.mem_filter.1 ha).2
    have hkeyB : key = b.sortTag tag := eq_of_beq (List.mem_filter.1 hb).2
    exact hkeyA ▸ hkeyB ▸ String.le_refl key
  have hgroup := hsub.filter fun song => key == song.sortTag tag
  rw [List.filter_filter] at hgroup
  simp only [Bool.and_self] at hgroup
  exact (hgroup.eq_of_length ((perm_sortByTag songs tag).filter _).length_eq.symm).symm

/-- Sorting by a tag what was sorted by others comes to sorting by that tag and then by these. -/
theorem Sorts.sortByTag (h : Sorts tags songs sorted) (tag : String) :
    Sorts (tag :: tags) songs (sortByTag sorted tag) where
  perm := (perm_sortByTag sorted tag).trans h.perm
  ordered := by
    rw [List.pairwise_iff_forall_sublist]
    intro a b hpair
    have hle := List.pairwise_iff_forall_sublist.1 (pairwise_sortByTag sorted tag) hpair
    rw [before_cons, not_or, not_and]
    refine ⟨String.not_lt.2 hle, fun heq => ?_⟩
    -- Songs with equal tags stand as they stood before, in the order of the other tags.
    have hgroup := hpair.filter fun song => a.sortTag tag == song.sortTag tag
    rw [filter_sortByTag, List.filter_eq_self.2 (by simp [heq])] at hgroup
    exact List.pairwise_iff_forall_sublist.1 h.ordered (hgroup.trans List.filter_sublist)
  stable song := by
    have hboth (l : List Song) : l.filter (agree (tag :: tags) song) =
        (l.filter fun other => song.sortTag tag == other.sortTag tag).filter
          (agree tags song) := by
      rw [List.filter_filter]
      exact List.filter_congr fun other _ => agree_cons.trans (Bool.and_comm _ _)
    rw [hboth, filter_sortByTag, ← hboth, List.filter_congr fun other _ => agree_cons,
      List.filter_congr fun other _ => agree_cons, ← List.filter_filter, ← List.filter_filter,
      h.stable]

theorem songs_sortByTags_cons (list : Songlist) (tag : String) (tags : List String) :
    (list.sortByTags (tag :: tags)).songs = Songlist.sortByTag (list.sortByTags tags).songs tag := by
  show (tag :: tags).reverse.foldl Songlist.sortByTag list.songs =
    Songlist.sortByTag (tags.reverse.foldl Songlist.sortByTag list.songs) tag
  rw [List.reverse_cons, List.foldl_append, List.foldl_cons, List.foldl_nil]

theorem sorts_sortByTags (list : Songlist) (tags : List String) :
    Sorts tags list.songs (list.sortByTags tags).songs := by
  induction tags with
  | nil => exact sorts_self (List.pairwise_of_forall fun a b => not_before_nil b a)
  | cons tag tags ih =>
    rw [songs_sortByTags_cons]
    exact ih.sortByTag tag

theorem Sorts.songs_eq {list : Songlist} (h : Sorts tags list.songs sorted) :
    (list.sortByTags tags).songs = sorted :=
  (sorts_sortByTags list tags).unique h

/-- To sort a list by several tags, one after another and the last one first, is to sort it once by all
of them: none of its songs is lost or added, they come in the order of the tags, and those that agree on
all tags come in the order they were in. Sorting once more by the same tags changes nothing. -/
theorem sortByTags_sorts_once (list : Songlist) (tags : List String) :
    Sorts tags list.songs (list.sortByTags tags).songs ∧
    (list.sortByTags tags).sortByTags tags = list.sortByTags tags := by
  have hsorts := sorts_sortByTags list tags
  have hsame : ((list.sortByTags tags).sortByTags tags).songs = (list.sortByTags tags).songs :=
    (sorts_self hsorts.ordered).songs_eq
  refine ⟨hsorts, ?_⟩
  show { list.sortByTags tags with songs := ((list.sortByTags tags).sortByTags tags).songs } = _
  rw [hsame]

/-! ### Two choices of tags -/

/-- Of two songs in a list one stands above the other. -/
theorem pair_sublist_or (ha : a ∈ songs) (hb : b ∈ songs) (hne : a ≠ b) :
    [a, b].Sublist songs ∨ [b, a].Sublist songs := by
  induction songs with
  | nil => exact absurd ha List.not_mem_nil
  | cons first songs ih =>
    rcases List.mem_cons.1 ha with rfl | ha'
    · exact .inl ((List.singleton_sublist.2 (List.mem_of_ne_of_mem hne.symm hb)).cons_cons a)
    · rcases List.mem_cons.1 hb with rfl | hb'
      · exact .inr ((List.singleton_sublist.2 ha').cons_cons b)
      · exact (ih ha' hb').imp (·.cons first) (·.cons first)

/-- Songs that agree on the tags stand as they stood. -/
theorem Sorts.pair_sublist_iff (h : Sorts tags songs sorted) (hagree : agree tags a b = true) :
    [a, b].Sublist sorted ↔ [a, b].Sublist songs := by
  have hkept : [a, b].filter (agree tags a) = [a, b] :=
    List.filter_eq_self.2 (by simpa [agree_iff] using hagree)
  have hgroup (l : List Song) : [a, b].Sublist l ↔ [a, b].Sublist (l.filter (agree tags a)) :=
    ⟨fun hsub => hkept ▸ hsub.filter (agree tags a), fun hsub => hsub.trans List.filter_sublist⟩
  rw [hgroup, h.stable, ← hgroup]

/-- A song stays above another unless the tags put it the other way round. -/
theorem Sorts.pair_sublist (h : Sorts tags songs sorted) (hsub : [a, b].Sublist songs)
    (hnot : ¬Before tags b a) : [a, b].Sublist sorted := by
  by_cases hab : Before tags a b
  · have hmem (song : Song) (hsong : song ∈ [a, b]) : song ∈ sorted :=
      h.perm.mem_iff.2 (hsub.subset hsong)
    have hne : a ≠ b := by
      rintro rfl
      exact Before.irrefl tags a hab
    refine (pair_sublist_or (hmem a (by simp)) (hmem b (by simp)) hne).resolve_right fun hother => ?_
    exact List.pairwise_iff_forall_sublist.1 h.ordered hother hab
  · exact (h.pair_sublist_iff (agree_of_not_before hab hnot)).2 hsub

/-- Tags that put the same pairs of songs the other way round as others sort them alike. -/
theorem Sorts.congr (h : Sorts others songs sorted)
    (hpairs : songs.Pairwise fun a b => Before tags b a ↔ Before others b a) :
    Sorts tags songs sorted := by
  rw [List.pairwise_iff_forall_sublist] at hpairs
  refine ⟨h.perm, List.pairwise_iff_forall_sublist.2 fun {a b} hsub hba => ?_, fun song => ?_⟩
  · have hnot : ¬Before others b a := List.pairwise_iff_forall_sublist.1 h.ordered hsub
    have hmem (song : Song) (hsong : song ∈ [a, b]) : song ∈ songs :=
      h.perm.mem_iff.1 (hsub.subset hsong)
    have hne : a ≠ b := by
      rintro rfl
      exact Before.irrefl tags a hba
    rcases pair_sublist_or (hmem a (by simp)) (hmem b (by simp)) hne with hsame | hother
    · exact hnot ((hpairs hsame).1 hba)
    · have hagree := agree_of_not_before (fun hab => hba.asymm ((hpairs hother).2 hab)) hnot
      exact hnot ((hpairs ((h.pair_sublist_iff hagree).1 hsub)).1 hba)
  · -- Songs that agree on the tags are not put the other way round by the others either.
    refine (h.filter (agree tags song)).unique (sorts_self ?_)
    refine List.pairwise_iff_forall_sublist.2 fun {a b} hsub hba => ?_
    have hmem (other : Song) (hother : other ∈ [a, b]) : agree tags song other = true :=
      (List.mem_filter.1 (hsub.subset hother)).2
    have hagree : agree tags b a = true := by
      have ha := agree_iff.1 (hmem a (by simp))
      have hb := agree_iff.1 (hmem b (by simp))
      exact agree_iff.2 fun tag htag => (hb tag htag).symm.trans (ha tag htag)
    exact not_before_of_agree hagree ((hpairs (hsub.trans List.filter_sublist)).2 hba)

/-- Where both tags sort alike, each puts a pair the other way round that the other one does. -/
theorem Sorts.before_of_before (h : Sorts tags songs sorted) (h' : Sorts others songs sorted)
    (hsub : [a, b].Sublist songs) (hba : Before tags b a) : Before others b a := by
  by_contra hnot
  exact List.pairwise_iff_forall_sublist.1 h.ordered (h'.pair_sublist hsub hnot) hba

/-- Two choices of tags sort a list alike just if they put the same pairs of its songs the other way
round. -/
theorem sortByTags_eq_iff (list : Songlist) (tags others : List String) :
    list.sortByTags tags = list.sortByTags others ↔
      list.songs.Pairwise fun a b => Before tags b a ↔ Before others b a := by
  have hsorts := sorts_sortByTags list tags
  have hothers := sorts_sortByTags list others
  constructor
  · intro hsame
    rw [hsame] at hsorts
    refine List.pairwise_iff_forall_sublist.2 fun {a b} hsub => ?_
    exact ⟨hsorts.before_of_before hothers hsub, hothers.before_of_before hsorts hsub⟩
  · intro hpairs
    show _ = { list.sortByTags tags with songs := (list.sortByTags others).songs }
    rw [← (hothers.congr hpairs).songs_eq]

end Songlist

end Jukebox
