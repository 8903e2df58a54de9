import Mathlib.Data.List.SplitBy
import Mathlib.Order.Basic
import Jukebox.Playback.Rehearsal
import Jukebox.Proofs.Act
import Jukebox.Proofs.FreshCommands
import Jukebox.Proofs.ListOperations

/-
# From group to group

Songs with the same tag that come one after another are a group, and a list falls into groups. The cursor
goes to where the next group begins, or back to where its own one does and from there to the one before.
It comes by every beginning on its way, and at the end it stays on the last row or on the first.
-/

namespace Jukebox

namespace Songlist

/-- The songs in parts of which each goes as far as songs have the same tag. -/
def groups (list : Songlist) (tag : String) : List (List Song) :=
  list.songs.splitBy fun a b => a.sortTag tag == b.sortTag tag

/-- The rows in which parts of a list begin if the first one does so in row `start`. -/
def startsFrom {α : Type} : (start : Nat) → List (List α) → List Nat
  | _, [] => []
  | start, part :: parts => start :: startsFrom (start + part.length) parts

/-- The rows in which groups begin. -/
def groupStarts (list : Songlist) (tag : String) : List Nat := startsFrom 0 (list.groups tag)

/-- A row is in a group; some groups are above it and some are below. -/
structure InGroup (list : Songlist) (tag : String) (row : Nat) (above : List (List Song))
    (group : List Song) (below : List (List Song)) : Prop where
  groups_eq : list.groups tag = above ++ group :: below
  start_le : above.flatten.length ≤ row
  lt_end : row < above.flatten.length + group.length

variable {list : Songlist} {tag : String} {row : Nat} {above below : List (List Song)}
  {group : List Song}

/-! ### Groups -/

theorem exists_part {α : Type} {parts : List (List α)} (h : row < parts.flatten.length) :
    ∃ above part below, parts = above ++ part :: below ∧ above.flatten.length ≤ row ∧
      row < above.flatten.length + part.length := by
  induction parts generalizing row with
  | nil => cases h
  | cons first parts ih =>
    by_cases hrow : row < first.length
    · exact ⟨[], first, parts, rfl, Nat.zero_le row, by simpa using hrow⟩
    · rw [List.flatten_cons, List.length_append] at h
      obtain ⟨above, part, below, rfl, hle, hlt⟩ := @ih (row - first.length) (by omega)
      refine ⟨first :: above, part, below, rfl, ?_, ?_⟩
      · rw [List.flatten_cons, List.length_append]
        omega
      · rw [List.flatten_cons, List.length_append]
        omega

@[simp]
theorem flatten_groups (list : Songlist) (tag : String) : (list.groups tag).flatten = list.songs :=
  List.flatten_splitBy _ _

theorem nil_notMem_groups (list : Songlist) (tag : String) : [] ∉ list.groups tag :=
  List.nil_notMem_splitBy _ _

/-- Every row is in a group. -/
theorem exists_inGroup (h : row < list.size) (tag : String) :
    ∃ above group below, list.InGroup tag row above group below := by
  have hrow : row < (list.groups tag).flatten.length := by
    rw [flatten_groups]
    exact h
  obtain ⟨above, group, below, hgroups, hle, hlt⟩ := exists_part hrow
  exact ⟨above, group, below, hgroups, hle, hlt⟩

section

variable (hgroups : list.groups tag = above ++ group :: below)

include hgroups

theorem songs_eq_of_groups : list.songs = above.flatten ++ group ++ below.flatten := by
  rw [← list.flatten_groups tag, hgroups]
  simp

theorem size_eq_of_groups :
    list.size = above.flatten.length + group.length + below.flatten.length := by
  rw [size, songs_eq_of_groups hgroups, List.length_append, List.length_append]

theorem mem_groups : group ∈ list.groups tag := by
  rw [hgroups]
  exact List.mem_append_right _ List.mem_cons_self

/-- All songs of a group have the same tag. -/
theorem sortTag_eq_of_mem_group {a b : Song} (ha : a ∈ group) (hb : b ∈ group) :
    a.sortTag tag = b.sortTag tag := by
  have hchain : group.IsChain fun a b => a.sortTag tag = b.sortTag tag :=
    (List.isChain_of_mem_splitBy (mem_groups hgroups)).imp fun _ _ h => beq_iff_eq.1 h
  cases group with
  | nil => cases ha
  | cons first rest =>
    have : Trans (fun a b : Song => a.sortTag tag = b.sortTag tag)
        (fun a b : Song => a.sortTag tag = b.sortTag tag)
        (fun a b : Song => a.sortTag tag = b.sortTag tag) := ⟨Eq.trans⟩
    have hfirst : ∀ song ∈ first :: rest, first.sortTag tag = song.sortTag tag :=
      List.forall_mem_cons.2 ⟨rfl, fun _ hsong => hchain.rel_cons hsong⟩
    exact (hfirst a ha).symm.trans (hfirst b hb)

/-- No group is empty. -/
theorem ne_nil_of_groups : group ≠ [] :=
  List.ne_nil_of_mem_splitBy (mem_groups hgroups)

end

/-- Two groups that come one after the other have different tags. -/
theorem sortTag_ne_of_groups {next : List Song}
    (hgroups : list.groups tag = above ++ group :: next :: below) {a b : Song} (ha : a ∈ group)
    (hb : b ∈ next) : a.sortTag tag ≠ b.sortTag tag := by
  have hchain := List.isChain_getLast_head_splitBy
    (fun a b : Song => a.sortTag tag == b.sortTag tag) list.songs
  obtain ⟨hgroup, hnext, hne⟩ := List.isChain_iff_forall_rel_of_append_cons_cons.1 hchain hgroups
  have hgroups' : list.groups tag = above ++ [group] ++ next :: below :=
    hgroups.trans (List.append_cons above group (next :: below))
  rw [sortTag_eq_of_mem_group hgroups ha (List.getLast_mem hgroup),
    sortTag_eq_of_mem_group hgroups' hb (List.head_mem hnext)]
  exact beq_eq_false_iff_ne.1 hne

/-- The song right above a group has another tag. -/
theorem sortTag_ne_of_mem_getLast? (hgroups : list.groups tag = above ++ group :: below) {a b : Song}
    (ha : a ∈ above.flatten.getLast?) (hb : b ∈ group) : a.sortTag tag ≠ b.sortTag tag := by
  rcases List.eq_nil_or_concat' above with rfl | ⟨above, previous, rfl⟩
  · cases ha
  · have hgroups' : list.groups tag = above ++ previous :: group :: below :=
      hgroups.trans (List.append_cons above previous (group :: below)).symm
    have hprevious : previous ≠ [] := ne_nil_of_groups hgroups'
    rw [List.flatten_append, List.flatten_singleton,
      List.getLast?_append_of_ne_nil _ hprevious] at ha
    exact sortTag_ne_of_groups hgroups' (List.mem_of_getLast? ha) hb

/-- The song right below a group has another tag. -/
theorem sortTag_ne_of_mem_head? (hgroups : list.groups tag = above ++ group :: below) {a b : Song}
    (ha : a ∈ group) (hb : b ∈ below.flatten.head?) : a.sortTag tag ≠ b.sortTag tag := by
  cases below with
  | nil => cases hb
  | cons next below =>
    have hgroups' : list.groups tag = above ++ [group] ++ next :: below :=
      hgroups.trans (List.append_cons above group (next :: below))
    have hnext : next ≠ [] := ne_nil_of_groups hgroups'
    rw [List.flatten_cons, List.head?_append_of_ne_nil _ hnext] at hb
    exact sortTag_ne_of_groups hgroups ha (List.mem_of_head? hb)

/-! ### How far songs have the same tag -/

section

variable {p : Song → Bool} {upper block lower : List Song} {song : Song}

theorem takeWhile_eq_nil (h : ∀ song ∈ lower.head?, p song = false) : lower.takeWhile p = [] := by
  cases lower with
  | nil => rfl
  | cons next lower => exact List.takeWhile_cons_of_neg (by simp [h next rfl])

/-- A run goes up to the song that ends it. -/
theorem runBefore_eq (hsongs : list.songs = upper ++ block ++ lower)
    (hblock : ∀ song ∈ block, p song = true) (hupper : ∀ song ∈ upper.getLast?, p song = false) :
    list.runBefore p (upper.length + block.length) = block.length := by
  have hstop : upper.reverse.takeWhile p = [] := by
    apply takeWhile_eq_nil
    rwa [List.head?_reverse]
  rw [runBefore, hsongs, ← List.length_append, List.take_left, List.reverse_append,
    List.takeWhile_append_of_pos fun song hsong => hblock song (List.mem_reverse.1 hsong), hstop,
    List.append_nil, List.length_reverse]

/-- A run goes down to the song that ends it. -/
theorem runAfter_eq (hsongs : list.songs = upper ++ song :: block ++ lower)
    (hblock : ∀ song ∈ block, p song = true) (hlower : ∀ song ∈ lower.head?, p song = false) :
    list.runAfter p upper.length = block.length := by
  have hdrop : list.songs.drop (upper.length + 1) = block ++ lower := by
    rw [hsongs]
    simp
  rw [runAfter, hdrop, List.takeWhile_append_of_pos hblock, takeWhile_eq_nil hlower, List.append_nil]

end

/-! ### One step -/

namespace InGroup

/-- The song in a row, with what is above it in its group and what is below. -/
theorem exists_song (h : list.InGroup tag row above group below) :
    ∃ before song after, group = before ++ song :: after ∧
      row = above.flatten.length + before.length := by
  have hle := h.start_le
  have hlt : row - above.flatten.length < group.length := by
    have hrow := h.lt_end
    omega
  have hgroup : group = group.take (row - above.flatten.length) ++
      group[row - above.flatten.length] :: group.drop (row - above.flatten.length + 1) := by
    rw [← List.drop_eq_getElem_cons hlt, List.take_append_drop]
  refine ⟨_, _, _, hgroup, ?_⟩
  rw [List.length_take, Nat.min_eq_left (Nat.le_of_lt hlt)]
  omega

theorem groupStart_eq (h : list.InGroup tag row above group below) :
    list.groupStart tag row = above.flatten.length := by
  obtain ⟨before, song, after, rfl, rfl⟩ := h.exists_song
  have hsongs : list.songs = above.flatten ++ before ++ (song :: after ++ below.flatten) := by
    rw [songs_eq_of_groups h.groups_eq]
    simp
  have hsong : list.songs[above.flatten.length + before.length]? = some song := by
    rw [hsongs, ← List.length_append]
    simp
  have hmem : song ∈ before ++ song :: after := List.mem_append_right _ List.mem_cons_self
  have hsame : ∀ other ∈ before, (other.sortTag tag == song.sortTag tag) = true := by
    intro other hother
    exact beq_iff_eq.2 (sortTag_eq_of_mem_group h.groups_eq (List.mem_append_left _ hother) hmem)
  have hstop : ∀ other ∈ above.flatten.getLast?, (other.sortTag tag == song.sortTag tag) = false := by
    intro other hother
    exact beq_eq_false_iff_ne.2 (sortTag_ne_of_mem_getLast? h.groups_eq hother hmem)
  rw [groupStart, hsong]
  dsimp only
  rw [runBefore_eq hsongs hsame hstop, Nat.add_sub_cancel]

theorem runAfter_eq (h : list.InGroup tag list.cursor above group below) {song : Song}
    (hsong : list.cursorSong? = some song) :
    list.cursor + 1 + list.runAfter (fun other => other.sortTag tag == song.sortTag tag) list.cursor =
      above.flatten.length + group.length := by
  obtain ⟨before, current, after, rfl, hrow⟩ := h.exists_song
  have hsongs : list.songs = (above.flatten ++ before) ++ current :: after ++ below.flatten := by
    rw [songs_eq_of_groups h.groups_eq]
    simp
  obtain rfl : current = song := by
    rw [cursorSong?, hrow, hsongs, ← List.length_append] at hsong
    simpa using hsong
  have hmem : current ∈ before ++ current :: after := List.mem_append_right _ List.mem_cons_self
  have hsame : ∀ other ∈ after, (other.sortTag tag == current.sortTag tag) = true := by
    intro other hother
    have hafter : other ∈ before ++ current :: after :=
      List.mem_append_right _ (List.mem_cons_of_mem _ hother)
    exact beq_iff_eq.2 (sortTag_eq_of_mem_group h.groups_eq hafter hmem)
  have hstop : ∀ other ∈ below.flatten.head?, (other.sortTag tag == current.sortTag tag) = false := by
    intro other hother
    exact beq_eq_false_iff_ne.2 (sortTag_ne_of_mem_head? h.groups_eq hmem hother).symm
  have hrun := Songlist.runAfter_eq hsongs hsame hstop
  rw [List.length_append, ← hrow] at hrun
  rw [hrun, hrow, List.length_append, List.length_cons]
  omega

/-- Below the last group there is nowhere to go but the last row. -/
theorem nextOf_eq (h : list.InGroup tag list.cursor above group below) : list.nextOf tag =
    if below = [] then list.size - 1 else above.flatten.length + group.length := by
  have hsize := size_eq_of_groups h.groups_eq
  have hlt := h.lt_end
  have hcursor : list.cursor < list.songs.length := by
    change list.cursor < list.size
    omega
  have hsong : list.cursorSong? = some list.songs[list.cursor] := List.getElem?_eq_getElem hcursor
  rw [nextOf, hsong]
  dsimp only
  rw [h.runAfter_eq hsong, hsize]
  cases below with
  | nil =>
    rw [if_pos rfl, List.flatten_nil, List.length_nil]
    omega
  | cons next below =>
    have hgroups : list.groups tag = above ++ [group] ++ next :: below :=
      h.groups_eq.trans (List.append_cons above group (next :: below))
    have hnext := List.length_pos_iff.2 (ne_nil_of_groups hgroups)
    rw [if_neg (List.cons_ne_nil _ _), List.flatten_cons, List.length_append]
    omega

/-- From where a group begins the cursor goes to where the one above it begins. -/
theorem prevOf_eq (h : list.InGroup tag list.cursor above group below) : list.prevOf tag =
    if above.flatten.length < list.cursor then above.flatten.length
    else above.dropLast.flatten.length := by
  have hsize := size_eq_of_groups h.groups_eq
  have hle := h.start_le
  have hlt := h.lt_end
  have hsome : list.isEmpty = false := by
    rw [isEmpty, ← Bool.not_eq_true, List.isEmpty_iff_length_eq_zero]
    change ¬list.size = 0
    omega
  rw [prevOf, h.groupStart_eq, hsome]
  simp only [Bool.false_eq_true, or_false]
  rcases List.eq_nil_or_concat' above with rfl | ⟨above, previous, rfl⟩
  · rcases Nat.eq_zero_or_pos list.cursor with hzero | hpos
    · simp [hzero]
    · simp [hpos, Nat.ne_of_gt hpos]
  · have hgroups : list.groups tag = above ++ previous :: group :: below :=
      h.groups_eq.trans (List.append_cons above previous (group :: below)).symm
    have hprevious := List.length_pos_iff.2 (ne_nil_of_groups hgroups)
    rw [List.flatten_append, List.flatten_singleton, List.length_append] at hle hlt ⊢
    rw [if_neg (by omega), List.dropLast_concat]
    split
    · rfl
    · have habove : list.InGroup tag (list.cursor - 1) above previous (group :: below) :=
        ⟨hgroups, by omega, by omega⟩
      exact habove.groupStart_eq

end InGroup

/-! ### Where groups begin -/

section

variable {α : Type} {parts : List (List α)} {start : Nat}

theorem startsFrom_append (start : Nat) (parts others : List (List α)) :
    startsFrom start (parts ++ others) =
      startsFrom start parts ++ startsFrom (start + parts.flatten.length) others := by
  induction parts generalizing start with
  | nil => rfl
  | cons part parts ih =>
    rw [List.cons_append, startsFrom, startsFrom, ih, List.flatten_cons, List.length_append,
      Nat.add_assoc, List.cons_append]

/-- Parts begin no earlier than the first of them, and before the end of the last. -/
theorem le_and_lt_of_mem_startsFrom (hparts : [] ∉ parts) (h : row ∈ startsFrom start parts) :
    start ≤ row ∧ row < start + parts.flatten.length := by
  induction parts generalizing start with
  | nil => cases h
  | cons part parts ih =>
    rw [List.mem_cons, not_or] at hparts
    have hpart := List.length_pos_iff.2 (Ne.symm hparts.1)
    rw [List.flatten_cons, List.length_append]
    rcases List.mem_cons.1 h with rfl | hlater
    · omega
    · have hrow := ih hparts.2 hlater
      omega

/-- Each part begins after the one before it. -/
theorem pairwise_startsFrom (hparts : [] ∉ parts) : (startsFrom start parts).Pairwise (· < ·) := by
  induction parts generalizing start with
  | nil => exact List.Pairwise.nil
  | cons part parts ih =>
    rw [List.mem_cons, not_or] at hparts
    have hpart := List.length_pos_iff.2 (Ne.symm hparts.1)
    refine List.pairwise_cons.2 ⟨fun row hrow => ?_, ih hparts.2⟩
    have hle := (le_and_lt_of_mem_startsFrom hparts.2 hrow).1
    omega

end

theorem pairwise_groupStarts (list : Songlist) (tag : String) :
    (list.groupStarts tag).Pairwise (· < ·) :=
  pairwise_startsFrom (list.nil_notMem_groups tag)

theorem lt_size_of_mem_groupStarts (h : row ∈ list.groupStarts tag) : row < list.size := by
  have hrow := (le_and_lt_of_mem_startsFrom (list.nil_notMem_groups tag) h).2
  rwa [flatten_groups, Nat.zero_add] at hrow

section

variable (hgroups : list.groups tag = above ++ group :: below)

include hgroups

theorem groupStarts_eq_of_groups : list.groupStarts tag =
    startsFrom 0 above ++ above.flatten.length ::
      startsFrom (above.flatten.length + group.length) below := by
  rw [groupStarts, hgroups, startsFrom_append, Nat.zero_add, startsFrom]

theorem lt_of_mem_startsFrom_above (h : row ∈ startsFrom 0 above) : row < above.flatten.length := by
  have hne := list.nil_notMem_groups tag
  rw [hgroups, List.mem_append, not_or] at hne
  have hrow := (le_and_lt_of_mem_startsFrom hne.1 h).2
  omega

theorem le_of_mem_startsFrom_below
    (h : row ∈ startsFrom (above.flatten.length + group.length) below) :
    above.flatten.length + group.length ≤ row := by
  have hne := list.nil_notMem_groups tag
  rw [hgroups, List.mem_append, not_or, List.mem_cons, not_or] at hne
  exact (le_and_lt_of_mem_startsFrom hne.2.2 h).1

end

namespace InGroup

variable (h : list.InGroup tag list.cursor above group below)

include h

/-- Down from the cursor the groups below it begin. -/
theorem filter_cursor_lt : (list.groupStarts tag).filter (list.cursor < ·) =
    startsFrom (above.flatten.length + group.length) below := by
  have hle := h.start_le
  have hlt := h.lt_end
  have habove : (startsFrom 0 above).filter (list.cursor < ·) = [] := by
    refine List.filter_eq_nil_iff.2 fun row hrow => ?_
    have hrow := lt_of_mem_startsFrom_above h.groups_eq hrow
    simpa using (hrow.trans_le hle).le
  have hbelow : (startsFrom (above.flatten.length + group.length) below).filter (list.cursor < ·) =
      startsFrom (above.flatten.length + group.length) below := by
    refine List.filter_eq_self.2 fun row hrow => ?_
    have hrow := le_of_mem_startsFrom_below h.groups_eq hrow
    simpa using hlt.trans_le hrow
  rw [groupStarts_eq_of_groups h.groups_eq, List.filter_append, habove, List.nil_append,
    List.filter_cons_of_neg (by simpa using hle), hbelow]

theorem nextOf_eq_head? : list.nextOf tag =
    (((list.groupStarts tag).filter (list.cursor < ·)).head?).getD (list.size - 1) := by
  rw [h.nextOf_eq, h.filter_cursor_lt]
  cases below <;> rfl

/-- Up from the cursor its own group begins, if it does so above it, and then the groups above. -/
theorem filter_lt_cursor : (list.groupStarts tag).reverse.filter (· < list.cursor) =
    (if above.flatten.length < list.cursor then [above.flatten.length] else []) ++
      (startsFrom 0 above).reverse := by
  have hle := h.start_le
  have hlt := h.lt_end
  have habove : (startsFrom 0 above).reverse.filter (· < list.cursor) =
      (startsFrom 0 above).reverse := by
    refine List.filter_eq_self.2 fun row hrow => ?_
    have hrow := lt_of_mem_startsFrom_above h.groups_eq (List.mem_reverse.1 hrow)
    simpa using hrow.trans_le hle
  have hbelow : (startsFrom (above.flatten.length + group.length) below).reverse.filter
      (· < list.cursor) = [] := by
    refine List.filter_eq_nil_iff.2 fun row hrow => ?_
    have hrow := le_of_mem_startsFrom_below h.groups_eq (List.mem_reverse.1 hrow)
    simpa using (hlt.trans_le hrow).le
  rw [groupStarts_eq_of_groups h.groups_eq, List.reverse_append, List.reverse_cons,
    List.filter_append, List.filter_append, habove, hbelow, List.nil_append, List.filter_singleton]
  simp

theorem prevOf_eq_head? : list.prevOf tag =
    (((list.groupStarts tag).reverse.filter (· < list.cursor)).head?).getD 0 := by
  rw [h.prevOf_eq, h.filter_lt_cursor]
  split
  · rfl
  · rcases List.eq_nil_or_concat' above with rfl | ⟨above, previous, rfl⟩
    · rfl
    · simp [startsFrom_append, startsFrom]

end InGroup

/-! ### From one beginning to the next -/

section

variable {R : Nat → Nat → Prop} [DecidableRel R] [Std.Irrefl R] [IsTrans Nat R] {stops : List Nat}

/-- From the first stop that comes after a row all others are still to come, and no more. -/
theorem filter_of_filter_eq_cons {stop : Nat} {rest : List Nat} (hstops : stops.Pairwise R)
    (h : stops.filter (R row ·) = stop :: rest) : stops.filter (R stop ·) = rest := by
  have hstop : R row stop := by
    have hmem : stop ∈ stops.filter (R row ·) := h ▸ List.mem_cons_self
    simpa using (List.mem_filter.1 hmem).2
  have hrest : ∀ other ∈ rest, R stop other := by
    have hpairwise := hstops.filter (R row ·)
    rw [h] at hpairwise
    exact (List.pairwise_cons.1 hpairwise).1
  have hlater : stops.filter (R stop ·) = (stops.filter (R row ·)).filter (R stop ·) := by
    rw [List.filter_filter]
    refine List.filter_congr fun other _ => ?_
    have hother : R stop other → R row other := fun hlater => trans_of R hstop hlater
    simpa using hother
  rw [hlater, h, List.filter_cons_of_neg (by simpa using irrefl_of R stop), List.filter_eq_self]
  simpa using hrest

/-- A cursor that is moved again and again goes from stop to stop, in the order in which they come from
where it is, and in the end it stays on the last row that it can go to. -/
theorem iterate_setCursor {last : Nat} {target : Songlist → Nat} (hstops : stops.Pairwise R)
    (hsize : ∀ stop ∈ stops, stop < list.size) (hlt : last < list.size)
    (hlast : ∀ stop ∈ stops, ¬R last stop)
    (htarget : ∀ row < list.size, target { list with cursor := row } =
      ((stops.filter (R row ·)).head?).getD last)
    (count : Nat) (hrow : row < list.size) :
    (fun list => list.setCursor (target list))^[count] { list with cursor := row } =
      { list with cursor := ((row :: stops.filter (R row ·))[count]?).getD last } := by
  have hstep {row next : Nat} (hrow : row < list.size) (hnext : next < list.size)
      (hhead : ((stops.filter (R row ·)).head?).getD last = next) :
      setCursor { list with cursor := row } (target { list with cursor := row }) =
        { list with cursor := next } := by
    rw [htarget row hrow, hhead, setCursor]
    change { list with cursor := min next (list.size - 1) } = { list with cursor := next }
    rw [Nat.min_eq_left (Nat.le_sub_one_of_lt hnext)]
  induction count generalizing row with
  | zero => rfl
  | succ count ih =>
    rw [Function.iterate_succ_apply]
    cases hfilter : stops.filter (R row ·) with
    | nil =>
      have hnone : stops.filter (R last ·) = [] :=
        List.filter_eq_nil_iff.2 fun stop hstop => by simpa using hlast stop hstop
      rw [hstep hrow hlt (by rw [hfilter]; rfl), ih hlt, hnone]
      cases count <;> rfl
    | cons stop rest =>
      have hmem : stop ∈ stops :=
        (List.mem_filter.1 (hfilter ▸ List.mem_cons_self : stop ∈ stops.filter (R row ·))).1
      have hstop : stop < list.size := hsize stop hmem
      rw [hstep hrow hstop (by rw [hfilter]; rfl), ih hstop, filter_of_filter_eq_cons hstops hfilter]
      rfl

end

/-- Puts the cursor where another group begins. -/
def toOtherGroup (forward : Bool) (tag : String) (list : Songlist) : Songlist :=
  list.setCursor (if forward then list.nextOf tag else list.prevOf tag)

/-- To go on from group to group is to come by all places below the cursor where one begins. -/
theorem iterate_nextOf (hcursor : list.cursor < list.size) (tag : String) (count : Nat) :
    (toOtherGroup true tag)^[count] list =
      { list with cursor := ((list.cursor :: (list.groupStarts tag).filter
        (list.cursor < ·))[count]?).getD (list.size - 1) } := by
  refine iterate_setCursor (list.pairwise_groupStarts tag) (fun _ => lt_size_of_mem_groupStarts)
    (by omega) (fun stop hstop => ?_) (fun row hrow => ?_) count hcursor
  · have := lt_size_of_mem_groupStarts hstop
    omega
  · obtain ⟨above, group, below, hgroup⟩ := exists_inGroup hrow tag
    exact @InGroup.nextOf_eq_head? { list with cursor := row } tag above below group
      ⟨hgroup.groups_eq, hgroup.start_le, hgroup.lt_end⟩

/-- To go back from group to group is to come by all places above the cursor where one begins. -/
theorem iterate_prevOf (hcursor : list.cursor < list.size) (tag : String) (count : Nat) :
    (toOtherGroup false tag)^[count] list =
      { list with cursor := ((list.cursor :: (list.groupStarts tag).reverse.filter
        (· < list.cursor))[count]?).getD 0 } := by
  refine iterate_setCursor (R := (· > ·)) (List.pairwise_reverse.2 (list.pairwise_groupStarts tag))
    (fun _ hstop => lt_size_of_mem_groupStarts (List.mem_reverse.1 hstop)) (by omega)
    (fun stop _ => Nat.not_lt_zero stop) (fun row hrow => ?_) count hcursor
  obtain ⟨above, group, below, hgroup⟩ := exists_inGroup hrow tag
  exact @InGroup.prevOf_eq_head? { list with cursor := row } tag above below group
    ⟨hgroup.groups_eq, hgroup.start_le, hgroup.lt_end⟩

end Songlist

/-! ### Lines that move the cursor -/

namespace Browser

/-- A list with songs is there to be changed. -/
theorem shown_modifyShown_of_size_pos {b : Browser} (f : Songlist → Songlist)
    (h : 0 < b.shown.size) : (b.modifyShown f).shown = f b.shown := by
  cases hsearch : b.search with
  | some search => simp [modifyShown, shown, hsearch]
  | none =>
    apply shown_modifyShown
    by_contra hactive
    have hnone : b.lists[b.active]? = none := List.getElem?_eq_none (Nat.le_of_not_lt hactive)
    simp [shown, hsearch, activeList, hnone, Songlist.size] at h

end Browser

namespace Command

/-- A line that moves the cursor to another group, forward or back. -/
def MovesByGroup (forward : Bool) (tag line : String) : Prop :=
  ∃ name, (name = Token.word tag ∨ name = Token.quoted tag) ∧
    Token.ofLine line =
      [.word "cursor", .word (if forward then "nextOf" else "prevOf"), name, .endOfLine]

/-- What a motion to another group comes to. It leaves nothing to chance. -/
theorem Motion.apply?_toOtherGroup (forward : Bool) (tag : String) (chance : Chance)
    (browser : Browser) :
    let motion := if forward then Motion.nextOf tag else Motion.prevOf tag
    motion.apply? chance browser = some (browser.shown.toOtherGroup forward tag) ∧
      motion.chanceAfter chance browser = chance := by
  cases forward <;> exact ⟨rfl, rfl⟩

end Command

open Act Command

section Lines

variable {σ : Type} [Service σ] {dispatcher : Dispatcher (Session σ)} {line text : String}

theorem dispatch_movesByGroup (hoffers : dispatcher.Offers Command.builtin) {forward : Bool}
    (hline : MovesByGroup forward text line) (session : Session σ) :
    (dispatcher.dispatch line session).1 = .ok () ∧
      (dispatcher.dispatch line session).2.2 =
        session.modifyShown (Songlist.toOtherGroup forward (Text.lowercase text)) := by
  have hmem : ("cursor", cursor) ∈ (Command.builtin : List (String × Command (Session σ))) := by
    simp [Command.builtin]
  obtain ⟨name, hname, hline⟩ := hline
  obtain ⟨words, hwords, hcases⟩ :=
    hoffers.dispatch_simple Dispatcher.nodup_names_builtin hmem hline session
  obtain rfl : [.word (if forward then "nextOf" else "prevOf"), name] = words :=
    List.append_cancel_right (by simpa using hwords)
  have hread : motionWords.readLine session [.word (if forward then "nextOf" else "prevOf"), name] =
      .ok (if forward then .nextOf (Text.lowercase text) else .prevOf (Text.lowercase text)) := by
    rcases hname with rfl | rfl <;> cases forward <;> rfl
  obtain ⟨_, hnot, -⟩ | ⟨_, hmotion, hresult, hafter⟩ := hcases
  · rw [hread] at hnot
    cases hnot
  · cases hread.symm.trans hmotion
    obtain ⟨hmotion, hchance⟩ := Motion.apply?_toOtherGroup forward (Text.lowercase text)
      session.chance session.browser
    rw [run_run_get_bind, hmotion, run_run_modify, hchance] at hresult hafter
    rw [hresult, hafter]
    refine ⟨rfl, ?_⟩
    exact congrArg (fun browser => { session with browser }) (Browser.modifyShown_shown _ _)

/-- One line after another moves the cursor on. -/
theorem carryOutAll_movesByGroup (hoffers : dispatcher.Offers Command.builtin) {forward : Bool}
    {lines : List String} (hlines : ∀ line ∈ lines, MovesByGroup forward text line)
    (session : Session σ) :
    let done := carryOutAll (fun line dispatcher => dispatcher.dispatch line) lines dispatcher session
    (∀ result ∈ done.1, result = .ok ()) ∧
      done.2.2 = session.modifyShown
        (Songlist.toOtherGroup forward (Text.lowercase text))^[lines.length] := by
  induction lines generalizing dispatcher session with
  | nil => exact ⟨nofun, congrArg (fun browser => { session with browser })
      session.browser.modifyShown_id.symm⟩
  | cons line lines ih =>
    obtain ⟨hline, hlines⟩ := List.forall_mem_cons.1 hlines
    obtain ⟨hresult, hafter⟩ := dispatch_movesByGroup hoffers hline session
    obtain ⟨hresults, hdone⟩ := ih (hoffers.dispatch line session) hlines
      (dispatcher.dispatch line session).2.2
    refine ⟨List.forall_mem_cons.2 ⟨hresult, hresults⟩, hdone.trans ?_⟩
    rw [hafter, List.length_cons, Function.iterate_succ]
    exact congrArg (fun browser => { session with browser }) (Browser.modifyShown_comp _ _ _)

end Lines

/-- The cursor of a list is in one of its groups. Going down it comes to where the next one begins, or to
the last row if there is none; going up it comes to where its own begins, and from there to where the one
before it does, or to the first row. So with line after line it comes by every row below it in which a
group begins, from the top, until it is on the last row, or by every such row above it, from the bottom,
until it is on the first. -/
theorem cursor_comes_by_groups :
    (∀ (list : Songlist) (tag : String), list.cursor < list.size →
      ∃ above group below, list.InGroup tag list.cursor above group below ∧
        list.nextOf tag = (if below = [] then list.size - 1
          else above.flatten.length + group.length) ∧
        list.prevOf tag = if above.flatten.length < list.cursor then above.flatten.length
          else above.dropLast.flatten.length) ∧
    ∀ (σ : Type) [Service σ] (dispatcher : Dispatcher (Session σ)) (session : Session σ)
      (text : String) (lines : List String), dispatcher.Offers builtin →
      session.browser.shown.cursor < session.browser.shown.size →
      let list := session.browser.shown
      let starts := list.groupStarts (Text.lowercase text)
      let done := carryOutAll (fun line dispatcher => dispatcher.dispatch line) lines dispatcher session
      starts.Pairwise (· < ·) ∧
      ((∀ line ∈ lines, MovesByGroup true text line) →
        (∀ result ∈ done.1, result = .ok ()) ∧
        done.2.2.browser.shown = { list with cursor :=
          ((list.cursor :: starts.filter (list.cursor < ·))[lines.length]?).getD (list.size - 1) }) ∧
      ((∀ line ∈ lines, MovesByGroup false text line) →
        (∀ result ∈ done.1, result = .ok ()) ∧
        done.2.2.browser.shown = { list with cursor :=
          ((list.cursor :: starts.reverse.filter (· < list.cursor))[lines.length]?).getD 0 }) := by
  constructor
  · intro list tag hcursor
    obtain ⟨above, group, below, hgroup⟩ := Songlist.exists_inGroup hcursor tag
    exact ⟨above, group, below, hgroup, hgroup.nextOf_eq, hgroup.prevOf_eq⟩
  · intro σ _ dispatcher session text lines hoffers hcursor list starts done
    have hsome : 0 < session.browser.shown.size := Nat.lt_of_le_of_lt (Nat.zero_le _) hcursor
    have hshown {forward : Bool} (hlines : ∀ line ∈ lines, MovesByGroup forward text line) :
        (∀ result ∈ done.1, result = .ok ()) ∧ done.2.2.browser.shown =
          (Songlist.toOtherGroup forward (Text.lowercase text))^[lines.length] list := by
      obtain ⟨hresults, hdone⟩ := carryOutAll_movesByGroup hoffers hlines session
      refine ⟨hresults, ?_⟩
      change done.2.2 = _ at hdone
      rw [hdone]
      exact Browser.shown_modifyShown_of_size_pos _ hsome
    refine ⟨list.pairwise_groupStarts _, fun hlines => ?_, fun hlines => ?_⟩
    · obtain ⟨hresults, hlist⟩ := hshown hlines
      exact ⟨hresults, hlist.trans (Songlist.iterate_nextOf hcursor _ _)⟩
    · obtain ⟨hresults, hlist⟩ := hshown hlines
      exact ⟨hresults, hlist.trans (Songlist.iterate_prevOf hcursor _ _)⟩

/-- A session in which a list of six songs was found: one of an album, two of the next, one of no album
and two of the first album again. The cursor is on the third song. -/
def albumsFound : Session Rehearsal where
  browser :=
    { search := some
        { name := "Found", kind := .search, cursor := 2
          songs := [.ofTags [("album", "A")], .ofTags [("album", "B")], .ofTags [("album", "B")],
            .ofTags [], .ofTags [("album", "A")], .ofTags [("album", "A")]] } }
  chance := .first

/-- From the third row down groups begin in the fourth and the fifth, and then only the last row is left.
-/
theorem albums_are_passed_down_and_up :
    let list := albumsFound.browser.shown
    let down := ["cursor nextOf Album", "cursor nextOf 'Album'", "cursor nextOf Album"]
    let up := ["cursor prevOf Album", "cursor prevOf Album"]
    list.cursor < list.size ∧ list.groupStarts (Text.lowercase "Album") = [0, 1, 3, 4] ∧
    (∃ above group below, list.InGroup "album" 2 above group below ∧
      list.nextOf "album" = if below = [] then list.size - 1
        else above.flatten.length + group.length) ∧
    (∀ line ∈ down, MovesByGroup true "Album" line) ∧
    (carryOutAll (fun line dispatcher => dispatcher.dispatch line) down
      Dispatcher.standard albumsFound).2.2.browser.shown = { list with cursor := 5 } ∧
    (∀ line ∈ up, MovesByGroup false "Album" line) ∧
    (carryOutAll (fun line dispatcher => dispatcher.dispatch line) up
      Dispatcher.standard albumsFound).2.2.browser.shown = { list with cursor := 0 } := by
  intro list down up
  have hcursor : list.cursor < list.size := by decide
  have hstarts : list.groupStarts (Text.lowercase "Album") = [0, 1, 3, 4] := by decide +kernel
  have hdown : ∀ line ∈ down, MovesByGroup true "Album" line := by
    simp only [down, List.forall_mem_cons]
    exact ⟨⟨.word "Album", .inl rfl, by decide +kernel⟩, ⟨.quoted "Album", .inr rfl, by decide +kernel⟩,
      ⟨.word "Album", .inl rfl, by decide +kernel⟩, nofun⟩
  have hup : ∀ line ∈ up, MovesByGroup false "Album" line := by
    simp only [up, List.forall_mem_cons]
    exact ⟨⟨.word "Album", .inl rfl, by decide +kernel⟩, ⟨.word "Album", .inl rfl, by decide +kernel⟩,
      nofun⟩
  obtain ⟨hgroups, hlines⟩ := cursor_comes_by_groups
  obtain ⟨above, group, below, hgroup, hnext, -⟩ := hgroups list "album" hcursor
  obtain ⟨-, hdowns, -⟩ :=
    hlines Rehearsal .standard albumsFound "Album" down Dispatcher.offers_standard hcursor
  obtain ⟨-, -, hups⟩ :=
    hlines Rehearsal .standard albumsFound "Album" up Dispatcher.offers_standard hcursor
  rw [hstarts] at hdowns hups
  exact ⟨hcursor, hstarts, ⟨above, group, below, hgroup, hnext⟩, hdown, (hdowns hdown).2, hup,
    (hups hup).2⟩

end Jukebox
