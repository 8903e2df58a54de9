import Mathlib.Data.List.Perm.Subperm
import Jukebox.Songlist

/-
# Rows taken out and put back

To take rows out of a list splits it in two. Rows that are put back one after another, from the top
down, end up in the places that they are put back to. So the list is the old one again just if it had
the same in those places, and what is left of it when they are taken out is what they were put into.
-/

namespace Jukebox

open Songlist

variable {α β : Type}

/-- A part of a list without repetition is what the list has in common with it. -/
theorem filter_mem_eq_of_sublist [BEq α] [LawfulBEq α] {part items : List α}
    (h : List.Sublist part items) (hnodup : items.Nodup) : items.filter (· ∈ part) = part := by
  have hself : part.filter (· ∈ part) = part :=
    List.filter_eq_self.2 fun item hitem => decide_eq_true hitem
  have hpart := h.filter (· ∈ part)
  rw [hself] at hpart
  have hcommon : List.Subperm (items.filter (· ∈ part)) part :=
    List.Nodup.subperm (hnodup.filter _) fun item hitem =>
      of_decide_eq_true (List.mem_filter.1 hitem).2
  exact (hpart.eq_of_length_le hcommon.length_le).symm

/-- What is in a list once is in one row only. -/
theorem row_eq_of_nodup {items : List α} (hnodup : items.Nodup) {i j : Nat} {item : α}
    (hi : items[i]? = some item) (hj : items[j]? = some item) : i = j :=
  (List.getElem?_inj (List.getElem?_eq_some_iff.1 hi).1 hnodup).1 (hi.trans hj.symm)

/-- What is left without one key and then without some others is left without all of them. -/
theorem filter_not_mem_cons {κ : Type} [DecidableEq κ] (items : List (κ × β)) (key : κ)
    (keys : List κ) :
    (items.filter (·.1 ≠ key)).filter (·.1 ∉ keys) = items.filter (·.1 ∉ key :: keys) := by
  rw [List.filter_filter]
  refine List.filter_congr fun item _ => ?_
  simp only [List.mem_cons, not_or, ne_eq, Bool.decide_and]
  exact Bool.and_comm _ _

section KeepRows

variable (p : Nat → Bool) (start : Nat)

theorem keepRows_map (f : α → β) (items : List α) :
    keepRows p start (items.map f) = (keepRows p start items).map f := by
  induction items generalizing start with
  | nil => rfl
  | cons item items ih =>
    rw [List.map_cons, keepRows, keepRows, ih]
    split <;> rfl

theorem keepRows_sublist (items : List α) : List.Sublist (keepRows p start items) items := by
  induction items generalizing start with
  | nil => exact List.Sublist.refl []
  | cons item items ih =>
    rw [keepRows]
    split
    · exact (ih (start + 1)).cons_cons item
    · exact (ih (start + 1)).cons item

variable {p start}

theorem keepRows_congr {q : Nat → Bool} {items : List α}
    (h : ∀ row, start ≤ row → row < start + items.length → p row = q row) :
    keepRows p start items = keepRows q start items := by
  induction items generalizing start with
  | nil => rfl
  | cons item items ih =>
    rw [List.length_cons] at h
    rw [keepRows, keepRows, h start (Nat.le_refl start) (by omega),
      ih fun row hrow hlt => h row (by omega) (by omega)]

/-- Rows past the end are not missed. -/
theorem contains_filter_lt {rows : List Nat} {items : List α} {row : Nat}
    (h : row < 0 + items.length) :
    (rows.filter (· < items.length)).contains row = rows.contains row := by
  rw [Nat.zero_add] at h
  simp [h]

theorem keepRows_true (items : List α) : keepRows (fun _ => true) start items = items := by
  induction items generalizing start with
  | nil => rfl
  | cons item items ih => rw [keepRows, if_pos rfl, ih]

/-- To keep some items is to keep their rows. -/
theorem filter_eq_keepRows {q : α → Bool} {items : List α}
    (h : ∀ (row : Nat) item, items[row]? = some item → q item = p (start + row)) :
    items.filter q = keepRows p start items := by
  induction items generalizing start with
  | nil => rfl
  | cons item items ih =>
    have hfirst : q item = p start := h 0 item rfl
    have hrest : items.filter q = keepRows p (start + 1) items := by
      apply ih
      intro row other hrow
      rw [h (row + 1) other hrow, Nat.add_right_comm, Nat.add_assoc]
    rw [List.filter_cons, keepRows, hfirst, hrest]

section Below

variable {row : Nat} (hstart : start ≤ row)
  (habove : ∀ above, start ≤ above → above ≤ row → p above = true)

include hstart habove

/-- Above all rows that are taken out nothing moves. -/
theorem getElem?_keepRows_of_above (items : List α) :
    (keepRows p start items)[row - start]? = items[row - start]? := by
  induction items generalizing start with
  | nil => rfl
  | cons item items ih =>
    rw [keepRows, if_pos (habove start (Nat.le_refl _) hstart)]
    rcases Nat.eq_or_lt_of_le hstart with rfl | hlater
    · rw [Nat.sub_self, List.getElem?_cons_zero, List.getElem?_cons_zero]
    · rw [show row - start = row - (start + 1) + 1 by omega, List.getElem?_cons_succ,
        List.getElem?_cons_succ]
      exact ih hlater fun above hfrom => habove above (by omega)

/-- One more row above them can be taken out afterwards. -/
theorem eraseIdx_keepRows_of_above (items : List α) :
    (keepRows p start items).eraseIdx (row - start) =
      keepRows (fun other => other ≠ row && p other) start items := by
  induction items generalizing start with
  | nil => rfl
  | cons item items ih =>
    rw [keepRows, keepRows, if_pos (habove start (Nat.le_refl _) hstart)]
    rcases Nat.eq_or_lt_of_le hstart with rfl | hlater
    · rw [Nat.sub_self, List.eraseIdx_cons_zero, if_neg (by simp)]
      apply keepRows_congr
      intro other hother _
      have hne : other ≠ start := by omega
      simp [hne]
    · have hne : start ≠ row := by omega
      rw [show row - start = row - (start + 1) + 1 by omega, List.eraseIdx_cons_succ,
        if_pos (by simp [hne, habove start (Nat.le_refl _) hstart])]
      rw [ih hlater fun above hfrom => habove above (by omega)]

end Below

/-- The items in rising rows are what is kept when all others are taken out. -/
theorem filterMap_getElem?_eq_keepRows {rows : List Nat} {items : List α}
    (hrising : rows.Pairwise (· < ·)) (hstart : ∀ row ∈ rows, start ≤ row) :
    rows.filterMap (fun row => items[row - start]?) = keepRows rows.contains start items := by
  induction items generalizing rows start with
  | nil => simp [keepRows]
  | cons item items ih =>
    have hbelow : ∀ row, start + 1 ≤ row →
        (item :: items)[row - start]? = items[row - (start + 1)]? := by
      intro row hrow
      rw [show row - start = row - (start + 1) + 1 by omega, List.getElem?_cons_succ]
    -- The rows from the second on are those of the rest of the list.
    have hrest : ∀ rest : List Nat, rest.Pairwise (· < ·) → (∀ row ∈ rest, start + 1 ≤ row) →
        rest.filterMap (fun row => (item :: items)[row - start]?) =
          keepRows rest.contains (start + 1) items := by
      intro rest hrest hlater
      rw [← ih hrest hlater]
      exact List.filterMap_congr fun row hrow => hbelow row (hlater row hrow)
    by_cases hfirst : start ∈ rows
    · obtain ⟨rest, rfl⟩ : ∃ rest, rows = start :: rest := by
        cases rows with
        | nil => cases hfirst
        | cons row rest =>
          rcases List.mem_cons.1 hfirst with rfl | hmem
          · exact ⟨rest, rfl⟩
          · have hless := List.rel_of_pairwise_cons hrising hmem
            exact absurd (hstart row List.mem_cons_self) (Nat.not_le.2 hless)
      rw [List.filterMap_cons_some (by rw [Nat.sub_self, List.getElem?_cons_zero]), keepRows,
        if_pos (by simp), hrest rest hrising.of_cons fun row => List.rel_of_pairwise_cons hrising]
      refine congrArg (item :: ·) (keepRows_congr fun row hrow _ => ?_)
      have hne : row ≠ start := by omega
      simp [hne]
    · rw [keepRows, if_neg (by simpa using hfirst), hrest rows hrising]
      intro row hrow
      have hne : row ≠ start := fun heq => hfirst (heq ▸ hrow)
      exact Nat.lt_of_le_of_ne (hstart row hrow) hne.symm

end KeepRows

/-- What stands in rising rows is a part of the list. -/
theorem map_sublist_of_rising {row : β → Nat} {f : β → α} {picks : List β} {items : List α}
    (hrising : picks.Pairwise fun a b => row a < row b)
    (hpicks : ∀ pick ∈ picks, items[row pick]? = some (f pick)) :
    List.Sublist (picks.map f) items := by
  have hrows := @filterMap_getElem?_eq_keepRows α 0 (picks.map row) items
    (List.pairwise_map.2 hrising) fun row _ => Nat.zero_le row
  have hpicked : (picks.map row).filterMap (fun row => items[row - 0]?) = picks.map f := by
    rw [List.filterMap_map, ← List.filterMap_eq_map]
    exact List.filterMap_congr hpicks
  rw [← hpicked, hrows]
  exact keepRows_sublist _ 0 items

section PutBack

variable {row : β → Nat} {f : β → α}

/-- What is put into a list makes it another just if the other has it in that place, and is the list
without it. -/
theorem insertIdx_eq_and_le_iff {items whole : List α} {row : Nat} {item : α} :
    items.insertIdx row item = whole ∧ row ≤ items.length ↔
      whole[row]? = some item ∧ items = whole.eraseIdx row := by
  constructor
  · rintro ⟨rfl, hrow⟩
    rw [List.getElem?_insertIdx_self, if_pos hrow, List.eraseIdx_insertIdx_self]
    exact ⟨rfl, rfl⟩
  · rintro ⟨hitem, rfl⟩
    obtain ⟨hrow, rfl⟩ := List.getElem?_eq_some_iff.1 hitem
    rw [List.insertIdx_eraseIdx_getElem hrow, List.length_eraseIdx_of_lt hrow]
    exact ⟨rfl, by omega⟩

theorem length_foldl_insertIdx_le (picks : List β) (items : List α) :
    (picks.foldl (fun items pick => items.insertIdx (row pick) (f pick)) items).length ≤
      items.length + picks.length := by
  induction picks generalizing items with
  | nil => exact Nat.le_refl _
  | cons pick picks ih =>
    have hrest := ih (items.insertIdx (row pick) (f pick))
    have hfirst : (items.insertIdx (row pick) (f pick)).length ≤ items.length + 1 :=
      List.length_insertIdx_le_succ
    rw [List.foldl_cons, List.length_cons]
    omega

/-- What is put into a list from the top down makes it another, with no row wanting, just if the other
has all of it in those places, and the list is what is left of the other without those rows. -/
theorem foldl_insertIdx_eq_iff {picks : List β} {items whole : List α}
    (hrising : picks.Pairwise fun a b => row a < row b) :
    picks.foldl (fun items pick => items.insertIdx (row pick) (f pick)) items = whole ∧
        whole.length = items.length + picks.length ↔
      (∀ pick ∈ picks, whole[row pick]? = some (f pick)) ∧
        items = keepRows (· ∉ picks.map row) 0 whole := by
  induction picks generalizing items with
  | nil =>
    simpa [keepRows_true] using fun hsame : items = whole => (congrArg List.length hsame).symm
  | cons pick picks ih =>
    -- The rows of the rest lie below the first
    have hlater : ∀ above ≤ row pick, above ∉ picks.map row := by
      intro above hle hmem
      obtain ⟨other, hother, rfl⟩ := List.mem_map.1 hmem
      exact Nat.not_lt.2 hle (List.rel_of_pairwise_cons hrising hother)
    have hhas := getElem?_keepRows_of_above (Nat.zero_le (row pick))
      (fun above _ hle => decide_eq_true (hlater above hle)) whole
    have hleft := eraseIdx_keepRows_of_above (Nat.zero_le (row pick))
      (fun above _ hle => decide_eq_true (hlater above hle)) whole
    have hrows : keepRows (fun other => other ≠ row pick && decide (other ∉ picks.map row)) 0 whole =
        keepRows (· ∉ (pick :: picks).map row) 0 whole :=
      keepRows_congr fun other _ _ => by simp
    have hstep := @insertIdx_eq_and_le_iff α items (keepRows (· ∉ picks.map row) 0 whole)
      (row pick) (f pick)
    rw [Nat.sub_zero] at hhas hleft
    rw [hhas, hleft, hrows] at hstep
    rw [List.foldl_cons, List.length_cons, List.forall_mem_cons]
    constructor
    · rintro ⟨hall, hlength⟩
      have hbound := @length_foldl_insertIdx_le α β row f picks
        (items.insertIdx (row pick) (f pick))
      rw [hall] at hbound
      have hin : row pick ≤ items.length := by
        by_contra hout
        rw [List.length_insertIdx_of_length_lt (Nat.lt_of_not_le hout)] at hbound
        omega
      obtain ⟨hrest, hmiddle⟩ := (ih hrising.of_cons).1
        ⟨hall, by rw [List.length_insertIdx_of_le_length hin]; omega⟩
      obtain ⟨hfirst, hitems⟩ := hstep.1 ⟨hmiddle, hin⟩
      exact ⟨⟨hfirst, hrest⟩, hitems⟩
    · rintro ⟨⟨hfirst, hrest⟩, hitems⟩
      obtain ⟨hmiddle, hin⟩ := hstep.2 ⟨hfirst, hitems⟩
      obtain ⟨hall, hlength⟩ := (ih hrising.of_cons).2 ⟨hrest, hmiddle⟩
      rw [List.length_insertIdx_of_le_length hin] at hlength
      exact ⟨hall, by omega⟩

end PutBack

end Jukebox
