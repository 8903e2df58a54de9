import Mathlib.Data.List.TakeWhile
import Mathlib.Tactic.Ring
import Jukebox.Proofs.Searching
import Jukebox.Proofs.TagOrder

/-
# The order of tracks

Songs are sorted by their tracks as texts. So that this should be the order of their numbers, a track
that begins with a number is written with at least three digits. Numbers that are written with equally
many digits are then in order. Of numbers with more than three digits a longer one is compared with a
shorter one digit by digit from the left, as if the shorter one had zeros at its end: 1000 comes before
999, and after 1 and 100. This is the whole exception.
-/

namespace Jukebox

namespace Text

/-! ### Numbers in small letters -/

/-- A blank, a digit or a plus sign: what there is in a number and around it. -/
def InNumber (c : Char) : Prop := isBlank c = true ∨ c.isDigit = true ∨ c = '+'

theorem mem_trim_or_isBlank {text : String} {c : Char} (h : c ∈ text.toList) :
    c ∈ (trim text).toList ∨ isBlank c = true := by
  have hdrop {l : List Char} (hc : c ∈ l) : c ∈ l.dropWhile isBlank ∨ isBlank c = true := by
    rw [← List.takeWhile_append_dropWhile (p := isBlank) (l := l), List.mem_append] at hc
    exact hc.symm.imp id List.mem_takeWhile_imp
  rcases hdrop h with hstart | hblank
  · rcases hdrop (List.mem_reverse.2 hstart) with hend | hblank
    · refine .inl ?_
      rw [trim, dropEnd, dropStart, String.toList_ofList, String.toList_ofList]
      exact List.mem_reverse.2 hend
    · exact .inr hblank
  · exact .inr hblank

theorem isDigit_of_readDigits? {text : List Char} {n : Nat} (h : readDigits? text = some n) :
    ∀ c ∈ text, c.isDigit = true := by
  unfold readDigits? at h
  split at h
  · cases h
  · next hall =>
    have hboth : text ≠ [] ∧ ∀ c ∈ text, c.isDigit = true := by simpa using hall
    exact hboth.2

/-- A number that is read is made of digits and perhaps a sign, with blanks around it. -/
theorem inNumber_of_readNat? {limit n : Nat} {text : String}
    (h : readNat? limit (trim text) = some n) : ∀ c ∈ text.toList, InNumber c := by
  intro c hc
  rcases mem_trim_or_isBlank hc with hmem | hblank
  · obtain ⟨hread, -⟩ := Option.filter_eq_some_iff.1 h
    unfold readUnsigned? at hread
    split at hread
    · next digits heq =>
      rw [heq, List.mem_cons] at hmem
      exact .inr (hmem.symm.imp (isDigit_of_readDigits? hread c) id)
    · exact .inr (.inl (isDigit_of_readDigits? hread c hmem))
  · exact .inl hblank

theorem isDigit_iff {c : Char} : c.isDigit = true ↔ 48 ≤ c.toNat ∧ c.toNat ≤ 57 := by
  simp only [Char.isDigit, Bool.and_eq_true, decide_eq_true_eq, UInt32.le_iff_toNat_le]
  exact Iff.rfl

/-- The characters of numbers are the same in small letters. -/
theorem lowerChar_of_inNumber {c : Char} (h : InNumber c) :
    c ≠ 'Σ' ∧ c ≠ '/' ∧ lowerChar c = [c] := by
  have hcodes : ∀ code ∈ ([9, 10, 11, 12, 13, 0x20, 0x85, 0xA0, 0x1680, 0x2028, 0x2029, 0x202F,
      0x205F, 0x3000, 43] ++ List.range' 0x2000 11 ++ List.range' 48 10 : List Nat),
      Char.ofNat code ≠ 'Σ' ∧ Char.ofNat code ≠ '/' ∧
        lowerChar (Char.ofNat code) = [Char.ofNat code] := by decide +kernel
  rw [← Char.ofNat_toNat c]
  refine hcodes c.toNat ?_
  simp only [List.mem_append, List.mem_cons, List.mem_range'_1, List.not_mem_nil]
  rcases h with hblank | hdigit | rfl
  · simp only [isBlank, Bool.or_eq_true, Bool.and_eq_true, decide_eq_true_eq, beq_iff_eq] at hblank
    omega
  · have hcode := isDigit_iff.1 hdigit
    omega
  · decide

theorem lowerFrom_append {plain : List Char} (h : ∀ c ∈ plain, InNumber c)
    (before rest : List Char) :
    lowerFrom before (plain ++ rest) = plain ++ lowerFrom (plain.reverse ++ before) rest := by
  induction plain generalizing before with
  | nil => rfl
  | cons c plain ih =>
    obtain ⟨hsigma, -, hlower⟩ := lowerChar_of_inNumber (h c List.mem_cons_self)
    rw [List.cons_append, lowerFrom, if_neg hsigma, hlower,
      ih (fun c hc => h c (List.mem_cons_of_mem _ hc))]
    simp

/-! ### Digits in the order of a dictionary -/

theorem ofDigitChars_cons (c : Char) (digits : List Char) :
    Nat.ofDigitChars 10 (c :: digits) 0 =
      10 ^ digits.length * (c.toNat - 48) + Nat.ofDigitChars 10 digits 0 := by
  rw [Nat.ofDigitChars_cons, Nat.ofDigitChars_eq_ofDigitChars_zero, Nat.mul_zero, Nat.zero_add]
  rfl

theorem ofDigitChars_lt {digits : List Char} (h : ∀ c ∈ digits, c.isDigit = true) :
    Nat.ofDigitChars 10 digits 0 < 10 ^ digits.length := by
  induction digits with
  | nil => simp
  | cons c digits ih =>
    obtain ⟨hc, hdigits⟩ := List.forall_mem_cons.1 h
    have hdigit : c.toNat - 48 + 1 ≤ 10 := by
      have := isDigit_iff.1 hc
      omega
    calc Nat.ofDigitChars 10 (c :: digits) 0
        = 10 ^ digits.length * (c.toNat - 48) + Nat.ofDigitChars 10 digits 0 :=
          ofDigitChars_cons c digits
      _ < 10 ^ digits.length * (c.toNat - 48) + 10 ^ digits.length :=
          Nat.add_lt_add_left (ih hdigits) _
      _ = 10 ^ digits.length * (c.toNat - 48 + 1) := (Nat.mul_succ _ _).symm
      _ ≤ 10 ^ digits.length * 10 := Nat.mul_le_mul_left _ hdigit
      _ = 10 ^ (c :: digits).length := (pow_succ _ _).symm

/-- Of two numbers with one digit in front of equally many others the digits in front decide first. -/
theorem place_le_iff {place x y u v : Nat} (hu : u ≤ place) (hv : v < place) :
    place * x + u ≤ place * y + v ↔ x < y ∨ x = y ∧ u ≤ v := by
  rcases Nat.lt_trichotomy x y with hless | rfl | hgreater
  · have hle : place * x + u ≤ place * y + v :=
      calc place * x + u
          ≤ place * (x + 1) := Nat.add_le_add_left hu _
        _ ≤ place * y := Nat.mul_le_mul_left _ hless
        _ ≤ place * y + v := Nat.le_add_right _ _
    simp [hle, hless]
  · simp
  · have hlt : place * y + v < place * x + u :=
      calc place * y + v
          < place * (y + 1) := Nat.add_lt_add_left hv _
        _ ≤ place * x := Nat.mul_le_mul_left _ hgreater
        _ ≤ place * x + u := Nat.le_add_right _ _
    simp [hlt, hgreater.not_gt, hgreater.ne']

/-- Fewer digits come before more of them if their number is not the greater one when as many zeros are
put at its end as it has digits less. -/
theorem digits_lt_iff {first second : List Char} (hfirst : ∀ c ∈ first, c.isDigit = true)
    (hsecond : ∀ c ∈ second, c.isDigit = true) (hlength : first.length ≤ second.length) :
    first < second ↔ first ≠ second ∧
      Nat.ofDigitChars 10 first 0 * 10 ^ (second.length - first.length) ≤
        Nat.ofDigitChars 10 second 0 := by
  induction first generalizing second with
  | nil => cases second <;> simp
  | cons c first ih =>
    cases second with
    | nil => simp at hlength
    | cons d second =>
      obtain ⟨hc, hfirst⟩ := List.forall_mem_cons.1 hfirst
      obtain ⟨hd, hsecond⟩ := List.forall_mem_cons.1 hsecond
      have hshorter : first.length ≤ second.length := Nat.le_of_succ_le_succ hlength
      have hpow : 10 ^ first.length * 10 ^ (second.length - first.length) = 10 ^ second.length := by
        rw [← pow_add, Nat.add_sub_cancel' hshorter]
      have hplace : (10 ^ first.length * (c.toNat - 48) + Nat.ofDigitChars 10 first 0) *
            10 ^ (second.length - first.length) =
          10 ^ second.length * (c.toNat - 48) +
            Nat.ofDigitChars 10 first 0 * 10 ^ (second.length - first.length) := by
        rw [← hpow]
        ring
      have hlow : Nat.ofDigitChars 10 first 0 * 10 ^ (second.length - first.length) ≤
          10 ^ second.length :=
        hpow ▸ Nat.mul_le_mul_right _ (ofDigitChars_lt hfirst).le
      have hdigit : c.toNat - 48 < d.toNat - 48 ↔ c < d := by
        have hc := isDigit_iff.1 hc
        have hd := isDigit_iff.1 hd
        show _ ↔ c.toNat < d.toNat
        omega
      have hsame : c.toNat - 48 = d.toNat - 48 ↔ c = d := by
        have hc := isDigit_iff.1 hc
        have hd := isDigit_iff.1 hd
        rw [← Char.toNat_inj]
        omega
      rw [List.cons_lt_cons_iff, List.length_cons, List.length_cons, Nat.add_sub_add_right,
        ofDigitChars_cons, ofDigitChars_cons, hplace, place_le_iff hlow (ofDigitChars_lt hsecond),
        hdigit, hsame, ih hfirst hsecond hshorter]
      by_cases heq : c = d
      · simp [heq]
      · simp [heq]

/-! ### Numbers filled up with zeros -/

theorem toList_padNumber (width n : Nat) : (padNumber width n).toList =
    List.replicate (width - (Nat.toDigits 10 n).length) '0' ++ Nat.toDigits 10 n := by
  have hdigits : (toString n).toList = Nat.toDigits 10 n := Nat.toList_repr
  rw [padNumber, String.toList_append, String.toList_ofList, ← String.length_toList, hdigits]

theorem isDigit_of_mem_padNumber {width n : Nat} :
    ∀ c ∈ (padNumber width n).toList, c.isDigit = true := by
  intro c hc
  rw [toList_padNumber, List.mem_append] at hc
  rcases hc with hzero | hdigit
  · rw [List.eq_of_mem_replicate hzero]
    rfl
  · exact Nat.isDigit_of_mem_toDigits (by decide) (by decide) hdigit

theorem ofDigitChars_padNumber (width n : Nat) :
    Nat.ofDigitChars 10 (padNumber width n).toList 0 = n := by
  rw [toList_padNumber, Nat.ofDigitChars_append, Nat.ofDigitChars_replicate_zero]
  exact Nat.ofDigitChars_ten_toDigits

theorem padNumber_inj {width m n : Nat} : padNumber width m = padNumber width n ↔ m = n := by
  refine ⟨fun h => ?_, fun h => h ▸ rfl⟩
  rw [← ofDigitChars_padNumber width m, h, ofDigitChars_padNumber]

/-- How many digits a track number is written with. -/
def trackDigits (n : Nat) : Nat := max 3 (toString n).length

theorem length_toString (n : Nat) : (toString n).length = (Nat.toDigits 10 n).length := by
  rw [← String.length_toList]
  exact congrArg List.length Nat.toList_repr

theorem length_padNumber_three (n : Nat) : (padNumber 3 n).toList.length = trackDigits n := by
  rw [toList_padNumber, List.length_append, List.length_replicate, ← length_toString, trackDigits]
  omega

theorem trackDigits_le_iff {n k : Nat} (hk : 3 ≤ k) : trackDigits n ≤ k ↔ n < 10 ^ k := by
  rw [trackDigits, max_le_iff, length_toString,
    Nat.length_toDigits_le_iff (by decide) (Nat.lt_of_lt_of_le (by decide) hk)]
  exact and_iff_right hk

/-- A greater number is not written with fewer digits. -/
theorem trackDigits_mono {m n : Nat} (h : m ≤ n) : trackDigits m ≤ trackDigits n := by
  have hthree : 3 ≤ trackDigits n := Nat.le_max_left _ _
  exact (trackDigits_le_iff hthree).2 (h.trans_lt ((trackDigits_le_iff hthree).1 le_rfl))

/-- Where a track number is put among the greater ones. -/
theorem padNumber_lt_iff {m n : Nat} (h : m < n) :
    padNumber 3 m < padNumber 3 n ↔ m * 10 ^ (trackDigits n - trackDigits m) ≤ n := by
  have hne : (padNumber 3 m).toList ≠ (padNumber 3 n).toList := by
    rw [ne_eq, String.toList_inj, padNumber_inj]
    exact h.ne
  have hlength : (padNumber 3 m).toList.length ≤ (padNumber 3 n).toList.length := by
    rw [length_padNumber_three, length_padNumber_three]
    exact trackDigits_mono h.le
  rw [String.lt_iff, digits_lt_iff isDigit_of_mem_padNumber isDigit_of_mem_padNumber hlength,
    ofDigitChars_padNumber, ofDigitChars_padNumber, length_padNumber_three, length_padNumber_three]
  exact and_iff_right hne

end Text

open Text

namespace Song

/-- A number before a slash is read in small letters as it is. -/
theorem trackNumber?_lowercase {track : String} {n : Nat} (h : trackNumber? track = some n) :
    trackNumber? (lowercase track) = some n := by
  have hnumber : ∀ c ∈ track.toList.takeWhile (· ≠ '/'), InNumber c := by
    have hall := inNumber_of_readNat? h
    rwa [String.toList_ofList] at hall
  have hslash : ∀ before : List Char,
      (lowerFrom before (track.toList.dropWhile (· ≠ '/'))).takeWhile (· ≠ '/') = [] := by
    intro before
    cases hrest : track.toList.dropWhile (· ≠ '/') with
    | nil => rfl
    | cons c rest =>
      have hc : c = '/' := by
        have hhead := List.head?_dropWhile_not (· ≠ '/') track.toList
        rw [hrest] at hhead
        simpa using hhead
      subst hc
      rfl
  have hsame : (lowercase track).toList.takeWhile (· ≠ '/') =
      track.toList.takeWhile (· ≠ '/') := by
    rw [lowercase, String.toList_ofList]
    nth_rewrite 1 [← List.takeWhile_append_dropWhile (p := (· ≠ '/')) (l := track.toList)]
    rw [lowerFrom_append hnumber, List.takeWhile_append_of_pos, hslash, List.append_nil]
    exact fun c hc => decide_eq_true (lowerChar_of_inNumber (hnumber c hc)).2.1
  unfold trackNumber? at h ⊢
  rw [hsame]
  exact h

/-- The number of the song's track. -/
def number? (song : Song) : Option Nat := song.tag? "track" >>= trackNumber?

theorem sortTag_track {song : Song} {n : Nat} (h : song.number? = some n) :
    song.sortTag "track" = padNumber 3 n := by
  obtain ⟨track, htrack, hnumber⟩ := Option.bind_eq_some_iff.1 h
  have hown : song.ownKey? "track" = some (padNumber 3 n) := by
    rw [ownKey?_track, htrack, Option.map_some,
      trackKey_of_trackNumber? (trackNumber?_lowercase hnumber)]
  rw [sortTag, sortKey?, hown]
  rfl

end Song

open Song

namespace Songlist

variable {list : Songlist} {a b : Song} {m n : Nat}

theorem before_track_iff (a b : Song) :
    Before ["track"] a b ↔ a.sortTag "track" < b.sortTag "track" := by
  rw [before_cons]
  exact or_iff_left fun h => not_before_nil a b h.2

/-- In sorted songs a song that comes before another stands above it. -/
theorem Sorts.row_lt {tags : List String} {songs sorted : List Song} {i j : Nat}
    (h : Sorts tags songs sorted) (hi : sorted[i]? = some a) (hj : sorted[j]? = some b)
    (hab : Before tags a b) : i < j := by
  obtain ⟨hilt, rfl⟩ := List.getElem?_eq_some_iff.1 hi
  obtain ⟨hjlt, rfl⟩ := List.getElem?_eq_some_iff.1 hj
  rcases Nat.lt_trichotomy i j with hless | rfl | hgreater
  · exact hless
  · exact absurd hab (Before.irrefl tags _)
  · exact absurd hab (List.pairwise_iff_getElem.1 h.ordered j i hjlt hilt hgreater)

/-- In a list that is sorted by tracks a song stands above one with a greater track number just if its
own number is still not the greater one with as many zeros at its end as it has digits less. So numbers
that are written with equally many digits stand in order, and those below 1000 are. -/
theorem sortByTags_track (ha : a ∈ list.songs) (hb : b ∈ list.songs) (hm : a.number? = some m)
    (hn : b.number? = some n) (hless : m < n) :
    a ∈ (list.sortByTags ["track"]).songs ∧ b ∈ (list.sortByTags ["track"]).songs ∧
    ∀ i j : Nat, (list.sortByTags ["track"]).songs[i]? = some a →
      (list.sortByTags ["track"]).songs[j]? = some b →
      (i < j ↔ m * 10 ^ (trackDigits n - trackDigits m) ≤ n) ∧
      (trackDigits m = trackDigits n → i < j) ∧ (n < 1000 → i < j) := by
  have hsorts := sorts_sortByTags list ["track"]
  refine ⟨hsorts.perm.mem_iff.2 ha, hsorts.perm.mem_iff.2 hb, fun i j hi hj => ?_⟩
  have hiff : i < j ↔ m * 10 ^ (trackDigits n - trackDigits m) ≤ n := by
    rw [← padNumber_lt_iff hless, ← sortTag_track hm, ← sortTag_track hn, ← before_track_iff]
    refine ⟨fun hij => ?_, hsorts.row_lt hi hj⟩
    by_contra hab
    have hnot : ¬Before ["track"] b a := fun hba => (hsorts.row_lt hj hi hba).not_gt hij
    have hsame := agree_iff.1 (agree_of_not_before hab hnot) "track" List.mem_cons_self
    rw [sortTag_track hm, sortTag_track hn, padNumber_inj] at hsame
    exact hless.ne hsame
  have hequal (hdigits : trackDigits m = trackDigits n) : i < j := by
    rw [hiff, hdigits, Nat.sub_self, pow_zero, Nat.mul_one]
    exact hless.le
  refine ⟨hiff, hequal, fun hsmall => hequal ?_⟩
  have hthree (k : Nat) (hk : k < 1000) : trackDigits k = 3 :=
    Nat.le_antisymm ((trackDigits_le_iff le_rfl).2 hk) (Nat.le_max_left _ _)
  rw [hthree m (hless.trans hsmall), hthree n hsmall]

/-- A record whose tracks were stored with their total and in the order of their titles. -/
def storedByTitle : Songlist where
  name := "Library"
  kind := .library
  songs := [.ofTags [("file", "a.flac"), ("title", "Apart"), ("track", "10/12")],
    .ofTags [("file", "b.flac"), ("title", "Below"), ("Track", " 2 /12")]]

theorem second_track_before_tenth :
    (storedByTitle.songs[1].number? = some 2 ∧ storedByTitle.songs[0].number? = some 10 ∧ 2 < 10) ∧
    (storedByTitle.sortByTags ["track"]).songs = [storedByTitle.songs[1], storedByTitle.songs[0]] ∧
    ((0 : Nat) < 1 ↔ 2 * 10 ^ (trackDigits 10 - trackDigits 2) ≤ 10) := by
  have hsecond : storedByTitle.songs[1].number? = some 2 := by decide +kernel
  have htenth : storedByTitle.songs[0].number? = some 10 := by decide +kernel
  have hswap : Before ["track"] storedByTitle.songs[1] storedByTitle.songs[0] := by decide +kernel
  have hrows : (storedByTitle.sortByTags ["track"]).songs =
      [storedByTitle.songs[1], storedByTitle.songs[0]] := (sorts_swap hswap).songs_eq
  have hsorted := sortByTags_track (List.getElem_mem (by decide)) (List.getElem_mem (by decide))
    hsecond htenth (by decide)
  exact ⟨⟨hsecond, htenth, by decide⟩, hrows,
    (hsorted.2.2 0 1 (congrArg (·[0]?) hrows) (congrArg (·[1]?) hrows)).1⟩

/-- Two songs of a long collection whose tracks were numbered through. -/
def numberedThrough : Songlist where
  name := "Library"
  kind := .library
  songs := [.ofTags [("file", "a.flac"), ("track", "999")],
    .ofTags [("file", "b.flac"), ("track", "1000")]]

/-- The thousandth track comes before the one that it follows. -/
theorem thousandth_track_first :
    numberedThrough.songs.map number? = [some 999, some 1000] ∧
    (numberedThrough.sortByTags ["track"]).songs.map number? = [some 1000, some 999] := by
  have hswap : Before ["track"] numberedThrough.songs[1] numberedThrough.songs[0] := by
    decide +kernel
  rw [(sorts_swap hswap).songs_eq]
  decide +kernel

end Songlist

end Jukebox
