import Jukebox.Proofs.SettingLine
import Jukebox.Proofs.TrackOrder

/-
# Digits

What the readers of numbers take: digits, with a sign before them where one may stand, and two by
two hexadecimal digits. All of them let a plus sign pass where it has no place. Numbers are often
read from a text in small letters; that changes nothing, since no character but a digit becomes a
digit in them, and none but a letter a letter of the first six.
-/

namespace Jukebox

namespace Text

/-- One or more decimal digits, and the number that they stand for. -/
structure Decimal (digits : List Char) (n : Nat) : Prop where
  ne_nil : digits ≠ []
  isDigit : ∀ c ∈ digits, c.isDigit = true
  value : Nat.ofDigitChars 10 digits 0 = n

/-- A number as it should be written: digits after at most one sign. -/
inductive Signed : List Char → Int → Prop
  | unsigned {digits : List Char} {n : Nat} (h : Decimal digits n) : Signed digits n
  | plus {digits : List Char} {n : Nat} (h : Decimal digits n) : Signed ('+' :: digits) n
  | minus {digits : List Char} {n : Nat} (h : Decimal digits n) : Signed ('-' :: digits) (-n)

/-- A number with a sign, and a plus sign before it. -/
def PlusSigned (text : List Char) (n : Int) : Prop :=
  ∃ sign digits, text = '+' :: sign :: digits ∧ (sign = '+' ∨ sign = '-') ∧
    Signed (sign :: digits) n

/-- Digits with a plus sign before them. -/
def PlusDecimal (text : List Char) (n : Nat) : Prop :=
  ∃ digits, text = '+' :: digits ∧ Decimal digits n

/-- The hexadecimal digits in order. -/
def hexDigits : List Char := "0123456789abcdef".toList

/-- Two hexadecimal digits, in capital or small letters, and the number that they stand for. -/
def HexPair (high low : Char) (n : Nat) : Prop :=
  ∃ h l, hexDigits[h]? = some high.toLower ∧ hexDigits[l]? = some low.toLower ∧ n = 16 * h + l

/-- A plus sign in the place of the first of two hexadecimal digits. -/
def PlusHex (high low : Char) (n : Nat) : Prop :=
  high = '+' ∧ hexDigits[n]? = some low.toLower

section Digits

variable {text digits : List Char} {n : Nat}

theorem Decimal.head_ne_sign (h : Decimal digits n) {c : Char} {tail : List Char}
    (hdigits : digits = c :: tail) : c ≠ '+' ∧ c ≠ '-' := by
  have hc := h.isDigit c (hdigits ▸ List.mem_cons_self)
  constructor <;> rintro rfl <;> exact absurd hc (by decide)

theorem readDigits?_eq_some_iff : readDigits? text = some n ↔ Decimal text n := by
  have hvalue : digitsValue text = Nat.ofDigitChars 10 text 0 := rfl
  unfold readDigits?
  split
  · next hnone =>
    refine iff_of_false nofun fun h => ?_
    have heither : text = [] ∨ ∃ c ∈ text, c.isDigit = false := by simpa using hnone
    rcases heither with hnil | ⟨c, hc, hdigit⟩
    · exact h.ne_nil hnil
    · rw [h.isDigit c hc] at hdigit
      cases hdigit
  · next hsome =>
    have hboth : text ≠ [] ∧ ∀ c ∈ text, c.isDigit = true := by simpa using hsome
    rw [Option.some_inj, hvalue]
    exact ⟨fun h => ⟨hboth.1, hboth.2, h⟩, Decimal.value⟩

theorem readUnsigned?_eq_some_iff :
    readUnsigned? text = some n ↔ Decimal text n ∨ PlusDecimal text n := by
  unfold readUnsigned?
  split
  · next digits =>
    rw [readDigits?_eq_some_iff]
    refine ⟨fun h => .inr ⟨digits, rfl, h⟩, ?_⟩
    rintro (h | ⟨rest, heq, h⟩)
    · exact absurd rfl (h.head_ne_sign rfl).1
    · cases heq
      exact h
  · next hplus =>
    rw [readDigits?_eq_some_iff]
    refine ⟨.inl, ?_⟩
    rintro (h | ⟨rest, rfl, -⟩)
    · exact h
    · exact absurd rfl (hplus rest)

theorem readSigned?_minus (digits : List Char) :
    readSigned? ('-' :: digits) = (readDigits? digits).map fun (n : Nat) => -(n : Int) := by
  rw [readSigned?]
  cases readDigits? digits <;> rfl

theorem readSigned?_of_ne_minus (h : ∀ digits, text ≠ '-' :: digits) :
    readSigned? text = (readUnsigned? text).map fun (n : Nat) => (n : Int) := by
  rw [readSigned?]
  · cases readUnsigned? text <;> rfl
  · exact h

theorem readSigned?_eq_some_iff {n : Int} : readSigned? text = some n ↔ Signed text n := by
  by_cases hminus : ∃ digits, text = '-' :: digits
  · obtain ⟨digits, rfl⟩ := hminus
    rw [readSigned?_minus, Option.map_eq_some_iff]
    constructor
    · rintro ⟨k, hk, rfl⟩
      exact .minus (readDigits?_eq_some_iff.1 hk)
    · intro h
      cases h with
      | unsigned h => exact absurd rfl (h.head_ne_sign rfl).2
      | minus h => exact ⟨_, readDigits?_eq_some_iff.2 h, rfl⟩
  · rw [readSigned?_of_ne_minus (not_exists.1 hminus), Option.map_eq_some_iff]
    constructor
    · rintro ⟨k, hk, rfl⟩
      rcases readUnsigned?_eq_some_iff.1 hk with h | ⟨digits, rfl, h⟩
      · exact .unsigned h
      · exact .plus h
    · intro h
      cases h with
      | unsigned h => exact ⟨_, readUnsigned?_eq_some_iff.2 (.inl h), rfl⟩
      | plus h => exact ⟨_, readUnsigned?_eq_some_iff.2 (.inr ⟨_, rfl, h⟩), rfl⟩
      | minus h => exact absurd ⟨_, rfl⟩ hminus

/-- What is read as an unsigned number is digits and plus signs. -/
theorem isDigit_or_eq_plus_of_readUnsigned? (h : readUnsigned? text = some n) :
    ∀ c ∈ text, c.isDigit = true ∨ c = '+' := by
  rcases readUnsigned?_eq_some_iff.1 h with hdecimal | ⟨digits, rfl, hdecimal⟩
  · exact fun c hc => .inl (hdecimal.isDigit c hc)
  · exact List.forall_mem_cons.2 ⟨.inr rfl, fun c hc => .inl (hdecimal.isDigit c hc)⟩

end Digits

section SmallLetters

variable {before rest target : List Char} {n : Nat}

/-- The capital letters of ASCII have their small form 32 places on, and all other characters are
their own. -/
theorem toLower_cases (c : Char) :
    c.toLower = c ∧ ¬(65 ≤ c.toNat ∧ c.toNat ≤ 90) ∨
      (65 ≤ c.toNat ∧ c.toNat ≤ 90) ∧ c.toLower.toNat = c.toNat + 32 := by
  delta Char.toLower
  split
  · next h =>
    right
    simp only [UInt32.le_iff_toNat_le] at h
    have hsum : (c.val + ('a'.val - 'A'.val)).toNat = c.val.toNat + 32 := by
      have hshift : ('a'.val - 'A'.val).toNat = 32 := rfl
      have hlast : ('Z'.val).toNat = 90 := rfl
      rw [UInt32.toNat_add]
      omega
    exact ⟨h, hsum⟩
  · next h =>
    simp only [UInt32.le_iff_toNat_le] at h
    exact .inl ⟨rfl, h⟩

theorem lowerFrom_append_of_ascii {plain : List Char} (h : ∀ c ∈ plain, c.toNat < 0x80)
    (before rest : List Char) : lowerFrom before (plain ++ rest) =
      plain.map Char.toLower ++ lowerFrom (plain.reverse ++ before) rest := by
  induction plain generalizing before with
  | nil => rfl
  | cons c plain ih =>
    obtain ⟨hc, hplain⟩ := List.forall_mem_cons.1 h
    have hsigma : c ≠ 'Σ' := by
      rintro rfl
      exact absurd hc (by decide)
    have hlower : lowerChar c = [c.toLower] := if_pos hc
    rw [List.cons_append, lowerFrom, if_neg hsigma, hlower, ih hplain]
    simp

/-- A character of ASCII that is no capital letter stays in a text in small letters. -/
theorem mem_lowerFrom {c : Char} (hascii : c.toNat < 0x80) (hlower : c.toLower = c)
    (h : c ∈ rest) : c ∈ lowerFrom before rest := by
  induction rest generalizing before with
  | nil => cases h
  | cons d rest ih =>
    rw [lowerFrom]
    rcases List.mem_cons.1 h with rfl | hrest
    · have hsigma : c ≠ 'Σ' := by
        rintro rfl
        exact absurd hascii (by decide)
      have hself : lowerChar c = [c.toLower] := if_pos hascii
      rw [if_neg hsigma, hself, hlower]
      exact List.mem_cons_self
    · split
      · exact List.mem_cons_of_mem _ (ih hrest)
      · exact List.mem_append_right _ (ih hrest)

theorem toNat_lt_of_toLower (h : ∀ c ∈ rest.map Char.toLower, c.toNat < 0x80) :
    ∀ c ∈ rest, c.toNat < 0x80 := by
  intro c hc
  have hsmall := h _ (List.mem_map_of_mem hc)
  rcases toLower_cases c with ⟨heq, -⟩ | hcapital
  · rwa [heq] at hsmall
  · omega

/-- Letters beyond ASCII have no small form of these, so a text with such a small form differs from
it at most in capital letters of ASCII. -/
theorem lowerFrom_eq_iff (h : ∀ c ∈ target, AsciiOnly c) :
    lowerFrom before rest = target ↔ rest.map Char.toLower = target := by
  constructor
  · rintro rfl
    exact (lowerFrom_of_asciiOnly h).symm
  · rintro rfl
    have hascii := toNat_lt_of_toLower fun c hc => (h c hc).2.1
    have hlower := lowerFrom_append_of_ascii hascii before []
    rwa [List.append_nil, lowerFrom, List.append_nil] at hlower

theorem toNat_lt_of_isDigit_or_eq_plus {c : Char} (h : c.isDigit = true ∨ c = '+') :
    0 < c.toNat ∧ c.toNat < 65 := by
  rcases h with hdigit | rfl
  · have hbounds := isDigit_iff.1 hdigit
    omega
  · decide

theorem asciiOnly_of_isDigit_or_eq_plus {c : Char} (h : c.isDigit = true ∨ c = '+') :
    AsciiOnly c := by
  obtain ⟨hpos, hlt⟩ := toNat_lt_of_isDigit_or_eq_plus h
  refine ⟨hpos, by omega, ?_⟩
  rintro rfl
  exact absurd hlt (by decide)

theorem toLower_eq_iff {c d : Char} (h : d.isDigit = true ∨ d = '+') : c.toLower = d ↔ c = d := by
  obtain ⟨-, hlt⟩ := toNat_lt_of_isDigit_or_eq_plus h
  rcases toLower_cases c with ⟨heq, -⟩ | hcapital
  · rw [heq]
  · constructor <;> rintro rfl <;> omega

/-- Digits and plus signs are the same in small letters, and nothing else becomes one of them. -/
theorem lowerFrom_eq_iff_of_plain (h : ∀ c ∈ target, c.isDigit = true ∨ c = '+') :
    lowerFrom before rest = target ↔ rest = target := by
  rw [lowerFrom_eq_iff fun c hc => asciiOnly_of_isDigit_or_eq_plus (h c hc)]
  induction rest generalizing target with
  | nil => rfl
  | cons c rest ih =>
    cases target with
    | nil => exact iff_of_false nofun nofun
    | cons d target =>
      obtain ⟨hd, htarget⟩ := List.forall_mem_cons.1 h
      rw [List.map_cons, List.cons_eq_cons, List.cons_eq_cons, toLower_eq_iff hd, ih htarget]

/-- A number is read from small letters as it is from the text itself. -/
theorem readUnsigned?_lowerFrom (before rest : List Char) :
    readUnsigned? (lowerFrom before rest) = readUnsigned? rest := by
  refine Option.ext fun n => ⟨fun h => ?_, fun h => ?_⟩
  · have hplain := isDigit_or_eq_plus_of_readUnsigned? h
    rwa [← (lowerFrom_eq_iff_of_plain hplain).1 rfl] at h
  · have hplain := isDigit_or_eq_plus_of_readUnsigned? h
    rwa [(lowerFrom_eq_iff_of_plain hplain).2 rfl]

theorem readNat?_lowerFrom_iff : readNat? maxByte (String.ofList (lowerFrom before rest)) = some n ↔
    (Decimal rest n ∨ PlusDecimal rest n) ∧ n ≤ 255 := by
  rw [readNat?, String.toList_ofList, readUnsigned?_lowerFrom, Option.filter_eq_some_iff,
    readUnsigned?_eq_some_iff, decide_eq_true_eq, maxByte]

end SmallLetters

section Hexadecimal

variable {high low c : Char} {n : Nat}

theorem code_of_hexDigit? (h : hexDigit? c = some n) :
    48 ≤ c.toNat ∧ c.toNat ≤ 57 ∨ 97 ≤ c.toNat ∧ c.toNat ≤ 102 ∨
      65 ≤ c.toNat ∧ c.toNat ≤ 70 := by
  unfold hexDigit? at h
  split_ifs at h with hdigit hsmall hcapital
  · exact .inl (isDigit_iff.1 hdigit)
  · exact .inr (.inl hsmall)
  · exact .inr (.inr hcapital)

theorem asciiOnly_of_hexDigit? (h : hexDigit? c = some n) : AsciiOnly c := by
  have hbounds := code_of_hexDigit? h
  refine ⟨by omega, by omega, ?_⟩
  rintro rfl
  exact absurd hbounds (by decide)

/-- A digit in small letters stands for its place among the digits. -/
theorem hexDigit?_toLower_iff : hexDigit? c.toLower = some n ↔ hexDigits[n]? = some c.toLower := by
  constructor
  · intro h
    have hcodes : ∀ code ∈ List.range' 48 10 ++ List.range' 97 6,
        ∀ n ∈ hexDigit? (Char.ofNat code), hexDigits[n]? = some (Char.ofNat code) := by decide
    have hbounds := code_of_hexDigit? h
    rw [← Char.ofNat_toNat c.toLower] at h ⊢
    refine hcodes c.toLower.toNat ?_ n h
    rw [List.mem_append, List.mem_range'_1, List.mem_range'_1]
    rcases toLower_cases c with ⟨heq, hsmall⟩ | hcapital
    · rw [heq] at hbounds ⊢
      omega
    · omega
  · intro h
    have hdigits : ∀ n < 16, hexDigits[n]?.bind hexDigit? = some n := by decide
    have hdigit := hdigits n (List.getElem?_eq_some_iff.1 h).1
    rwa [h] at hdigit

theorem readHexPair?_toLower_iff : readHexPair? high.toLower low.toLower = some n ↔
    HexPair high low n ∨ PlusHex high low n := by
  have hplus : high.toLower = '+' ↔ high = '+' := toLower_eq_iff (.inr rfl)
  unfold readHexPair?
  by_cases hhigh : high = '+'
  · rw [if_pos (hplus.2 hhigh), hexDigit?_toLower_iff]
    refine ⟨fun h => .inr ⟨hhigh, h⟩, ?_⟩
    rintro (⟨h, l, hh, -, -⟩ | hpair)
    · rw [hhigh, ← hexDigit?_toLower_iff] at hh
      cases hh
    · exact hpair.2
  · rw [if_neg (hplus.not.2 hhigh), Option.bind_eq_bind, Option.bind_eq_some_iff]
    constructor
    · rintro ⟨h, hh, hrest⟩
      obtain ⟨l, hl, heq⟩ := Option.bind_eq_some_iff.1 hrest
      cases heq
      exact .inl ⟨h, l, hexDigit?_toLower_iff.1 hh, hexDigit?_toLower_iff.1 hl, rfl⟩
    · rintro (⟨h, l, hh, hl, rfl⟩ | hpair)
      · exact ⟨h, hexDigit?_toLower_iff.2 hh,
          Option.bind_eq_some_iff.2 ⟨l, hexDigit?_toLower_iff.2 hl, rfl⟩⟩
      · exact absurd hpair.1 hhigh

theorem asciiOnly_of_readHexPair? (h : readHexPair? high low = some n) :
    AsciiOnly high ∧ AsciiOnly low := by
  unfold readHexPair? at h
  split at h
  · next hplus =>
    rw [hplus]
    exact ⟨by decide, asciiOnly_of_hexDigit? h⟩
  · obtain ⟨first, hfirst, hrest⟩ := Option.bind_eq_some_iff.1 h
    obtain ⟨second, hsecond, -⟩ := Option.bind_eq_some_iff.1 hrest
    exact ⟨asciiOnly_of_hexDigit? hfirst, asciiOnly_of_hexDigit? hsecond⟩

end Hexadecimal

end Text

end Jukebox
