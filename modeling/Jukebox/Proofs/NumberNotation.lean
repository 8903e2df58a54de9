import Jukebox.Proofs.Digits
import Jukebox.Proofs.KeyNotation
import Jukebox.Style
import Jukebox.Token

/-
# Numbers in writing

A number on a command line is digits after at most one sign, a color is given by its place in the
palette or by six hexadecimal digits, a function key by its number. This is what is read, and just
one thing besides: a plus sign, where there is no place for it. A word may have one in front of the
sign of its number, so that a number after a plus can be negative. A place in the palette and the
number of a key may have one in front, and in a color one may stand for the first of two digits.
-/

namespace Jukebox

open Text

/-- A word with a property that no name of a table has is none of them. -/
theorem lookup_eq_none {α : Type} {names : List (String × α)} {P : List Char → Prop}
    (hnames : ∀ entry ∈ names, ¬P entry.1.toList) {word : String} (hword : P word.toList) :
    names.lookup word = none := by
  rw [List.lookup_eq_none_iff]
  intro entry hentry
  refine bne_iff_ne.2 ?_
  rintro rfl
  exact hnames entry hentry hword

namespace Token

/-- The numbers that fit a signed 64-bit word. -/
def InRange (n : Int) : Prop := -9223372036854775808 ≤ n ∧ n ≤ 9223372036854775807

/-- A word is a number in range, or one that has a sign and a plus sign before it. -/
theorem toInt?_word_iff {text : String} {n : Int} : (Token.word text).toInt? = some n ↔
    (Signed text.toList n ∨ PlusSigned text.toList n) ∧ InRange n := by
  have hread (number : List Char) : readInt64? (String.ofList number) = some n ↔
      Signed number n ∧ InRange n := by
    rw [readInt64?, readInt?, String.toList_ofList, Option.filter_eq_some_iff,
      readSigned?_eq_some_iff, decide_eq_true_eq]
    rfl
  unfold toInt?
  dsimp only
  split
  · next rest hplus =>
    rw [hread, hplus]
    apply and_congr_left
    intro _
    constructor
    · intro h
      cases h with
      | unsigned h => exact .inl (.plus h)
      | plus h => exact .inr ⟨'+', _, rfl, .inl rfl, .plus h⟩
      | minus h => exact .inr ⟨'-', _, rfl, .inr rfl, .minus h⟩
    · rintro (h | ⟨sign, digits, heq, -, h⟩)
      · cases h with
        | unsigned h => exact absurd rfl (h.head_ne_sign rfl).1
        | plus h => exact .unsigned h
      · cases heq
        exact h
  · next hplus =>
    rw [← String.ofList_toList (s := text), hread, String.ofList_toList]
    refine and_congr_left fun _ => ⟨.inl, ?_⟩
    rintro (h | ⟨sign, digits, heq, -⟩)
    · exact h
    · exact absurd heq (hplus _)

end Token

namespace Color

/-- Six characters, two for each of red, green and blue, that are read as numbers in some way. -/
def SixDigits (pair : (high low : Char) → (n : Nat) → Prop) (digits : List Char)
    (color : Color) : Prop :=
  ∃ r₁ r₀ g₁ g₀ b₁ b₀ red green blue, digits = [r₁, r₀, g₁, g₀, b₁, b₀] ∧
    pair r₁ r₀ red ∧ pair g₁ g₀ green ∧ pair b₁ b₀ blue ∧ color = .rgb red green blue

theorem ofNumber?_sharp_iff {word : String} {digits : List Char} {color : Color}
    (h : word.toList = '#' :: digits) : ofNumber? word = some color ↔
      SixDigits (fun high low n => readHexPair? high low = some n) digits color := by
  have hstart : afterStart? word "color" = none := by
    unfold afterStart?
    rw [h]
    rfl
  unfold ofNumber?
  rw [hstart, h]
  dsimp only
  split
  · next r₁ r₀ g₁ g₀ b₁ b₀ heq =>
    cases heq
    constructor
    · intro hread
      obtain ⟨red, hred, hread⟩ := Option.bind_eq_some_iff.1 hread
      obtain ⟨green, hgreen, hread⟩ := Option.bind_eq_some_iff.1 hread
      obtain ⟨blue, hblue, hread⟩ := Option.bind_eq_some_iff.1 hread
      cases hread
      exact ⟨r₁, r₀, g₁, g₀, b₁, b₀, red, green, blue, rfl, hred, hgreen, hblue, rfl⟩
    · rintro ⟨_, _, _, _, _, _, red, green, blue, heq, hred, hgreen, hblue, rfl⟩
      cases heq
      rw [hred, hgreen, hblue]
      rfl
  · next hlength =>
    refine iff_of_false nofun ?_
    rintro ⟨r₁, r₀, g₁, g₀, b₁, b₀, _, _, _, rfl, -⟩
    exact hlength r₁ r₀ g₁ g₀ b₁ b₀ rfl

theorem sixDigits_lowerFrom_iff {before digits : List Char} {color : Color} :
    SixDigits (fun high low n => readHexPair? high low = some n) (lowerFrom before digits) color ↔
      SixDigits (fun high low n => HexPair high low n ∨ PlusHex high low n) digits color := by
  constructor
  · rintro ⟨r₁, r₀, g₁, g₀, b₁, b₀, red, green, blue, heq, hred, hgreen, hblue, rfl⟩
    have hascii : ∀ c ∈ [r₁, r₀, g₁, g₀, b₁, b₀], AsciiOnly c := by
      simp [asciiOnly_of_readHexPair? hred, asciiOnly_of_readHexPair? hgreen,
        asciiOnly_of_readHexPair? hblue]
    have hmap := (lowerFrom_eq_iff hascii).1 heq
    simp only [List.map_eq_cons_iff, List.map_eq_nil_iff] at hmap
    obtain ⟨r₁, _, rfl, rfl, r₀, _, rfl, rfl, g₁, _, rfl, rfl, g₀, _, rfl, rfl, b₁, _, rfl, rfl,
      b₀, _, rfl, rfl, rfl⟩ := hmap
    exact ⟨r₁, r₀, g₁, g₀, b₁, b₀, red, green, blue, rfl, readHexPair?_toLower_iff.1 hred,
      readHexPair?_toLower_iff.1 hgreen, readHexPair?_toLower_iff.1 hblue, rfl⟩
  · rintro ⟨r₁, r₀, g₁, g₀, b₁, b₀, red, green, blue, rfl, hred, hgreen, hblue, rfl⟩
    rw [← readHexPair?_toLower_iff] at hred hgreen hblue
    refine ⟨_, _, _, _, _, _, red, green, blue, (lowerFrom_eq_iff ?_).2 rfl, hred, hgreen, hblue,
      rfl⟩
    simp [asciiOnly_of_readHexPair? hred, asciiOnly_of_readHexPair? hgreen,
      asciiOnly_of_readHexPair? hblue]

/-- What follows a number sign is six digits, or else a plus sign stands for the first of two. -/
theorem ofWord?_sharp_iff {text : String} {digits : List Char} {color : Color}
    (h : text.toList = '#' :: digits) : ofWord? text = some color ↔
      SixDigits (fun high low n => HexPair high low n ∨ PlusHex high low n) digits color := by
  have hword : (lowercase text).toList = '#' :: lowerFrom ['#'] digits := by
    rw [lowercase, String.toList_ofList, h]
    rfl
  have hnames : ∀ entry ∈ names, ¬['#'] <+: entry.1.toList := by decide
  have hlookup : names.lookup (lowercase text) = none :=
    lookup_eq_none hnames (hword ▸ List.prefix_append ['#'] _)
  unfold ofWord?
  dsimp only
  rw [hlookup]
  exact (ofNumber?_sharp_iff hword).trans sixDigits_lowerFrom_iff

/-- What follows the word is a place in the palette, with a plus sign before it or without. -/
theorem ofWord?_palette_iff {text : String} {start rest : List Char} {color : Color}
    (h : text.toList = start ++ rest) (hstart : start.map Char.toLower = "color".toList) :
    ofWord? text = some color ↔
      ∃ n ≤ 255, (Decimal rest n ∨ PlusDecimal rest n) ∧ color = .indexed n := by
  have hword : (lowercase text).toList = "color".toList ++ lowerFrom start.reverse rest := by
    have hascii : ∀ c ∈ start, c.toNat < 0x80 := toNat_lt_of_toLower (by simp [hstart])
    rw [lowercase, String.toList_ofList, h, lowerFrom_append_of_ascii hascii, hstart,
      List.append_nil]
  have hnames : ∀ entry ∈ names, ¬"color".toList <+: entry.1.toList := by decide
  have hprefix : "color".toList <+: (lowercase text).toList := by
    rw [hword]
    exact List.prefix_append _ _
  have hlookup : names.lookup (lowercase text) = none := lookup_eq_none hnames hprefix
  have hafter : afterStart? (lowercase text) "color" =
      some (String.ofList (lowerFrom start.reverse rest)) := by
    rw [afterStart?_eq_some_iff, ← String.toList_inj, hword, String.toList_append]
    exact congrArg ("color".toList ++ ·) String.toList_ofList.symm
  unfold ofWord?
  dsimp only
  rw [hlookup]
  dsimp only
  rw [ofNumber?, hafter]
  dsimp only
  rw [Option.map_eq_some_iff]
  constructor
  · rintro ⟨n, hread, rfl⟩
    obtain ⟨hwritten, hle⟩ := readNat?_lowerFrom_iff.1 hread
    exact ⟨n, hle, hwritten, rfl⟩
  · rintro ⟨n, hle, hwritten, rfl⟩
    exact ⟨n, readNat?_lowerFrom_iff.2 ⟨hwritten, hle⟩, rfl⟩

end Color

namespace Key

/-- The number of a function key, with a plus sign before it or without. -/
def FunctionNumber (number : List Char) (n : Nat) : Prop :=
  (Decimal number n ∨ PlusDecimal number n) ∧ 1 ≤ n ∧ n ≤ 12

section FunctionKeys

variable {f : Char} {number : List Char}

theorem functionCode?_eq_some_iff {name : String} (h : name.toList = 'f' :: number)
    {code : KeyCode} : functionCode? name = some code ↔
      ∃ n, readNat? maxByte (String.ofList number) = some n ∧ (1 ≤ n ∧ n ≤ 12) ∧
        code = .function n := by
  rw [functionCode?, h]
  split
  · next heq =>
    cases heq
    cases readNat? maxByte (String.ofList number) with
    | none => simp
    | some n => simp [eq_comm]
  · next hname => exact absurd rfl (hname number)

theorem codeNamed?_function_iff (hf : f = 'f' ∨ f = 'F') {code : KeyCode} :
    codeNamed? (String.ofList (f :: number)) = some code ↔
      ∃ n, FunctionNumber number n ∧ code = .function n := by
  have hname : (lowercase (String.ofList (f :: number))).toList = 'f' :: lowerFrom [f] number := by
    rw [lowercase, String.toList_ofList, String.toList_ofList]
    rcases hf with rfl | rfl <;> rfl
  have hnames : ∀ entry ∈ namedCodes, ¬['f'] <+: entry.1.toList := by decide
  have hlookup : namedCodes.lookup (lowercase (String.ofList (f :: number))) = none :=
    lookup_eq_none hnames (hname ▸ List.prefix_append ['f'] _)
  unfold codeNamed?
  dsimp only
  rw [hlookup]
  dsimp only
  rw [functionCode?_eq_some_iff hname]
  refine exists_congr fun n => ?_
  rw [readNat?_lowerFrom_iff]
  constructor
  · rintro ⟨⟨hwritten, -⟩, hbounds, hcode⟩
    exact ⟨⟨hwritten, hbounds⟩, hcode⟩
  · rintro ⟨⟨hwritten, hbounds⟩, hcode⟩
    exact ⟨⟨hwritten, by omega⟩, hbounds, hcode⟩

theorem FunctionNumber.exists_cons {n : Nat} (h : FunctionNumber number n) :
    ∃ c rest, number = c :: rest ∧ c ≠ '-' := by
  rcases h.1 with hdecimal | ⟨digits, rfl, -⟩
  · obtain ⟨c, rest, rfl⟩ := List.exists_cons_of_ne_nil hdecimal.ne_nil
    exact ⟨c, rest, rfl, (hdecimal.head_ne_sign rfl).2⟩
  · exact ⟨'+', digits, rfl, by decide⟩

theorem readModifiers?_of_ne_dash {modifiers : Modifiers} {first : Char} {rest : List Char}
    (h : ∀ c tail, rest ≠ '-' :: c :: tail) :
    readModifiers? modifiers (first :: rest) = some (modifiers, first :: rest) := by
  unfold readModifiers?
  split
  · next heq =>
    cases heq
    exact absurd rfl (h _ _)
  · rfl

/-- With a dash after it the letter would have to be that of a modifier. -/
theorem named?_function_dash (hf : f = 'f' ∨ f = 'F') (c : Char) (tail : List Char) :
    named? (f :: '-' :: c :: tail) = none := by
  have hletter : addModifier? f {} = none := by
    rcases hf with rfl | rfl <;> rfl
  rw [named?, readModifiers?, hletter]

theorem named?_function_iff (hf : f = 'f' ∨ f = 'F') {key : Key} :
    named? (f :: number) = some key ↔
      ∃ n, FunctionNumber number n ∧ key = ofCode (.function n) {} := by
  cases number with
  | nil =>
    have hread : named? [f] = none := rfl
    rw [hread]
    refine iff_of_false (Option.some_ne_none key).symm ?_
    rintro ⟨n, hnumber, -⟩
    obtain ⟨c, rest, heq, -⟩ := hnumber.exists_cons
    cases heq
  | cons c rest =>
    by_cases hdash : ∃ d tail, c :: rest = '-' :: d :: tail
    · obtain ⟨d, tail, heq⟩ := hdash
      rw [heq, named?_function_dash hf]
      refine iff_of_false (Option.some_ne_none key).symm ?_
      rintro ⟨n, hnumber, -⟩
      obtain ⟨first, rest', heq', hne⟩ := hnumber.exists_cons
      cases heq'
      exact hne rfl
    · have hread : readModifiers? {} (f :: c :: rest) = some ({}, f :: c :: rest) :=
        readModifiers?_of_ne_dash (by simpa only [not_exists] using hdash)
      rw [named?, hread]
      dsimp only
      rw [Option.map_eq_some_iff]
      constructor
      · rintro ⟨code, hcode, rfl⟩
        obtain ⟨n, hnumber, rfl⟩ := (codeNamed?_function_iff hf).1 hcode
        exact ⟨n, hnumber, rfl⟩
      · rintro ⟨n, hnumber, rfl⟩
        exact ⟨_, (codeNamed?_function_iff hf).2 ⟨n, hnumber, rfl⟩, rfl⟩

variable {rest : List Char}

theorem readKeys_function {n : Nat} (hf : f = 'f' ∨ f = 'F') (hnumber : '>' ∉ number)
    (h : FunctionNumber number n) : readKeys ('<' :: f :: (number ++ '>' :: rest)) =
      ofCode (.function n) {} :: readKeys rest := by
  have hname : '>' ∉ f :: number := by
    rcases hf with rfl | rfl <;> simpa using hnumber
  apply readKeys_bracketed
  rw [← List.cons_append, bracketed?_append hname, (named?_function_iff hf).2 ⟨n, h, rfl⟩]
  rfl

theorem readKeys_not_function (hf : f = 'f' ∨ f = 'F') (hnumber : '>' ∉ number)
    (h : ¬∃ n, FunctionNumber number n) : readKeys ('<' :: f :: (number ++ '>' :: rest)) =
      ofChar '<' :: ofChar f :: readKeys (number ++ '>' :: rest) := by
  have hname : '>' ∉ f :: number := by
    rcases hf with rfl | rfl <;> simpa using hnumber
  have hopening : f ≠ '<' := by
    rcases hf with rfl | rfl <;> decide
  have hnamed : named? (f :: number) = none := by
    refine Option.eq_none_iff_forall_ne_some.2 fun key hkey => ?_
    obtain ⟨n, hn, -⟩ := (named?_function_iff hf).1 hkey
    exact h ⟨n, hn⟩
  rw [readKeys_opening, readKeys_cons hopening]
  rw [← List.cons_append, bracketed?_append hname, hnamed]
  rfl

end FunctionKeys

section Anywhere

variable {name before text : List Char} {f : Char}

/-- The modifiers that a name begins with end before an opening bracket that has more than a dash
after it. -/
theorem mem_of_readModifiers? {modifiers found : Modifiers} (hf : f ≠ '-')
    (h : readModifiers? modifiers (before ++ '<' :: f :: text) = some (found, name)) :
    '<' ∈ name ∧ 2 ≤ name.length := by
  generalize hinside : before ++ '<' :: f :: text = inside at h
  induction modifiers, inside using readModifiers?.induct generalizing before with
  | case1 modifiers letter c rest added hadd ih =>
    rw [readModifiers?, hadd] at h
    rcases before with _ | ⟨first, _ | ⟨second, before⟩⟩
    · cases hinside
      exact absurd rfl hf
    · cases hinside
    · exact ih (List.cons.inj (List.cons.inj hinside).2).2 h
  | case2 modifiers letter c rest hadd =>
    rw [readModifiers?, hadd] at h
    cases h
  | case3 modifiers inside hletters =>
    rw [readModifiers?] at h
    · cases h
      rw [← hinside, List.length_append, List.length_cons, List.length_cons]
      exact ⟨List.mem_append_right _ List.mem_cons_self, by omega⟩
    · exact hletters

theorem functionCode?_eq_none_of_mem {name : String} (h : '<' ∈ name.toList) :
    functionCode? name = none := by
  unfold functionCode?
  split
  · next number hname =>
    have hmem : '<' ∈ number := by simpa [hname] using h
    have hread : readNat? maxByte (String.ofList number) = none := by
      refine Option.eq_none_iff_forall_ne_some.2 fun n hn => ?_
      rw [readNat?, String.toList_ofList, Option.filter_eq_some_iff] at hn
      exact absurd (isDigit_or_eq_plus_of_readUnsigned? hn.1 _ hmem) (by decide)
    rw [hread]
  · rfl

theorem codeNamed?_eq_none_of_mem (h : '<' ∈ name) : codeNamed? (String.ofList name) = none := by
  have hmem : '<' ∈ (lowercase (String.ofList name)).toList := by
    rw [lowercase, String.toList_ofList, String.toList_ofList]
    exact mem_lowerFrom (by decide) rfl h
  have hnames : ∀ entry ∈ namedCodes, '<' ∉ entry.1.toList := by decide
  have hlookup : namedCodes.lookup (lowercase (String.ofList name)) = none :=
    lookup_eq_none hnames hmem
  unfold codeNamed?
  dsimp only
  rw [hlookup]
  exact functionCode?_eq_none_of_mem hmem

theorem named?_opening (hf : f ≠ '-') : named? (before ++ '<' :: f :: text) = none := by
  rw [named?]
  split
  · rfl
  · next modifiers c hread =>
    have hlength : 2 ≤ 1 := (mem_of_readModifiers? hf hread).2
    exact absurd hlength (by decide)
  · next modifiers name _ hread =>
    rw [codeNamed?_eq_none_of_mem (mem_of_readModifiers? hf hread).1]
    rfl

theorem bracketed?_eq_none (h : '>' ∉ text) : bracketed? text = none := by
  have hall : ∀ c ∈ text, decide (c ≠ '>') = true := fun c hc =>
    decide_eq_true fun heq => h (heq ▸ hc)
  have hdrop : text.dropWhile (· ≠ '>') = [] := List.dropWhile_eq_nil_iff.2 hall
  rw [bracketed?, hdrop]

theorem bracketed?_append_opening (hdash : f ≠ '-') (hclosing : f ≠ '>') :
    bracketed? (before ++ '<' :: f :: text) =
      (bracketed? before).map fun (key, after) => (key, after ++ '<' :: f :: text) := by
  by_cases hbefore : '>' ∈ before
  · obtain ⟨name, after, rfl, hname⟩ := List.eq_append_cons_of_mem hbefore
    rw [List.append_assoc, List.cons_append, bracketed?_append hname, bracketed?_append hname,
      Option.map_map]
    rfl
  · rw [bracketed?_eq_none hbefore, Option.map_none]
    by_cases htext : '>' ∈ text
    · obtain ⟨name, after, rfl, hname⟩ := List.eq_append_cons_of_mem htext
      have hinside : '>' ∉ before ++ '<' :: f :: name := by
        simp [hbefore, hname, hclosing.symm]
      have hassoc : before ++ '<' :: f :: (name ++ '>' :: after) =
          (before ++ '<' :: f :: name) ++ '>' :: after := by
        simp
      rw [hassoc, bracketed?_append hinside, named?_opening hdash]
      rfl
    · apply bracketed?_eq_none
      simp [hbefore, htext, hclosing.symm]

/-- What is written before the opening bracket of a name is read apart from it. -/
theorem readKeys_append_opening (hdash : f ≠ '-') (hclosing : f ≠ '>') (before text : List Char) :
    readKeys (before ++ '<' :: f :: text) = readKeys before ++ readKeys ('<' :: f :: text) := by
  induction before using readKeys.induct with
  | case1 =>
    rw [readKeys]
    rfl
  | case2 rest key after hbracketed ih =>
    rw [readKeys_bracketed hbracketed, List.cons_append, List.cons_append, ← ih]
    apply readKeys_bracketed
    rw [bracketed?_append_opening hdash hclosing, hbracketed]
    rfl
  | case3 rest hbracketed ih =>
    rw [readKeys_opening hbracketed, List.cons_append, List.cons_append, ← ih]
    apply readKeys_opening
    rw [bracketed?_append_opening hdash hclosing, hbracketed]
    rfl
  | case4 c rest hc ih =>
    rw [readKeys_cons hc, List.cons_append, readKeys_cons hc, ih]
    rfl

/-- Characters that open no bracket stand for themselves. -/
theorem readKeys_append_of_not_mem (h : '<' ∉ text) (rest : List Char) :
    readKeys (text ++ rest) = text.map ofChar ++ readKeys rest := by
  induction text with
  | nil => rfl
  | cons c text ih =>
    obtain ⟨hc, htext⟩ := not_or.1 (List.mem_cons.not.1 h)
    rw [List.cons_append, readKeys_cons (Ne.symm hc), ih htext]
    rfl

theorem readSequence?_function_iff {text : String} {number after : List Char} {keys : List Key}
    (h : text.toList = before ++ '<' :: f :: (number ++ '>' :: after)) (hf : f = 'f' ∨ f = 'F')
    (hnumber : '>' ∉ number) : readSequence? text = some keys ↔
      (∃ n, FunctionNumber number n ∧
        keys = readKeys before ++ ofCode (.function n) {} :: readKeys after) ∨
      (¬∃ n, FunctionNumber number n) ∧
        keys = readKeys before ++ ofChar '<' :: ofChar f :: readKeys (number ++ '>' :: after) := by
  have hplain : f ≠ '-' ∧ f ≠ '>' := by
    rcases hf with rfl | rfl <;> decide
  rw [readSequence?_eq_some_iff, h, readKeys_append_opening hplain.1 hplain.2]
  constructor
  · rintro ⟨rfl, -⟩
    by_cases h : ∃ n, FunctionNumber number n
    · obtain ⟨n, hn⟩ := h
      exact .inl ⟨n, hn, congrArg _ (readKeys_function hf hnumber hn)⟩
    · exact .inr ⟨h, congrArg _ (readKeys_not_function hf hnumber h)⟩
  · rintro (⟨n, hn, rfl⟩ | ⟨h, rfl⟩)
    · rw [readKeys_function hf hnumber hn]
      exact ⟨rfl, List.append_ne_nil_of_right_ne_nil _ (List.cons_ne_nil _ _)⟩
    · rw [readKeys_not_function hf hnumber h]
      exact ⟨rfl, List.append_ne_nil_of_right_ne_nil _ (List.cons_ne_nil _ _)⟩

end Anywhere

end Key

open Key

/-- In every text numbers are read as they should be written, and with a plus sign too many: before
the sign of a word, before a place in the palette or the number of a function key, and in the place
of the first of two digits of a color. A name in brackets that calls no function key in this way is
read as its characters, wherever it stands. -/
theorem numbers_are_read_past_plus (text : String) :
    (∀ n, (Token.word text).toInt? = some n ↔
      (Signed text.toList n ∨ PlusSigned text.toList n) ∧ Token.InRange n) ∧
    (∀ digits, text.toList = '#' :: digits → ∀ color, Color.ofWord? text = some color ↔
      Color.SixDigits (fun high low n => HexPair high low n ∨ PlusHex high low n) digits color) ∧
    (∀ start rest, text.toList = start ++ rest → start.map Char.toLower = "color".toList →
      ∀ color, Color.ofWord? text = some color ↔
        ∃ n ≤ 255, (Decimal rest n ∨ PlusDecimal rest n) ∧ color = .indexed n) ∧
    ∀ before f number after, text.toList = before ++ '<' :: f :: (number ++ '>' :: after) →
      f = 'f' ∨ f = 'F' → '>' ∉ number →
      (∀ keys, readSequence? text = some keys ↔
        (∃ n, FunctionNumber number n ∧
          keys = readKeys before ++ ofCode (.function n) {} :: readKeys after) ∨
        (¬∃ n, FunctionNumber number n) ∧
          keys = readKeys before ++ ofChar '<' :: ofChar f :: readKeys (number ++ '>' :: after)) ∧
      ('<' ∉ number → readKeys (number ++ '>' :: after) =
        number.map ofChar ++ ofChar '>' :: readKeys after) := by
  refine ⟨fun n => Token.toInt?_word_iff, fun digits h color => Color.ofWord?_sharp_iff h,
    fun start rest h hstart color => Color.ofWord?_palette_iff h hstart, ?_⟩
  intro before f number after h hf hnumber
  refine ⟨fun keys => readSequence?_function_iff h hf hnumber, fun hopening => ?_⟩
  rw [readKeys_append_of_not_mem hopening, readKeys_cons (by decide)]

theorem usual_numbers_are_read :
    (Token.word "+2").toInt? = some 2 ∧
      Color.ofWord? "#Ff8000" = some (.rgb 255 128 0) ∧
      Color.ofWord? "COLOR208" = some (.indexed 208) ∧
      readSequence? "g<F3>" = some [ofChar 'g', ofCode (.function 3) {}] := by
  have htwo : Decimal ['2'] 2 := ⟨by decide, List.all_eq_true.1 rfl, rfl⟩
  have hplace : Decimal ['2', '0', '8'] 208 := ⟨by decide, List.all_eq_true.1 rfl, rfl⟩
  have hthree : FunctionNumber ['3'] 3 :=
    ⟨.inl ⟨by decide, List.all_eq_true.1 rfl, rfl⟩, by decide⟩
  refine ⟨?_, ?_, ?_, ?_⟩
  · obtain ⟨hword, -⟩ := numbers_are_read_past_plus "+2"
    exact (hword 2).2 ⟨.inl (.plus htwo), by decide, by decide⟩
  · obtain ⟨-, hsharp, -⟩ := numbers_are_read_past_plus "#Ff8000"
    refine (hsharp _ rfl _).2 ⟨_, _, _, _, _, _, 255, 128, 0, rfl, ?_, ?_, ?_, rfl⟩
    · exact .inl ⟨15, 15, rfl, rfl, rfl⟩
    · exact .inl ⟨8, 0, rfl, rfl, rfl⟩
    · exact .inl ⟨0, 0, rfl, rfl, rfl⟩
  · obtain ⟨-, -, hpalette, -⟩ := numbers_are_read_past_plus "COLOR208"
    exact (hpalette ['C', 'O', 'L', 'O', 'R'] _ rfl rfl _).2 ⟨208, by decide, .inl hplace, rfl⟩
  · obtain ⟨-, -, -, hkeys⟩ := numbers_are_read_past_plus "g<F3>"
    have hread := (hkeys ['g'] 'F' ['3'] [] rfl (.inr rfl) (by decide)).1
    refine (hread _).2 (.inl ⟨3, hthree, ?_⟩)
    rw [readKeys_cons (by decide), readKeys]
    rfl

/-- A number after a plus sign can be negative, and plus signs stand in the place of digits. -/
theorem plus_signs_are_passed_over :
    ((Token.word "+-5").toInt? = some (-5) ∧ ¬Signed "+-5".toList (-5)) ∧
      (Color.ofWord? "#+1+2+3" = some (.rgb 1 2 3) ∧
        ¬Color.SixDigits HexPair "+1+2+3".toList (.rgb 1 2 3)) ∧
      Color.ofWord? "color+5" = some (.indexed 5) ∧
      readSequence? "<F+5>" = some [ofCode (.function 5) {}] ∧ ¬Decimal "+5".toList 5 := by
  refine ⟨⟨by decide +kernel, ?_⟩, ⟨by decide +kernel, ?_⟩, by decide +kernel, by decide +kernel,
    ?_⟩
  · intro h
    rw [← readSigned?_eq_some_iff] at h
    cases h
  · rintro ⟨_, _, _, _, _, _, _, _, _, heq, ⟨h, l, hhigh, -⟩, -⟩
    cases heq
    rw [← hexDigit?_toLower_iff] at hhigh
    cases hhigh
  · intro h
    exact (h.head_ne_sign rfl).1 rfl

end Jukebox
