import Mathlib.Data.List.Basic
import Mathlib.Tactic.IntervalCases
import Jukebox.Key.Sequence

/-
# Key sequences read back

A key sequence that was read from a text can be written down again, and what is written can be read.
A key in brackets ends at the first closing bracket after it, so what is written of a key may hold no
closing bracket but the last. All names of keys keep to that, and so does every single character but
one: the closing bracket itself, which is written as it is although it has a name to be read by. A
sequence reads back as itself just if that character comes in it without modifiers only.
-/

namespace Jukebox.Key

/-- The key codes that a text can name. -/
def Nameable : KeyCode → Prop
  | .function number => 1 ≤ number ∧ number ≤ 12
  | .null | .capsLock | .menu => False
  | _ => True

instance : DecidablePred Nameable
  | .function number => inferInstanceAs (Decidable (1 ≤ number ∧ number ≤ 12))
  | .null | .capsLock | .menu => inferInstanceAs (Decidable False)
  | .char _ | .up | .down | .left | .right | .pageUp | .pageDown | .home | .bottom | .enter | .tab
  | .backTab | .escape | .backspace | .delete | .insert => inferInstanceAs (Decidable True)

/-- The keys that a text can name: those with a code of that kind, in the one form of their kind. -/
structure Readable (key : Key) : Prop where
  normal : key.IsNormal
  nameable : Nameable key.code

section Codes

theorem nameable_of_functionCode? {name : String} {code : KeyCode}
    (h : functionCode? name = some code) : Nameable code := by
  unfold functionCode? at h
  split at h
  · split at h
    · next number hnumber =>
      split at h
      · next hbounds =>
        cases h
        exact hbounds
      · cases h
    · cases h
  · cases h

theorem nameable_of_codeNamed? {name : String} {code : KeyCode}
    (h : codeNamed? name = some code) : Nameable code := by
  have hnamed : ∀ entry ∈ namedCodes, Nameable entry.2 := by decide
  simp only [codeNamed?] at h
  split at h
  · next code' hlookup =>
    cases h
    obtain ⟨before, after, heq, -⟩ := List.lookup_eq_some_iff.1 hlookup
    exact hnamed (Text.lowercase name, code) (heq ▸ by simp)
  · exact nameable_of_functionCode? h

theorem exists_char_of_codeName? {code : KeyCode} (h : codeName? code = none) :
    ∃ c, code = .char c := by
  cases code with
  | char c => exact ⟨c, rfl⟩
  | _ => cases h

/-- Two characters are written by a name. -/
theorem codeName?_char (c : Char) : codeName? (.char c) =
    if c = ' ' then some "Space" else if c = '<' then some "lt" else none := by
  unfold codeName?
  split <;> simp_all

/-- The codes that are written by a name that a text can hold. -/
def writtenCodes : List KeyCode :=
  [.char ' ', .char '<', .up, .down, .left, .right, .pageUp, .pageDown, .home, .bottom, .enter,
    .tab, .backTab, .escape, .backspace, .delete, .insert] ++
  (List.range' 1 12).map .function

theorem mem_writtenCodes {code : KeyCode} {name : String} (hnameable : Nameable code)
    (hname : codeName? code = some name) : code ∈ writtenCodes := by
  cases code with
  | char c =>
    rw [codeName?_char] at hname
    split_ifs at hname with hblank hopening
    · rw [hblank]
      decide
    · rw [hopening]
      decide
  | function number =>
    obtain ⟨hlow, hhigh⟩ := hnameable
    refine List.mem_append_right _ (List.mem_map_of_mem ?_)
    rw [List.mem_range'_1]
    omega
  | null => cases hnameable
  | capsLock => cases hnameable
  | menu => cases hnameable
  | _ => decide

/-- The name that a code is written by is one of the names that it is read by. -/
theorem codeNamed?_codeName? {code : KeyCode} {name : String} (hnameable : Nameable code)
    (hname : codeName? code = some name) : codeNamed? name = some code := by
  have hall : ∀ code ∈ writtenCodes, ∀ name ∈ codeName? code, codeNamed? name = some code := by
    decide +kernel
  exact hall code (mem_writtenCodes hnameable hname) name hname

/-- How names are made: of two characters at least, the second not a dash and none a closing
bracket. -/
def NameLike : List Char → Prop
  | first :: second :: rest => second ≠ '-' ∧ '>' ∉ first :: second :: rest
  | _ => False

instance : DecidablePred NameLike
  | first :: second :: rest =>
    inferInstanceAs (Decidable (second ≠ '-' ∧ '>' ∉ first :: second :: rest))
  | [] | [_] => inferInstanceAs (Decidable False)

theorem nameLike_codeName? {code : KeyCode} {name : String} (hnameable : Nameable code)
    (hname : codeName? code = some name) : NameLike name.toList := by
  have hall : ∀ code ∈ writtenCodes, ∀ name ∈ codeName? code, NameLike name.toList := by
    decide +kernel
  exact hall code (mem_writtenCodes hnameable hname) name hname

end Codes

section Brackets

/-- The letters of modifiers, each with its dash. -/
def letters (modifiers : Modifiers) : List Char :=
  (if modifiers.control then ['C', '-'] else []) ++ (if modifiers.alt then ['A', '-'] else []) ++
    (if modifiers.shift then ['S', '-'] else [])

/-- What is written of a key between its brackets. -/
def inside (key : Key) : List Char := letters key.modifiers ++ label key.code

/-- A key is plain if it is written as it is: a character without a name and without modifiers. -/
def IsPlain (key : Key) : Prop :=
  ∃ c, codeName? (.char c) = none ∧ key = ofChar c

theorem spell_ofChar {c : Char} (h : codeName? (.char c) = none) : (ofChar c).spell = [c] := by
  simp [spell, ofChar, ofCode, h]

theorem eq_ofChar_of_modifiers {key : Key} {c : Char} (hnormal : key.IsNormal)
    (hcode : key.code = .char c) (hmodifiers : key.modifiers = {}) : key = ofChar c := by
  rw [IsNormal, hcode, hmodifiers] at hnormal
  exact hnormal.symm

theorem modifiers_eq_empty_iff (key : Key) :
    key.modifiers = {} ↔ (key.control || key.alt || key.shift) = false := by
  simp [modifiers, and_assoc]

/-- Any key but the plain ones is written in brackets. -/
theorem spell_of_not_isPlain {key : Key} (hnormal : key.IsNormal) (h : ¬ key.IsPlain) :
    key.spell = '<' :: (inside key ++ ['>']) := by
  unfold spell
  split
  · next c hcode hname hmodifiers =>
    have hempty := (modifiers_eq_empty_iff key).2 hmodifiers
    exact absurd ⟨c, hcode ▸ hname, eq_ofChar_of_modifiers hnormal hcode hempty⟩ h
  · simp only [inside, letters, List.append_assoc]
    rfl

theorem readModifiers?_of_nameLike {name : List Char} (modifiers : Modifiers) (h : NameLike name) :
    readModifiers? modifiers name = some (modifiers, name) := by
  match name, h with
  | first :: second :: rest, ⟨hdash, _⟩ =>
    unfold readModifiers?
    split
    · next heq => cases heq; exact absurd rfl hdash
    · rfl

theorem readModifiers?_letters {modifiers : Modifiers} (hsuper : modifiers.super = false)
    {name : List Char} (hne : name ≠ [])
    (hname : readModifiers? modifiers name = some (modifiers, name)) :
    readModifiers? {} (letters modifiers ++ name) = some (modifiers, name) := by
  obtain ⟨c, rest, rfl⟩ := List.exists_cons_of_ne_nil hne
  obtain ⟨control, alt, shift, super⟩ := modifiers
  cases hsuper
  cases control <;> cases alt <;> cases shift <;>
    simpa [letters, readModifiers?, addModifier?] using hname

/-- What is written of a key in brackets names the key. -/
theorem named?_inside {key : Key} (h : key.Readable) (hplain : ¬ key.IsPlain) :
    named? (inside key) = some key := by
  unfold inside
  cases hname : codeName? key.code with
  | some name =>
    have hlabel : label key.code = name.toList := by simp only [label, hname]
    have hlike := nameLike_codeName? h.nameable hname
    have hread : readModifiers? {} (letters key.modifiers ++ name.toList) =
        some (key.modifiers, name.toList) := by
      refine readModifiers?_letters rfl ?_ (readModifiers?_of_nameLike _ hlike)
      intro hnil
      rw [hnil] at hlike
      exact hlike
    have hnamed : codeNamed? (String.ofList name.toList) = some key.code := by
      rw [String.ofList_toList]
      exact codeNamed?_codeName? h.nameable hname
    unfold named?
    rw [hlabel, hread]
    match hlist : name.toList, hlike with
    | first :: second :: rest, _ =>
      rw [hlist] at hnamed
      simp only [hnamed, Option.map_some]
      exact congrArg some h.normal
  | none =>
    obtain ⟨c, hcode⟩ := exists_char_of_codeName? hname
    have hmodifiers : key.modifiers ≠ {} := fun hempty =>
      hplain ⟨c, hcode ▸ hname, eq_ofChar_of_modifiers h.normal hcode hempty⟩
    have hlabel : label key.code = [c] := by
      rw [hcode] at hname ⊢
      simp only [label, hname]
    have hread : readModifiers? {} (letters key.modifiers ++ [c]) = some (key.modifiers, [c]) :=
      readModifiers?_letters rfl (List.cons_ne_nil c []) rfl
    unfold named?
    rw [hlabel, hread]
    simp only [if_neg hmodifiers]
    rw [← hcode]
    exact congrArg some h.normal

theorem not_mem_letters (modifiers : Modifiers) : '>' ∉ letters modifiers := by
  obtain ⟨control, alt, shift, super⟩ := modifiers
  cases control <;> cases alt <;> cases shift <;> simp [letters]

theorem not_mem_inside {key : Key} (h : key.Readable) (hcode : key.code ≠ .char '>') :
    '>' ∉ inside key := by
  refine fun hmem => (List.mem_append.1 hmem).elim (not_mem_letters _) fun hlabel => ?_
  cases hname : codeName? key.code with
  | some name =>
    have hlike := nameLike_codeName? h.nameable hname
    simp only [label, hname] at hlabel
    match hlist : name.toList, hlike with
    | first :: second :: rest, ⟨_, hclosing⟩ => exact hclosing (hlist ▸ hlabel)
  | none =>
    obtain ⟨c, hchar⟩ := exists_char_of_codeName? hname
    rw [hchar] at hname hlabel hcode
    simp only [label, hname, List.mem_singleton] at hlabel
    exact hcode (hlabel ▸ rfl)

/-- A name in brackets is read up to the first closing bracket. -/
theorem bracketed?_append {name : List Char} (h : '>' ∉ name) (rest : List Char) :
    bracketed? (name ++ '>' :: rest) = (named? name).map fun key => (key, rest) := by
  have hname : ∀ c ∈ name, decide (c ≠ '>') = true := fun c hc =>
    decide_eq_true fun heq => h (heq ▸ hc)
  have hdrop : (name ++ '>' :: rest).dropWhile (· ≠ '>') = '>' :: rest := by
    rw [List.dropWhile_append_of_pos hname]
    rfl
  have htake : (name ++ '>' :: rest).takeWhile (· ≠ '>') = name := by
    rw [List.takeWhile_append_of_pos hname]
    exact List.append_nil name
  unfold bracketed?
  rw [hdrop, htake]

end Brackets

section Reading

theorem readKeys_bracketed {text rest : List Char} {key : Key}
    (h : bracketed? text = some (key, rest)) : readKeys ('<' :: text) = key :: readKeys rest := by
  rw [readKeys]
  split
  · next key' rest' heq =>
    cases h.symm.trans heq
    rfl
  · next heq => cases h.symm.trans heq

theorem readKeys_opening {text : List Char} (h : bracketed? text = none) :
    readKeys ('<' :: text) = ofChar '<' :: readKeys text := by
  rw [readKeys]
  split
  · next heq => cases h.symm.trans heq
  · rfl

theorem readKeys_cons {c : Char} (h : c ≠ '<') (text : List Char) :
    readKeys (c :: text) = ofChar c :: readKeys text := by
  rw [readKeys]
  exact h

/-- What a name in brackets calls can be read. -/
theorem readable_of_named? {name : List Char} {key : Key} (h : named? name = some key) :
    key.Readable := by
  unfold named? at h
  split at h
  · cases h
  · next modifiers c hread =>
    split at h
    · cases h
    · cases h
      exact ⟨isNormal_ofCode _ _, trivial⟩
  · next modifiers rest _ hread =>
    obtain ⟨code, hcode, rfl⟩ := Option.map_eq_some_iff.1 h
    refine ⟨isNormal_ofCode _ _, ?_⟩
    have hnameable := nameable_of_codeNamed? hcode
    cases code <;> exact hnameable

theorem readable_of_mem_readKeys {text : List Char} {key : Key} (h : key ∈ readKeys text) :
    key.Readable := by
  induction text using readKeys.induct with
  | case1 =>
    rw [readKeys] at h
    cases h
  | case2 rest named after hbracketed ih =>
    rw [readKeys_bracketed hbracketed] at h
    obtain rfl | hafter := List.mem_cons.1 h
    · unfold bracketed? at hbracketed
      split at hbracketed
      · obtain ⟨key', hnamed, heq⟩ := Option.map_eq_some_iff.1 hbracketed
        cases heq
        exact readable_of_named? hnamed
      · cases hbracketed
    · exact ih hafter
  | case3 rest hbracketed ih =>
    rw [readKeys_opening hbracketed] at h
    obtain rfl | hafter := List.mem_cons.1 h
    · exact ⟨isNormal_ofCode _ _, trivial⟩
    · exact ih hafter
  | case4 c rest hc ih =>
    rw [readKeys_cons hc] at h
    obtain rfl | hafter := List.mem_cons.1 h
    · exact ⟨isNormal_ofCode _ _, trivial⟩
    · exact ih hafter

/-- A closing bracket with a modifier: written in brackets, it ends them too early. -/
def Enclosed (key : Key) : Prop := key.code = .char '>' ∧ (key.control = true ∨ key.alt = true)

instance : DecidablePred Enclosed := fun _ => inferInstanceAs (Decidable (_ ∧ _))

theorem code_ne_of_not_enclosed {key : Key} (hnormal : key.IsNormal) (hplain : ¬ key.IsPlain)
    (h : ¬ key.Enclosed) : key.code ≠ .char '>' := by
  intro hcode
  rw [Enclosed, not_and, not_or, Bool.not_eq_true, Bool.not_eq_true] at h
  obtain ⟨hcontrol, halt⟩ := h hcode
  refine hplain ⟨'>', rfl, ?_⟩
  rw [IsNormal, hcode] at hnormal
  rw [← hnormal]
  simp [ofChar, ofCode, modifiers, hcontrol, halt]

/-- Any other key is read back, whatever comes after it. -/
theorem readKeys_spell_append {key : Key} (h : key.Readable) (hopen : ¬ key.Enclosed)
    (rest : List Char) : readKeys (key.spell ++ rest) = key :: readKeys rest := by
  by_cases hplain : key.IsPlain
  · obtain ⟨c, hname, rfl⟩ := hplain
    have hopening : c ≠ '<' := by
      rintro rfl
      cases hname
    rw [spell_ofChar hname, List.singleton_append, readKeys_cons hopening]
  · have hinside := not_mem_inside h (code_ne_of_not_enclosed h.normal hplain hopen)
    have hread : bracketed? (inside key ++ '>' :: rest) = some (key, rest) := by
      rw [bracketed?_append hinside, named?_inside h hplain, Option.map_some]
    rw [spell_of_not_isPlain h.normal hplain, List.cons_append, List.append_assoc,
      List.singleton_append, readKeys_bracketed hread]

/-- The letters of modifiers name nothing on their own. -/
theorem named?_letters (key : Key) : named? (letters key.modifiers) = none := by
  have hletters : ∀ control alt shift : Bool,
      named? (letters { control := control, alt := alt, shift := shift }) = none := by
    decide +kernel
  exact hletters key.control key.alt key.shift

/-- A closing bracket with a modifier is read as the opening bracket that is written before it. -/
theorem readKeys_spell_append_of_enclosed {key : Key} (hnormal : key.IsNormal)
    (h : key.Enclosed) (rest : List Char) :
    ∃ keys, readKeys (key.spell ++ rest) = ofChar '<' :: keys := by
  obtain ⟨hcode, hmodifier⟩ := h
  have hplain : ¬ key.IsPlain := by
    rintro ⟨c, -, rfl⟩
    exact hmodifier.elim Bool.false_ne_true Bool.false_ne_true
  have hinside : inside key = letters key.modifiers ++ ['>'] := by
    rw [inside, hcode]
    rfl
  have hread : bracketed? (letters key.modifiers ++ '>' :: ('>' :: rest)) = none := by
    rw [bracketed?_append (not_mem_letters _), named?_letters, Option.map_none]
  refine ⟨readKeys (letters key.modifiers ++ '>' :: ('>' :: rest)), ?_⟩
  rw [spell_of_not_isPlain hnormal hplain, hinside, ← readKeys_opening hread]
  simp

theorem readKeys_flatMap_spell_iff {keys : List Key} (h : ∀ key ∈ keys, key.Readable) :
    readKeys (keys.flatMap spell) = keys ↔ ∀ key ∈ keys, ¬ key.Enclosed := by
  induction keys with
  | nil => simp [readKeys]
  | cons key keys ih =>
    obtain ⟨hkey, hkeys⟩ := List.forall_mem_cons.1 h
    rw [List.flatMap_cons, List.forall_mem_cons]
    by_cases henclosed : key.Enclosed
    · obtain ⟨read, hread⟩ :=
        readKeys_spell_append_of_enclosed hkey.normal henclosed (keys.flatMap spell)
      have hdiffers : ofChar '<' :: read ≠ key :: keys := by
        intro heq
        obtain rfl := (List.cons.inj heq).1
        exact absurd henclosed (by decide)
      rw [hread]
      exact iff_of_false hdiffers fun hall => hall.1 henclosed
    · rw [readKeys_spell_append hkey henclosed, List.cons_inj_right, ih hkeys]
      exact ⟨fun hall => ⟨henclosed, hall⟩, And.right⟩

end Reading

theorem readSequence?_eq_some_iff {text : String} {keys : List Key} :
    readSequence? text = some keys ↔ readKeys text.toList = keys ∧ keys ≠ [] := by
  unfold readSequence?
  cases readKeys text.toList with
  | nil =>
    refine iff_of_false (by simp) ?_
    rintro ⟨rfl, hne⟩
    exact hne rfl
  | cons key rest =>
    rw [Option.some_inj]
    refine ⟨?_, And.left⟩
    rintro rfl
    exact ⟨rfl, List.cons_ne_nil key rest⟩

/-- A sequence read from a text is read back from the way it is written just if no closing bracket
in it comes with a modifier. -/
theorem readSequence?_displaySequence_iff {text : String} {keys : List Key}
    (h : readSequence? text = some keys) :
    readSequence? (displaySequence keys) = some keys ↔
      ∀ key ∈ keys, key.code = .char '>' → key.control = false ∧ key.alt = false := by
  obtain ⟨rfl, hne⟩ := readSequence?_eq_some_iff.1 h
  have hreadable : ∀ key ∈ readKeys text.toList, key.Readable := fun key =>
    readable_of_mem_readKeys
  rw [readSequence?_eq_some_iff, displaySequence, String.toList_ofList, and_iff_left hne,
    readKeys_flatMap_spell_iff hreadable]
  refine forall₂_congr fun key _ => ?_
  rw [Enclosed, not_and, not_or, Bool.not_eq_true, Bool.not_eq_true]

theorem mixed_sequence_is_read_back :
    let keys := [{ code := .char 'x', control := true }, { code := .up }, ofChar 'g', ofChar '>']
    readSequence? "<C-x><Up>g>" = some keys ∧
      readSequence? (displaySequence keys) = some keys := by
  intro keys
  have hread : readSequence? "<C-x><Up>g>" = some keys := by decide +kernel
  exact ⟨hread, (readSequence?_displaySequence_iff hread).2 (by decide)⟩

/-- Control with the closing bracket is called by its name, but written by itself, and so it is read
as the five characters that are written. -/
theorem control_closing_bracket_is_not_read_back :
    readSequence? "<C-gt>" = some [{ code := .char '>', control := true }] ∧
      displaySequence [{ code := .char '>', control := true }] = "<C->>" ∧
      readSequence? "<C->>" =
        some [ofChar '<', ofChar 'C', ofChar '-', ofChar '>', ofChar '>'] := by
  decide +kernel

end Jukebox.Key
