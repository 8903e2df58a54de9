import Mathlib.Data.List.TakeWhile
import Mathlib.Tactic.SplitIfs
import Jukebox.Proofs.Line

/-
# Texts put one after another

What a text is read as does not depend on what comes after it, provided that the text has no quote
left open and that a blank follows it. So the tokens of a line are those of its parts. A token is
written so that it is a part by itself: a word as it is, a quoted text with its quotes and escapes,
whatever quotes, backslashes, blanks and control characters are in it.
-/

namespace Jukebox.Token

open Text

section Quoted

variable {mark c : Char}

theorem readQuoted_escaped (rest : List Char) : readQuoted mark ('\\' :: c :: rest) =
    (c :: (readQuoted mark rest).1, (readQuoted mark rest).2) := rfl

theorem readQuoted_mark (hescape : mark ≠ '\\') (rest : List Char) :
    readQuoted mark (mark :: rest) = ([], some rest) := by
  rw [readQuoted.eq_4 mark mark rest (fun h => absurd h hescape) fun _ _ h => absurd h hescape,
    if_pos rfl]

theorem readQuoted_cons (hescape : c ≠ '\\') (hmark : c ≠ mark) (rest : List Char) :
    readQuoted mark (c :: rest) = (c :: (readQuoted mark rest).1, (readQuoted mark rest).2) := by
  rw [readQuoted.eq_4 mark c rest (fun h => absurd h hescape) fun _ _ h => absurd h hescape,
    if_neg hmark]

/-- A quote that is closed is read without a look at what comes after it. -/
theorem readQuoted_append {text body rest : List Char}
    (h : readQuoted mark text = (body, some rest)) (more : List Char) :
    readQuoted mark (text ++ more) = (body, some (rest ++ more)) := by
  have hescape : ∀ {c : Char} {tail : List Char}, (c = '\\' → tail = [] → False) →
      (∀ (c' : Char) (tail' : List Char), c = '\\' → tail = c' :: tail' → False) → c ≠ '\\' := by
    intro c tail hlone hpair heq
    cases tail with
    | nil => exact hlone heq rfl
    | cons c' tail' => exact hpair c' tail' heq rfl
  induction text using readQuoted.induct mark generalizing body with
  | case1 => cases h
  | case2 => cases h
  | case3 c tail _ _ _ ih =>
    rw [readQuoted_escaped] at h
    obtain ⟨rfl, hafter⟩ := Prod.mk.inj h
    have htail := ih (Prod.ext rfl hafter)
    rw [List.cons_append, List.cons_append, readQuoted_escaped, htail]
  | case4 tail hlone hpair =>
    rw [readQuoted_mark (hescape hlone hpair)] at h
    cases h
    rw [List.cons_append, readQuoted_mark (hescape hlone hpair)]
  | case5 c tail hlone hpair hmark _ _ _ ih =>
    rw [readQuoted_cons (hescape hlone hpair) hmark] at h
    obtain ⟨rfl, hafter⟩ := Prod.mk.inj h
    have htail := ih (Prod.ext rfl hafter)
    rw [List.cons_append, readQuoted_cons (hescape hlone hpair) hmark, htail]

theorem readQuoted_escape (text rest : List Char) :
    readQuoted '"' (escape text ++ '"' :: rest) = (text, some rest) := by
  induction text with
  | nil => exact readQuoted_mark (by decide) rest
  | cons c text ih =>
    by_cases h : c = '"' ∨ c = '\\'
    · rw [escape, if_pos h, List.cons_append, List.cons_append, readQuoted_escaped, ih]
    · rw [escape, if_neg h, List.cons_append]
      rw [not_or] at h
      rw [readQuoted_cons h.2 h.1, ih]

end Quoted

section Runs

variable {α : Type} {p : α → Bool} {stop : α}

theorem takeWhile_append_stop (h : p stop = false) (items more : List α) :
    (items ++ stop :: more).takeWhile p = items.takeWhile p := by
  induction items with
  | nil => rw [List.nil_append, List.takeWhile_cons, h]; rfl
  | cons item items ih =>
    rw [List.cons_append, List.takeWhile_cons, List.takeWhile_cons, ih]

theorem dropWhile_append_stop (h : p stop = false) (items more : List α) :
    (items ++ stop :: more).dropWhile p = items.dropWhile p ++ stop :: more := by
  induction items with
  | nil => rw [List.nil_append, List.dropWhile_cons, h]; rfl
  | cons item items ih =>
    rw [List.cons_append, List.dropWhile_cons, List.dropWhile_cons, ih]
    split <;> rfl

end Runs

section Scan

variable {text rest : List Char} {token : Token}

theorem scan_of_next?_none (h : next? text = none) : scan text = [.endOfLine] := by
  rw [scan]
  split
  · rfl
  · next hsome => cases h.symm.trans hsome

theorem scan_nil : scan [] = [.endOfLine] := scan_of_next?_none rfl

theorem scan_of_next?_some (h : next? text = some (token, rest)) :
    scan text = token :: scan rest := by
  rw [scan]
  split
  · next hnone => cases h.symm.trans hnone
  · next hsome =>
    cases h.symm.trans hsome
    rfl

/-- What the first character that is no blank begins. -/
theorem next?_of_dropWhile {c : Char} {tail : List Char} (h : text.dropWhile isBlank = c :: tail) :
    next? text =
      if isQuote c then
        match readQuoted c tail with
        | (body, some rest) => some (quoted (String.ofList body), rest)
        | (body, none) => some (stray (String.ofList body), [])
      else if isStray c then some (stray (String.ofList [c]), tail)
      else some (word (String.ofList (c :: tail.takeWhile isWordChar)),
        tail.dropWhile isWordChar) := by
  unfold next?
  generalize text.dropWhile isBlank = kept at h ⊢
  subst h
  rfl

/-- A token that is no stray one is read without a look behind the blank after it. -/
theorem next?_append_blank (h : next? text = some (token, rest))
    (hstray : ∀ body, token ≠ .stray body) (more : List Char) :
    next? (text ++ ' ' :: more) = some (token, rest ++ ' ' :: more) := by
  cases hdrop : text.dropWhile isBlank with
  | nil =>
    unfold next? at h
    rw [hdrop] at h
    cases h
  | cons c tail =>
    have happend : (text ++ ' ' :: more).dropWhile isBlank = c :: (tail ++ ' ' :: more) := by
      rw [List.dropWhile_append, hdrop]
      rfl
    rw [next?_of_dropWhile hdrop] at h
    rw [next?_of_dropWhile happend]
    split_ifs at h ⊢ with hquote hcontrol
    · split at h
      · next body after hread =>
        cases h
        rw [readQuoted_append hread]
      · cases h
        exact absurd rfl (hstray _)
    · cases h
      exact absurd rfl (hstray _)
    · cases h
      rw [takeWhile_append_stop (by decide), dropWhile_append_stop (by decide)]

/-- Blanks at the start of a line do not count. -/
theorem next?_append_of_none (h : next? text = none) (more : List Char) :
    next? (text ++ ' ' :: more) = next? more := by
  have hdrop : text.dropWhile isBlank = [] := by
    cases hdrop : text.dropWhile isBlank with
    | nil => rfl
    | cons c tail =>
      rw [next?_of_dropWhile hdrop] at h
      split_ifs at h
      split at h <;> cases h
  have happend : (text ++ ' ' :: more).dropWhile isBlank = more.dropWhile isBlank := by
    rw [List.dropWhile_append, hdrop]
    rfl
  simp only [next?, happend]

/-- The tokens of a line that goes on after a blank are those of its parts. -/
theorem scan_append_blank {tokens : List Token} (h : scan text = tokens ++ [.endOfLine])
    (hstray : ∀ body, .stray body ∉ tokens) (more : List Char) :
    scan (text ++ ' ' :: more) = tokens ++ scan more := by
  induction text using scan.induct generalizing tokens with
  | case1 text hnext =>
    rw [scan_of_next?_none hnext] at h
    obtain rfl : tokens = [] := by
      cases tokens with
      | nil => rfl
      | cons => simp at h
    have happend := next?_append_of_none hnext more
    cases hmore : next? more with
    | none => rw [List.nil_append, scan_of_next?_none (happend.trans hmore), scan_of_next?_none hmore]
    | some pair =>
      rw [List.nil_append, scan_of_next?_some (happend.trans hmore), scan_of_next?_some hmore]
  | case2 text token rest hnext ih =>
    rw [scan_of_next?_some hnext] at h
    cases tokens with
    | nil =>
      obtain ⟨rfl, -⟩ := List.cons.inj h
      exact absurd rfl (ne_endOfLine_of_next? hnext)
    | cons first tokens =>
      obtain ⟨rfl, hrest⟩ := List.cons.inj h
      have htoken : ∀ body, token ≠ .stray body := by
        rintro body rfl
        exact hstray body List.mem_cons_self
      have hnext' := next?_append_blank hnext htoken more
      rw [scan_of_next?_some hnext', List.cons_append,
        ih hrest fun body hmem => hstray body (List.mem_cons_of_mem _ hmem)]

theorem ofLine_append_blank {first : String} {tokens : List Token}
    (h : ofLine first = tokens ++ [.endOfLine]) (hstray : ∀ body, .stray body ∉ tokens)
    (rest : String) : ofLine (first ++ " " ++ rest) = tokens ++ ofLine rest := by
  rw [ofLine, String.toList_append, String.toList_append, List.append_assoc]
  exact scan_append_blank h hstray rest.toList

end Scan

section Words

/-- What the text of a word is: some characters of words and no others. -/
structure IsWord (text : String) : Prop where
  ne_nil : text.toList ≠ []
  wordChar : ∀ c ∈ text.toList, isWordChar c = true

instance (text : String) : Decidable (IsWord text) :=
  decidable_of_iff (text.toList ≠ [] ∧ text.toList.all isWordChar)
    ⟨fun h => ⟨h.1, List.all_eq_true.1 h.2⟩, fun h => ⟨h.ne_nil, List.all_eq_true.2 h.wordChar⟩⟩

theorem isWordChar_iff {c : Char} :
    isWordChar c = true ↔ isBlank c = false ∧ isQuote c = false ∧ isStray c = false := by
  simp only [isWordChar, Bool.and_eq_true, Bool.not_eq_true', and_assoc]

theorem isWord_of_next? {text rest : List Char} {name : String}
    (h : next? text = some (.word name, rest)) : IsWord name := by
  cases hdrop : text.dropWhile isBlank with
  | nil =>
    unfold next? at h
    rw [hdrop] at h
    cases h
  | cons c tail =>
    have hblank : isBlank c = false := by
      have hhead := List.head?_dropWhile_not isBlank text
      rw [hdrop] at hhead
      exact hhead
    rw [next?_of_dropWhile hdrop] at h
    split_ifs at h with hquote hcontrol
    · split at h <;> cases h
    · cases h
    · cases h
      have hfirst := isWordChar_iff.2
        ⟨hblank, Bool.eq_false_iff.2 hquote, Bool.eq_false_iff.2 hcontrol⟩
      refine ⟨by simp, ?_⟩
      rw [String.toList_ofList, List.forall_mem_cons]
      exact ⟨hfirst, fun c hc => List.mem_takeWhile_imp hc⟩

theorem isWord_of_mem_scan {text : List Char} {name : String} (h : .word name ∈ scan text) :
    IsWord name := by
  induction text using scan.induct with
  | case1 text hnext =>
    rw [scan_of_next?_none hnext, List.mem_singleton] at h
    cases h
  | case2 text token rest hnext ih =>
    rw [scan_of_next?_some hnext, List.mem_cons] at h
    obtain rfl | hrest := h
    · exact isWord_of_next? hnext
    · exact ih hrest

theorem scan_word {name : String} (h : IsWord name) :
    scan name.toList = [.word name, .endOfLine] := by
  obtain ⟨c, tail, hlist⟩ := List.exists_cons_of_ne_nil h.ne_nil
  have hall := h.wordChar
  rw [hlist, List.forall_mem_cons] at hall
  obtain ⟨hfirst, htail⟩ := hall
  obtain ⟨hblank, hquote, hstray⟩ := isWordChar_iff.1 hfirst
  have hdrop : (c :: tail).dropWhile isBlank = c :: tail := by
    rw [List.dropWhile_cons_of_neg (Bool.eq_false_iff.1 hblank)]
  have hnext : next? (c :: tail) = some (.word name, []) := by
    rw [next?_of_dropWhile hdrop, if_neg (Bool.eq_false_iff.1 hquote),
      if_neg (Bool.eq_false_iff.1 hstray), List.takeWhile_eq_self_iff.2 htail,
      List.dropWhile_eq_nil_iff.2 htail, ← hlist, String.ofList_toList]
  rw [hlist, scan_of_next?_some hnext, scan_nil]

theorem scan_enquote (body : String) :
    scan (enquote body).toList = [.quoted body, .endOfLine] := by
  have hnext : next? ('"' :: escape body.toList ++ ['"']) = some (.quoted body, []) := by
    rw [List.cons_append, next?_of_dropWhile rfl, if_pos (by decide), readQuoted_escape]
    dsimp only
    rw [String.ofList_toList]
  rw [enquote, String.toList_ofList, scan_of_next?_some hnext, scan_nil]

end Words

/-- A token that can be written down: any quoted text, and any word that comes in a line. -/
inductive Written : Token → Prop
  | quoted (text : String) : Written (.quoted text)
  | word {text : String} (h : IsWord text) : Written (.word text)

theorem ofLine_source {token : Token} (h : token.Written) :
    ofLine token.source = [token, .endOfLine] := by
  cases h with
  | quoted text => exact scan_enquote text
  | word h => exact scan_word h

theorem Written.ne_stray {token : Token} (h : token.Written) (text : String) :
    token ≠ .stray text := by
  cases h <;> exact Token.noConfusion

/-- What a line of such tokens is written as is read as the same tokens. -/
theorem ofLine_intercalate_source {tokens : List Token} (h : ∀ token ∈ tokens, token.Written) :
    ofLine (String.intercalate " " (tokens.map source)) = tokens ++ [.endOfLine] := by
  induction tokens with
  | nil => exact scan_nil
  | cons token tokens ih =>
    obtain ⟨htoken, htokens⟩ := List.forall_mem_cons.1 h
    have hfirst : ofLine token.source = [token] ++ [.endOfLine] := ofLine_source htoken
    cases tokens with
    | nil => exact hfirst
    | cons next tokens =>
      have hstray : ∀ text, Token.stray text ∉ [token] := fun text hmem =>
        htoken.ne_stray text (List.mem_singleton.1 hmem).symm
      rw [List.map_cons, List.map_cons, String.intercalate_cons_cons, ← List.map_cons,
        ofLine_append_blank hfirst hstray, ih htokens]
      rfl

end Jukebox.Token
