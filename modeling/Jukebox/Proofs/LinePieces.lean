import Jukebox.Proofs.Scanning

/-
# The pieces of a line

Every character of a line has its place: it belongs to a word, to a quoted text with its quotes and
escapes, is a stray control character or is a blank between these. There is one way to put the line
together from such pieces, and the tokens that are read are those of the pieces. So a blank after a
line, unless a quote of it is still open, parts it from whatever comes next.
-/

namespace Jukebox.Token

open Text

/-- What stands between two quotes and what it means. A backslash makes the character after it
literal; no other quote of the same sort is in it. -/
inductive Body (mark : Char) : (raw text : List Char) → Prop
  | nil : Body mark [] []
  | plain {c : Char} {raw text : List Char} (hescape : c ≠ '\\') (hmark : c ≠ mark)
      (h : Body mark raw text) : Body mark (c :: raw) (c :: text)
  | escaped (c : Char) {raw text : List Char} (h : Body mark raw text) :
      Body mark ('\\' :: c :: raw) (c :: text)

/-- What stands after a quote that is not closed. A backslash at the end has nothing to make
literal, and stands for itself. -/
inductive OpenBody (mark : Char) : (raw text : List Char) → Prop
  | body {raw text : List Char} (h : Body mark raw text) : OpenBody mark raw text
  | backslash {raw text : List Char} (h : Body mark raw text) :
      OpenBody mark (raw ++ ['\\']) (text ++ ['\\'])

/-- What there is in a line besides blanks. -/
inductive Piece where
  | word (run : List Char)
  | quoted (mark : Char) (raw text : List Char)
  | control (c : Char)
  | unclosed (mark : Char) (raw text : List Char)

namespace Piece

/-- The piece as it stands in the line. -/
def raw : Piece → List Char
  | word run => run
  | quoted mark raw _ => mark :: (raw ++ [mark])
  | control c => [c]
  | unclosed mark raw _ => mark :: raw

/-- The token that the piece is. -/
def token : Piece → Token
  | word run => .word (String.ofList run)
  | quoted _ _ text => .quoted (String.ofList text)
  | control c => .stray (String.ofList [c])
  | unclosed _ _ text => .stray (String.ofList text)

/-- The piece is what it is called. -/
def WellFormed : Piece → Prop
  | word run => run ≠ [] ∧ ∀ c ∈ run, isWordChar c = true
  | quoted mark raw text => isQuote mark = true ∧ Body mark raw text
  | control c => isStray c = true
  | unclosed mark raw text => isQuote mark = true ∧ OpenBody mark raw text

/-- The piece may stand between two characters, or at an end of the line. A word goes on for as long
as there are characters of words on either side, and a quote that is not closed goes on to the end
of the line. -/
def Between (before after : Option Char) : Piece → Prop
  | word _ => (∀ c ∈ before, isWordChar c = false) ∧ ∀ c ∈ after, isWordChar c = false
  | quoted _ _ _ | control _ => True
  | unclosed _ _ _ => after = none

/-- The piece is a quote without an end. -/
def IsUnclosed : Piece → Prop
  | unclosed _ _ _ => True
  | word _ | quoted _ _ _ | control _ => False

end Piece

/-- What comes in a line after a character is put together from pieces, with blanks around them. -/
inductive Pieces : (before : Option Char) → (text : List Char) → List Piece → Prop
  | blanks {before : Option Char} {gap : List Char} (hgap : ∀ c ∈ gap, isBlank c = true) :
      Pieces before gap []
  | piece {before : Option Char} {gap rest : List Char} {piece : Piece} {pieces : List Piece}
      (hgap : ∀ c ∈ gap, isBlank c = true) (hpiece : piece.WellFormed)
      (hbetween : piece.Between (gap.getLast?.or before) rest.head?)
      (h : Pieces piece.raw.getLast? rest pieces) :
      Pieces before (gap ++ (piece.raw ++ rest)) (piece :: pieces)

/-- A quote of the line is never closed. -/
def LeavesOpen (line : String) : Prop :=
  ∃ pieces, Pieces none line.toList pieces ∧ ∃ piece ∈ pieces, piece.IsUnclosed

section Quoted

variable {mark : Char} {raw text : List Char}

theorem ne_backslash_of_isQuote (h : isQuote mark = true) : mark ≠ '\\' := by
  rintro rfl
  exact absurd h (by decide)

theorem readQuoted_body_append (h : Body mark raw text) (rest : List Char) :
    readQuoted mark (raw ++ rest) =
      (text ++ (readQuoted mark rest).1, (readQuoted mark rest).2) := by
  induction h with
  | nil => rfl
  | plain hc hmark _ ih => rw [List.cons_append, readQuoted_cons hc hmark, ih, List.cons_append]
  | escaped c _ ih =>
    rw [List.cons_append, List.cons_append, readQuoted_escaped, ih, List.cons_append]

theorem readQuoted_body (hescape : mark ≠ '\\') (h : Body mark raw text) (rest : List Char) :
    readQuoted mark (raw ++ mark :: rest) = (text, some rest) := by
  rw [readQuoted_body_append h, readQuoted_mark hescape, List.append_nil]

theorem readQuoted_openBody (h : OpenBody mark raw text) : readQuoted mark raw = (text, none) := by
  cases h with
  | body h =>
    have hread := readQuoted_body_append h []
    rwa [List.append_nil, readQuoted, List.append_nil] at hread
  | backslash h => exact readQuoted_body_append h ['\\']

theorem OpenBody.plain {c : Char} (hescape : c ≠ '\\') (hmark : c ≠ mark)
    (h : OpenBody mark raw text) : OpenBody mark (c :: raw) (c :: text) := by
  cases h with
  | body h => exact .body (h.plain hescape hmark)
  | backslash h => exact .backslash (h.plain hescape hmark)

theorem OpenBody.escaped (c : Char) (h : OpenBody mark raw text) :
    OpenBody mark ('\\' :: c :: raw) (c :: text) := by
  cases h with
  | body h => exact .body (h.escaped c)
  | backslash h => exact .backslash (h.escaped c)

/-- After a quote there is a body with the quote that closes it, or no such quote at all. -/
theorem exists_body_or_openBody (mark : Char) (after : List Char) :
    (∃ raw text rest, after = raw ++ mark :: rest ∧ Body mark raw text) ∨
      ∃ text, OpenBody mark after text := by
  induction after using readQuoted.induct mark with
  | case1 => exact .inr ⟨[], .body .nil⟩
  | case2 => exact .inr ⟨['\\'], .backslash .nil⟩
  | case3 c rest _ _ _ ih =>
    rcases ih with ⟨raw, text, rest, rfl, hbody⟩ | ⟨text, hopen⟩
    · exact .inl ⟨'\\' :: c :: raw, c :: text, rest, rfl, hbody.escaped c⟩
    · exact .inr ⟨c :: text, hopen.escaped c⟩
  | case4 rest => exact .inl ⟨[], [], rest, rfl, .nil⟩
  | case5 c rest hlone hpair hmark _ _ _ ih =>
    have hescape : c ≠ '\\' := by
      rintro rfl
      cases rest with
      | nil => exact hlone rfl rfl
      | cons next rest => exact hpair next rest rfl rfl
    rcases ih with ⟨raw, text, rest, rfl, hbody⟩ | ⟨text, hopen⟩
    · exact .inl ⟨c :: raw, c :: text, rest, rfl, hbody.plain hescape hmark⟩
    · exact .inr ⟨c :: text, hopen.plain hescape hmark⟩

end Quoted

section Scan

variable {before : Option Char} {gap rest text : List Char} {piece : Piece} {pieces : List Piece}

theorem next?_of_blanks (hgap : ∀ c ∈ gap, isBlank c = true) : next? gap = none := by
  unfold next?
  rw [List.dropWhile_eq_nil_iff.2 hgap]

theorem dropWhile_isBlank_append (hgap : ∀ c ∈ gap, isBlank c = true) {c : Char}
    (hc : isBlank c = false) (tail : List Char) :
    (gap ++ c :: tail).dropWhile isBlank = c :: tail := by
  rw [List.dropWhile_append_of_pos hgap, List.dropWhile_cons_of_neg (Bool.eq_false_iff.1 hc)]

theorem isBlank_of_isQuote {c : Char} (h : isQuote c = true) : isBlank c = false := by
  rcases Bool.or_eq_true_iff.1 h with hdouble | hsingle
  · rw [beq_iff_eq.1 hdouble]; rfl
  · rw [beq_iff_eq.1 hsingle]; rfl

theorem isQuote_of_isStray {c : Char} (h : isStray c = true) : isQuote c = false := by
  refine Bool.eq_false_iff.2 fun hquote => ?_
  rcases Bool.or_eq_true_iff.1 hquote with hdouble | hsingle
  · rw [beq_iff_eq.1 hdouble] at h
    exact absurd h (by decide)
  · rw [beq_iff_eq.1 hsingle] at h
    exact absurd h (by decide)

theorem isBlank_of_isStray {c : Char} (h : isStray c = true) : isBlank c = false := by
  rw [isStray, Bool.and_eq_true, Bool.not_eq_true'] at h
  exact h.2

/-- Blanks before a piece do not belong to it. -/
theorem Piece.WellFormed.exists_raw_eq (h : piece.WellFormed) :
    ∃ c tail, piece.raw = c :: tail ∧ isBlank c = false := by
  cases piece with
  | word run =>
    obtain ⟨c, tail, rfl⟩ := List.exists_cons_of_ne_nil h.1
    exact ⟨c, tail, rfl, (isWordChar_iff.1 (h.2 c List.mem_cons_self)).1⟩
  | quoted mark raw text => exact ⟨mark, raw ++ [mark], rfl, isBlank_of_isQuote h.1⟩
  | control c => exact ⟨c, [], rfl, isBlank_of_isStray h⟩
  | unclosed mark raw text => exact ⟨mark, raw, rfl, isBlank_of_isQuote h.1⟩

/-- A word ends where the first other character is. -/
theorem takeWhile_isWordChar_append {run : List Char} (hrun : ∀ c ∈ run, isWordChar c = true)
    (hrest : ∀ c ∈ rest.head?, isWordChar c = false) :
    (run ++ rest).takeWhile isWordChar = run ∧ (run ++ rest).dropWhile isWordChar = rest := by
  rw [List.takeWhile_append_of_pos hrun, List.dropWhile_append_of_pos hrun]
  cases rest with
  | nil => exact ⟨List.append_nil run, rfl⟩
  | cons c rest =>
    have hc : ¬isWordChar c = true := Bool.eq_false_iff.1 (hrest c rfl)
    rw [List.takeWhile_cons_of_neg hc, List.dropWhile_cons_of_neg hc]
    exact ⟨List.append_nil run, rfl⟩

/-- The first piece of a text is read, and nothing after it. -/
theorem next?_of_piece (hgap : ∀ c ∈ gap, isBlank c = true) (hpiece : piece.WellFormed)
    (hbetween : piece.Between before rest.head?) :
    next? (gap ++ (piece.raw ++ rest)) = some (piece.token, rest) := by
  cases piece with
  | word run =>
    obtain ⟨hne, hrun⟩ := hpiece
    obtain ⟨c, tail, rfl⟩ := List.exists_cons_of_ne_nil hne
    obtain ⟨hfirst, htail⟩ := List.forall_mem_cons.1 hrun
    obtain ⟨hblank, hquote, hstray⟩ := isWordChar_iff.1 hfirst
    obtain ⟨htake, hdrop⟩ := takeWhile_isWordChar_append htail hbetween.2
    rw [Piece.raw, List.cons_append, next?_of_dropWhile (dropWhile_isBlank_append hgap hblank _),
      if_neg (Bool.eq_false_iff.1 hquote), if_neg (Bool.eq_false_iff.1 hstray), htake, hdrop]
    rfl
  | quoted mark raw text =>
    obtain ⟨hquote, hbody⟩ := hpiece
    have hblank := isBlank_of_isQuote hquote
    rw [Piece.raw, List.cons_append, List.append_assoc, List.singleton_append,
      next?_of_dropWhile (dropWhile_isBlank_append hgap hblank _), if_pos hquote,
      readQuoted_body (ne_backslash_of_isQuote hquote) hbody]
    rfl
  | control c =>
    have hstray : isStray c = true := hpiece
    have hquote := isQuote_of_isStray hstray
    have hblank := isBlank_of_isStray hstray
    rw [Piece.raw, List.singleton_append,
      next?_of_dropWhile (dropWhile_isBlank_append hgap hblank _),
      if_neg (Bool.eq_false_iff.1 hquote), if_pos hstray]
    rfl
  | unclosed mark raw text =>
    obtain ⟨hquote, hopen⟩ := hpiece
    obtain rfl : rest = [] := List.head?_eq_none_iff.1 hbetween
    rw [Piece.raw, List.append_nil,
      next?_of_dropWhile (dropWhile_isBlank_append hgap (isBlank_of_isQuote hquote) _),
      if_pos hquote, readQuoted_openBody hopen]
    rfl

/-- The tokens of a text are those of its pieces. -/
theorem Pieces.scan_eq (h : Pieces before text pieces) :
    scan text = pieces.map Piece.token ++ [.endOfLine] := by
  induction h with
  | blanks hgap => exact scan_of_next?_none (next?_of_blanks hgap)
  | piece hgap hpiece hbetween _ ih =>
    rw [scan_of_next?_some (next?_of_piece hgap hpiece hbetween), ih]
    rfl

/-- Pieces that are written alike are alike: the token tells a control character from a quote. -/
theorem Piece.eq_of_raw_eq {other : Piece} (hpiece : piece.WellFormed) (hother : other.WellFormed)
    (hraw : piece.raw = other.raw) (htoken : piece.token = other.token) : piece = other := by
  cases piece with
  | word run =>
    cases other with
    | word run' => exact congrArg Piece.word hraw
    | quoted | control | unclosed => cases htoken
  | quoted mark raw text =>
    cases other with
    | quoted mark' raw' text' =>
      obtain ⟨rfl, hrest⟩ := List.cons.inj hraw
      obtain rfl := List.append_cancel_right hrest
      obtain rfl := String.ofList_injective (Token.quoted.inj htoken)
      rfl
    | word | control | unclosed => cases htoken
  | control c =>
    cases other with
    | control c' =>
      obtain ⟨rfl, -⟩ := List.cons.inj hraw
      rfl
    | unclosed mark raw text =>
      obtain ⟨rfl, -⟩ := List.cons.inj hraw
      have hquote := isQuote_of_isStray hpiece
      rw [hother.1] at hquote
      cases hquote
    | word | quoted => cases htoken
  | unclosed mark raw text =>
    cases other with
    | unclosed mark' raw' text' =>
      obtain ⟨rfl, rfl⟩ := List.cons.inj hraw
      obtain rfl := String.ofList_injective (Token.stray.inj htoken)
      rfl
    | control c =>
      obtain ⟨rfl, -⟩ := List.cons.inj hraw
      have hquote := isQuote_of_isStray hother
      rw [hpiece.1] at hquote
      cases hquote
    | word | quoted => cases htoken

/-- There is one way only to put a text together from pieces. -/
theorem Pieces.unique {other : Option Char} {others : List Piece} (h : Pieces before text pieces)
    (h' : Pieces other text others) : pieces = others := by
  induction h generalizing other others with
  | blanks hgap =>
    cases h' with
    | blanks => rfl
    | piece hgap' hpiece' hbetween' _ =>
      have hnone := next?_of_blanks hgap
      rw [next?_of_piece hgap' hpiece' hbetween'] at hnone
      cases hnone
  | @piece before gap rest piece pieces hgap hpiece hbetween _ ih =>
    have hnext := next?_of_piece hgap hpiece hbetween
    generalize htext : gap ++ (piece.raw ++ rest) = text at h' hnext
    cases h' with
    | blanks hgap' =>
      rw [next?_of_blanks hgap'] at hnext
      cases hnext
    | @piece _ gap' rest' piece' pieces' hgap' hpiece' hbetween' hrest' =>
      obtain ⟨htoken, rfl⟩ := Prod.mk.inj (Option.some.inj
        ((next?_of_piece hgap' hpiece' hbetween').symm.trans hnext))
      obtain ⟨c, tail, hraw, hc⟩ := hpiece.exists_raw_eq
      obtain ⟨c', tail', hraw', hc'⟩ := hpiece'.exists_raw_eq
      rw [← List.append_assoc, ← List.append_assoc, List.append_cancel_right_eq] at htext
      have hsame := congrArg (List.dropWhile isBlank) htext
      rw [hraw, hraw', dropWhile_isBlank_append hgap hc, dropWhile_isBlank_append hgap' hc',
        ← hraw, ← hraw'] at hsame
      rw [Piece.eq_of_raw_eq hpiece hpiece' hsame htoken.symm, ih hrest']

theorem isBlank_of_dropWhile {c : Char} {tail : List Char}
    (h : text.dropWhile isBlank = c :: tail) : isBlank c = false := by
  have hhead := List.head?_dropWhile_not isBlank text
  rw [h] at hhead
  exact hhead

theorem isWordChar_of_mem_head? {tail : List Char} {c : Char}
    (h : c ∈ (tail.dropWhile isWordChar).head?) : isWordChar c = false := by
  have hhead := List.head?_dropWhile_not isWordChar tail
  rw [Option.mem_def.1 h] at hhead
  exact hhead

theorem isWordChar_of_isBlank {c : Char} (h : isBlank c = true) : isWordChar c = false := by
  rw [isWordChar, h]
  rfl

/-- After blanks any piece may begin. -/
theorem Piece.Between.of_blanks {other after : Option Char} (h : piece.Between other after)
    (hgap : ∀ c ∈ gap, isBlank c = true) (hne : gap ≠ []) :
    piece.Between (gap.getLast?.or before) after := by
  cases piece with
  | word run =>
    refine ⟨fun c hc => isWordChar_of_isBlank (hgap c ?_), h.2⟩
    rw [List.getLast?_eq_some_getLast hne, Option.some_or, Option.mem_some] at hc
    exact hc ▸ List.getLast_mem hne
  | quoted _ _ _ | control _ => exact trivial
  | unclosed _ _ _ => exact h

/-- After a piece there is no character that could belong to it as well. -/
theorem Piece.Between.isWordChar_eq_false (h : piece.Between before rest.head?)
    (hpiece : piece.WellFormed) :
    ∀ last ∈ piece.raw.getLast?, isWordChar last = true →
      ∀ c ∈ rest.head?, isWordChar c = false := by
  intro last hlast hword
  cases piece with
  | word run => exact h.2
  | quoted mark raw text =>
    have hmark : isWordChar mark = false := by
      rw [isWordChar, hpiece.1, Bool.not_true, Bool.and_false, Bool.false_and]
    rw [Piece.raw, ← List.cons_append, List.getLast?_concat, Option.mem_some] at hlast
    rw [← hlast, hmark] at hword
    cases hword
  | control c =>
    have hcontrol : isWordChar c = false := by
      rw [isWordChar, show isStray c = true from hpiece, Bool.not_true, Bool.and_false]
    rw [Piece.raw, List.getLast?_singleton, Option.mem_some] at hlast
    rw [← hlast, hcontrol] at hword
    cases hword
  | unclosed mark raw text =>
    intro c hc
    rw [show rest.head? = none from h] at hc
    cases hc

/-- A word that is read up to its end is as long as it can be, unless characters of it stood before
the text. -/
theorem Piece.between_word {c : Char} {tail : List Char} (hword : isWordChar c = true)
    (hgap : ∀ c ∈ gap, isBlank c = true)
    (hbegins : ∀ last ∈ before, isWordChar last = true →
      ∀ first ∈ (gap ++ c :: tail).head?, isWordChar first = false) :
    (word (c :: tail.takeWhile isWordChar)).Between (gap.getLast?.or before)
      (tail.dropWhile isWordChar).head? := by
  have hends : Between none (tail.dropWhile isWordChar).head?
      (word (c :: tail.takeWhile isWordChar)) := ⟨nofun, fun _ => isWordChar_of_mem_head?⟩
  by_cases hnil : gap = []
  · rw [hnil] at hbegins ⊢
    refine ⟨fun last hlast => Bool.eq_false_iff.2 fun hbefore => ?_, hends.2⟩
    have hfirst := hbegins last hlast hbefore c rfl
    rw [hword] at hfirst
    cases hfirst
  · exact hends.of_blanks hgap hnil

/-- What is read of a text is a piece of it, and what is left comes after that piece. -/
theorem exists_piece_of_next? {token : Token} (h : next? text = some (token, rest))
    (hbegins : ∀ last ∈ before, isWordChar last = true → ∀ c ∈ text.head?, isWordChar c = false) :
    ∃ (gap : List Char) (piece : Piece), text = gap ++ (piece.raw ++ rest) ∧
      (∀ c ∈ gap, isBlank c = true) ∧ piece.WellFormed ∧
      piece.Between (gap.getLast?.or before) rest.head? := by
  cases hdrop : text.dropWhile isBlank with
  | nil =>
    rw [next?_of_blanks (List.dropWhile_eq_nil_iff.1 hdrop)] at h
    cases h
  | cons c tail =>
    have htext : text = text.takeWhile isBlank ++ c :: tail := by
      rw [← hdrop, List.takeWhile_append_dropWhile]
    have hgap : ∀ c ∈ text.takeWhile isBlank, isBlank c = true := fun c => List.mem_takeWhile_imp
    rw [next?_of_dropWhile hdrop] at h
    split_ifs at h with hquote hcontrol
    · rcases exists_body_or_openBody c tail with ⟨raw, body, after, rfl, hbody⟩ | ⟨body, hopen⟩
      · rw [readQuoted_body (ne_backslash_of_isQuote hquote) hbody] at h
        cases h
        refine ⟨_, .quoted c raw body, htext.trans ?_, hgap, ⟨hquote, hbody⟩, trivial⟩
        simp [Piece.raw]
      · rw [readQuoted_openBody hopen] at h
        cases h
        refine ⟨_, .unclosed c tail body, htext.trans ?_, hgap, ⟨hquote, hopen⟩, rfl⟩
        simp [Piece.raw]
    · cases h
      exact ⟨_, .control c, htext, hgap, hcontrol, trivial⟩
    · cases h
      have hword : isWordChar c = true := isWordChar_iff.2
        ⟨isBlank_of_dropWhile hdrop, Bool.eq_false_iff.2 hquote, Bool.eq_false_iff.2 hcontrol⟩
      have hrun : ∀ d ∈ c :: tail.takeWhile isWordChar, isWordChar d = true :=
        List.forall_mem_cons.2 ⟨hword, fun d => List.mem_takeWhile_imp⟩
      rw [htext] at hbegins
      refine ⟨_, .word (c :: tail.takeWhile isWordChar), htext.trans ?_, hgap,
        ⟨List.cons_ne_nil _ _, hrun⟩, Piece.between_word hword hgap hbegins⟩
      rw [Piece.raw, List.cons_append, List.takeWhile_append_dropWhile]

theorem exists_pieces (text : List Char) (before : Option Char)
    (hbegins : ∀ last ∈ before, isWordChar last = true → ∀ c ∈ text.head?, isWordChar c = false) :
    ∃ pieces, Pieces before text pieces := by
  induction text using scan.induct generalizing before with
  | case1 text hnext =>
    refine ⟨[], .blanks (List.dropWhile_eq_nil_iff.1 ?_)⟩
    cases hdrop : text.dropWhile isBlank with
    | nil => rfl
    | cons c tail =>
      rw [next?_of_dropWhile hdrop] at hnext
      split_ifs at hnext
      split at hnext <;> cases hnext
  | case2 text token rest hnext ih =>
    obtain ⟨gap, piece, rfl, hgap, hpiece, hbetween⟩ := exists_piece_of_next? hnext hbegins
    obtain ⟨pieces, hpieces⟩ := ih _ (hbetween.isWordChar_eq_false hpiece)
    exact ⟨piece :: pieces, .piece hgap hpiece hbetween hpieces⟩

/-- Blanks before a text are blanks before its first piece, whatever came before them. -/
theorem Pieces.blanks_append {other : Option Char} (h : Pieces other text pieces)
    (hgap : ∀ c ∈ gap, isBlank c = true) (hne : gap ≠ []) : Pieces before (gap ++ text) pieces := by
  cases h with
  | blanks hblanks => exact .blanks (List.forall_mem_append.2 ⟨hgap, hblanks⟩)
  | piece hblanks hpiece hbetween hrest =>
    rw [← List.append_assoc]
    have hall := List.forall_mem_append.2 ⟨hgap, hblanks⟩
    refine .piece hall hpiece (hbetween.of_blanks hall ?_) hrest
    exact List.append_ne_nil_of_left_ne_nil hne _

/-- A piece that ends by itself ends as well before a blank. -/
theorem Piece.Between.append_blanks (h : piece.Between before rest.head?)
    (hclosed : ¬piece.IsUnclosed) (hgap : ∀ c ∈ gap, isBlank c = true) (hne : gap ≠ [])
    (more : List Char) : piece.Between before (rest ++ (gap ++ more)).head? := by
  cases piece with
  | word run =>
    refine ⟨h.1, fun c hc => ?_⟩
    cases rest with
    | nil =>
      obtain ⟨first, gap, rfl⟩ := List.exists_cons_of_ne_nil hne
      cases hc
      exact isWordChar_of_isBlank (hgap c List.mem_cons_self)
    | cons first rest => exact h.2 c hc
  | quoted _ _ _ | control _ => exact trivial
  | unclosed _ _ _ => exact absurd trivial hclosed

/-- Texts with blanks between them are put together from the pieces of both, unless a quote of the
first one is still open. -/
theorem Pieces.append_blanks {other : Option Char} {more : List Char} {others : List Piece}
    (h : Pieces before text pieces) (hclosed : ∀ piece ∈ pieces, ¬piece.IsUnclosed)
    (hgap : ∀ c ∈ gap, isBlank c = true) (hne : gap ≠ []) (hmore : Pieces other more others) :
    Pieces before (text ++ (gap ++ more)) (pieces ++ others) := by
  induction h with
  | blanks hblanks =>
    rw [← List.append_assoc]
    exact hmore.blanks_append (List.forall_mem_append.2 ⟨hblanks, hgap⟩)
      (List.append_ne_nil_of_right_ne_nil _ hne)
  | piece hblanks hpiece hbetween _ ih =>
    obtain ⟨hfirst, hrest⟩ := List.forall_mem_cons.1 hclosed
    rw [List.append_assoc, List.append_assoc]
    exact .piece hblanks hpiece (hbetween.append_blanks hfirst hgap hne more) (ih hrest)

end Scan

theorem not_leavesOpen_of_forall_ne_stray {line : String}
    (h : ∀ text, .stray text ∉ ofLine line) : ¬LeavesOpen line := by
  rintro ⟨pieces, hpieces, piece, hmem, hopen⟩
  cases piece with
  | unclosed mark raw text =>
    refine h (String.ofList text) ?_
    rw [ofLine, hpieces.scan_eq]
    exact List.mem_append_left _ (List.mem_map_of_mem hmem)
  | word | quoted | control => exact hopen

/-- Every character of a line has its place in a piece or in the blanks around the pieces. There is
one way to put the line together from pieces, and the tokens of the line are theirs, with the end of
the line after them and nowhere else. So the tokens of a line that leaves no quote open are the
first ones of every line that goes on with it and a blank, and the others are those of what comes
after the blank. -/
theorem line_is_its_pieces (line : String) :
    (∃ pieces, Pieces none line.toList pieces ∧
      (∀ others, Pieces none line.toList others → others = pieces) ∧
      ofLine line = pieces.map Piece.token ++ [.endOfLine] ∧
      .endOfLine ∉ pieces.map Piece.token) ∧
    (¬LeavesOpen line → ∀ gap more : String, gap ≠ "" → (∀ c ∈ gap.toList, isBlank c = true) →
      ofLine (line ++ gap ++ more) = (ofLine line).dropLast ++ ofLine more) := by
  obtain ⟨pieces, hpieces⟩ := exists_pieces line.toList none nofun
  refine ⟨⟨pieces, hpieces, fun others hothers => hothers.unique hpieces, hpieces.scan_eq, ?_⟩,
    fun hclosed gap more hne hgap => ?_⟩
  · rw [List.mem_map]
    rintro ⟨piece, -, hpiece⟩
    cases piece <;> cases hpiece
  · obtain ⟨others, hothers⟩ := exists_pieces more.toList none nofun
    have hall : ∀ piece ∈ pieces, ¬piece.IsUnclosed := fun piece hmem hopen =>
      hclosed ⟨pieces, hpieces, piece, hmem, hopen⟩
    have hgap_ne : gap.toList ≠ [] := fun hnil => hne (String.toList_eq_nil_iff.1 hnil)
    have htogether := hpieces.append_blanks hall hgap hgap_ne hothers
    rw [ofLine, String.toList_append, String.toList_append, List.append_assoc, htogether.scan_eq,
      ofLine, hpieces.scan_eq, ofLine, hothers.scan_eq, List.dropLast_concat, List.map_append,
      List.append_assoc]

/-- A quoted text that is glued to a word ends with its quote, and the quote in it does not count.
What comes after a tab does not change this. -/
theorem closed_line_goes_on :
    let line := "set topbar='it\\'s'"
    ¬LeavesOpen line ∧ "\t" ≠ "" ∧ (∀ c ∈ "\t".toList, isBlank c = true) ∧
      ofLine line = [.word "set", .word "topbar=", .quoted "it's", .endOfLine] ∧
      ofLine (line ++ "\t" ++ "\"open") =
        [.word "set", .word "topbar=", .quoted "it's", .stray "open", .endOfLine] := by
  intro line
  have htokens : ofLine line = [.word "set", .word "topbar=", .quoted "it's", .endOfLine] := by
    decide +kernel
  have hclosed : ¬LeavesOpen line := by
    refine not_leavesOpen_of_forall_ne_stray fun text hmem => ?_
    rw [htokens] at hmem
    simp at hmem
  have hblank : ∀ c ∈ "\t".toList, isBlank c = true := List.all_eq_true.1 rfl
  have hmore : ofLine "\"open" = [.stray "open", .endOfLine] := by decide +kernel
  refine ⟨hclosed, by decide, hblank, htokens, ?_⟩
  rw [(line_is_its_pieces line).2 hclosed "\t" "\"open" (by decide) hblank, htokens, hmore]
  rfl

end Jukebox.Token
