/-
# Splitting, searching and comparing

Cutting a text at a mark, taking a fixed start or end off it, looking for one text in another, and
the order of texts, which is that of their characters' code points.
The work is done on lists of characters; a mark never belongs to the parts it separates.
-/

namespace Jukebox.Text

/-- The part before the first place where `mark` occurs and the part after that occurrence. -/
def splitAtFirst (mark : List Char) : List Char → Option (List Char × List Char)
  | [] => if mark.isEmpty then some ([], []) else none
  | c :: rest =>
    if mark.isPrefixOf (c :: rest) then some ([], (c :: rest).drop mark.length)
    else (splitAtFirst mark rest).map fun (before, after) => (c :: before, after)

/-- Splits a text at the first occurrence of `mark`, which belongs to neither part. -/
def splitOnce (text mark : String) : Option (String × String) :=
  (splitAtFirst mark.toList text.toList).map fun (before, after) =>
    (String.ofList before, String.ofList after)

/-- What follows `start` in a text that begins with it. -/
def afterStart? (text start : String) : Option String :=
  if start.toList.isPrefixOf text.toList then
    some (String.ofList (text.toList.drop start.length))
  else none

theorem afterStart?_eq_some_iff {text start rest : String} :
    afterStart? text start = some rest ↔ text = start ++ rest := by
  unfold afterStart?
  split
  · next h =>
    obtain ⟨tail, htail⟩ := List.isPrefixOf_iff_prefix.1 h
    have htext : text = start ++ String.ofList tail := by
      rw [← String.toList_inj, String.toList_append, String.toList_ofList, htail]
    have hdrop : text.toList.drop start.length = tail := by
      rw [← htail, ← String.length_toList, List.drop_left]
    rw [hdrop, htext, String.append_right_inj, Option.some.injEq]
  · next h =>
    refine ⟨nofun, ?_⟩
    rintro rfl
    refine absurd (List.isPrefixOf_iff_prefix.2 ?_) h
    rw [String.toList_append]
    exact List.prefix_append _ _

/-- What precedes `tail` in a text that ends with it. -/
def beforeEnd? (text tail : String) : Option String :=
  if tail.toList.isSuffixOf text.toList then
    some (String.ofList (text.toList.take (text.length - tail.length)))
  else none

/-- The parts of a text between the occurrences of the character `mark`; there is one more part
than there are marks. -/
def splitChars (mark : Char) : List Char → List (List Char)
  | [] => [[]]
  | c :: rest =>
    if c = mark then [] :: splitChars mark rest
    else match splitChars mark rest with
      | [] => [[c]]
      | part :: parts => (c :: part) :: parts

/-- A line without the carriage return that may stand before the newline that ends it. -/
def withoutReturn (line : List Char) : List Char :=
  if line.getLast? = some '\r' then line.dropLast else line

/-- The lines of a text. Each ends with a newline, which may have a carriage return before it; the
last one may lack it. -/
def lines (text : String) : List String :=
  let parts := splitChars '\n' text.toList
  let last := parts.getLast?.getD []
  (parts.dropLast.map withoutReturn ++ if last = [] then [] else [last]).map String.ofList

/-- Whether `needle` occurs in the text, anywhere. -/
def occursIn (needle : List Char) : List Char → Bool
  | [] => needle.isEmpty
  | c :: rest => needle.isPrefixOf (c :: rest) || occursIn needle rest

/-- Whether the first of two texts does not come after the second. -/
def notAfter (a b : String) : Bool := !(b < a)

end Jukebox.Text
