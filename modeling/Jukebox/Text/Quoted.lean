/-
# Quoted text

A text between double quotes, in which a backslash stands before every double quote and every
backslash of the text. Undoing it finds the end of the text at the first double quote that has no
backslash before it.
-/

namespace Jukebox.Text

/-- Puts a backslash before every double quote and every backslash. -/
def escape : List Char → List Char
  | [] => []
  | c :: rest => if c = '"' ∨ c = '\\' then '\\' :: c :: escape rest else c :: escape rest

/-- The text between double quotes, escaped so that it ends at the last of them. -/
def enquote (text : String) : String :=
  String.ofList ('"' :: escape text.toList ++ ['"'])

/-- Reads an escaped text up to the double quote that ends it, and gives what follows that. -/
def unescape? : List Char → Option (List Char × List Char)
  | [] => none
  | '"' :: rest => some ([], rest)
  | ['\\'] => none
  | '\\' :: c :: rest => (unescape? rest).map fun (text, after) => (c :: text, after)
  | c :: rest => (unescape? rest).map fun (text, after) => (c :: text, after)

theorem unescape?_escape (text rest : List Char) :
    unescape? (escape text ++ '"' :: rest) = some (text, rest) := by
  induction text with
  | nil => simp [escape, unescape?]
  | cons c text ih =>
    by_cases h : c = '"' ∨ c = '\\'
    · simp [escape, h, unescape?, ih]
    · simp only [escape, h, if_false, List.cons_append]
      rw [unescape?.eq_def]
      split
      · simp_all
      · simp_all
      · simp_all
      · simp_all
      · simp_all

end Jukebox.Text
