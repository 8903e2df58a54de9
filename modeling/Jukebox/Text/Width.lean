/-
# Adding up widths

Text on a screen is measured in columns. Here is how many columns texts cover that stand next to
each other, given how many each of them covers.
-/

namespace Jukebox.Text

/-- The columns that texts of these widths cover together. -/
def totalWidth (widths : List Nat) : Nat := widths.foldr (· + ·) 0

@[simp] theorem totalWidth_nil : totalWidth [] = 0 := rfl

@[simp] theorem totalWidth_cons (width : Nat) (widths : List Nat) :
    totalWidth (width :: widths) = width + totalWidth widths := rfl

@[simp] theorem totalWidth_append (left right : List Nat) :
    totalWidth (left ++ right) = totalWidth left + totalWidth right := by
  induction left with
  | nil => simp
  | cons width widths ih => simp [ih, Nat.add_assoc]

end Jukebox.Text
