/-
# Blocks of characters

Which characters have some property is told by a table of blocks, in the order of the code points.
-/

namespace Jukebox.Text

/-- Whether a code point lies in one of the blocks, whose ends belong to them. -/
def inBlocks (blocks : List (Nat × Nat)) (n : Nat) : Bool :=
  blocks.any fun (first, last) => first ≤ n && n ≤ last

end Jukebox.Text
