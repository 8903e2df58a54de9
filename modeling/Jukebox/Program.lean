/-
# The program by name

The name and the version that the program goes by: on the screen, in paths, and in what it says of
itself.
-/

namespace Jukebox.Program

/-- The name of the program. -/
def name : String := "pms-rs"

/-- The version of the program. -/
def version : String := "0.1.0"

end Jukebox.Program
