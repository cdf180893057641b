import VolumeNode.Shell.Session
import VolumeNode.Utility.Files
import VolumeNode.Utility.Streams

/-!
# The programs of the host

Every program that the file tree provides is written here. Main statement: `provided_subset`: none of
them is missing.
-/

namespace VolumeNode.Utility

open Execution

/-- The programs besides the shell, under their names. -/
def table : List (String × (List String → Part ExitStatus)) :=
  [("true", fun _ => exit 0), ("false", fun _ => exit 1), ("echo", echo), ("printf", printf),
   ("cat", cat), ("head", head), ("tail", tail), ("tr", tr), ("wc", wc), ("yes", yes), ("seq", seq),
   ("sleep", sleep), ("sort", sort), ("tee", tee), ("rm", rm), ("rmdir", rmdir), ("mkdir", mkdir),
   ("touch", touch), ("ln", ln), ("chmod", chmod), ("ls", ls), ("basename", basename),
   ("dirname", dirname)]

/-- The names of the shell. -/
def shells : List String :=
  ["sh", "dash"]

/-- What a program does. -/
def run (image : Image) : Body :=
  if shells.contains image.utility then Shell.main image
  else
    match table.lookup image.utility with
    | some program => program (image.arguments.drop 1)
    | none => exit 127

/-- None of the programs that the file tree provides is missing. -/
theorem provided_subset : ∀ u ∈ Host.Tree.utilities, u ∈ shells ∨ (table.lookup u).isSome = true := by
  decide +kernel

end VolumeNode.Utility
