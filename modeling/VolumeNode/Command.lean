import VolumeNode.Duration

/-!
# Commands

A command is a program with arguments and, perhaps, a limit on its time. Main statement:
`line_eq_intercalate`: the line of a command is its words with one space between them.
-/

namespace VolumeNode

/-- A program, its arguments and its limit. -/
structure Command where
  program : String
  arguments : List String
  limit : Option Duration := none
  deriving DecidableEq, Repr, Inhabited

namespace Command

/-- The command as one line; nothing is quoted. -/
def line (c : Command) : String :=
  c.arguments.foldl (fun s a => s ++ " " ++ a) c.program

theorem line_eq_intercalate (c : Command) : c.line = " ".intercalate (c.program :: c.arguments) := by
  obtain ⟨program, arguments, _⟩ := c
  simp only [line]
  induction arguments generalizing program with
  | nil => simp
  | cons a rest ih => simp [ih, String.intercalate_cons_cons]

end Command

end VolumeNode
