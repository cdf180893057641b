import VolumeNode.Host.Path
import VolumeNode.Execution.Kernel
import VolumeNode.Execution.Supervision
import VolumeNode.Utility.Programs

/-!
# Running a command

A command that can be started leads a group of processes of its own; its input is empty, and what it
and its children write is kept in order. A command that is not there, or that holds NUL, fails before it
starts.
-/

namespace VolumeNode.Execution

open Host

/-- The number of the process that runs a command. -/
def leaderPid : Nat :=
  2

/-- So many rounds are simulated at most. -/
def maxRounds : Nat :=
  1000000

/-- The kernel in front of the first step of a command. -/
def boot (t : Tree) (image : Image) : Kernel :=
  { tree := t
    opened := [(0, .device "null"), (1, .captured)]
    processes :=
      [{ pid := leaderPid
         parent := 1
         descriptors := [(0, 0), (1, 1), (2, 1)]
         directory := t.current
         activity := .running (Utility.run image) }]
    leader := leaderPid
    fresh := leaderPid + 1 }

/-- The environment of a command. -/
def environment : List (String × String) :=
  [("PATH", ":".intercalate Loader.directories)]

/-- The failure of a command that does not start. -/
def notStarted (c : Command) (reason : String) : VolumeError :=
  .processFailure c.line ("failed to start: " ++ reason) ""

/-- How the kernel answers about the command that leads its processes. A killed process has ended at once,
so that nobody waits for it. -/
def supervised : Program.World Supervision.interface Kernel
  | .killGroup, k => k.send (-(k.leader : Int)) killSignal
  | .killCommand, k => k.send k.leader killSignal
  | .reap _, k => ((k.process? k.leader).all fun p => p.activity.isEnded, k)

/-- The result of a command, and the file tree behind it. -/
def run (c : Command) (t : Tree) : Except VolumeError Output × Tree :=
  if (c.program :: c.arguments).any Path.hasNul then
    (.error (notStarted c "nul byte found in provided data"), t)
  else
    match Loader.find t c.program c.arguments with
    | .error e => (.error (notStarted c e.systemText), t)
    | .ok image =>
      let k := (boot t { image with environment := environment }).simulate Utility.run
        (c.limit.map Duration.totalNanos) maxRounds
      let (result, k) := (supervise c k.events.reverse).run supervised k
      (result.getD (Verdict.overdue.result c), k.tree)

end VolumeNode.Execution
