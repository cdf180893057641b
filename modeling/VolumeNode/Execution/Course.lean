import VolumeNode.Command
import VolumeNode.Node.Action
import VolumeNode.Execution.Signal
import VolumeNode.Text.Utf8
import VolumeNode.VolumeError

/-!
# The course of a command

A command that has started writes, ends, and leaves its output open as long as anybody holds it. It
is finished when it has ended and its output is closed; if its time is over before that, it is
overdue.
-/

namespace VolumeNode.Execution

/-- What can happen to a command that has started. -/
inductive Event where
  /-- The command or a child of it has written. -/
  | wrote (octets : Output)
  /-- Nobody holds the output any more. -/
  | closed
  /-- The command itself has ended. -/
  | exited (s : ExitStatus)
  /-- The time of the command is over. -/
  | deadline
  deriving DecidableEq, Repr

/-- What has been seen of a command. -/
structure Watch where
  /-- What was written, the last piece first. -/
  pieces : List Output := []
  closed : Bool := false
  status : Option ExitStatus := none
  deriving DecidableEq, Repr, Inhabited

/-- How the course of a command is understood. -/
inductive Verdict where
  | finished (s : ExitStatus) (output : Output)
  | overdue
  deriving DecidableEq, Repr

namespace Watch

/-- Everything that was written, in order. -/
def output (w : Watch) : Output :=
  w.pieces.reverse.flatten

/-- What is seen after an event. -/
def see (w : Watch) : Event → Watch
  | .wrote octets => { w with pieces := octets :: w.pieces }
  | .closed => { w with closed := true }
  | .exited s => { w with status := some s }
  | .deadline => w

/-- The verdict, once the command has ended and its output is closed. -/
def done? (w : Watch) : Option Verdict :=
  if w.closed then w.status.map fun s => .finished s w.output else none

/-- The verdict on a course; none as long as the command goes on. -/
def verdict? (w : Watch) : List Event → Option Verdict
  | [] => w.done?
  | e :: rest =>
    match w.done? with
    | some v => some v
    | none => if e = .deadline then some .overdue else (w.see e).verdict? rest

theorem verdict?_of_done {w : Watch} {v : Verdict} (h : w.done? = some v) (es : List Event) :
    w.verdict? es = some v := by
  cases es <;> simp [verdict?, h]

end Watch

namespace Verdict

/-- The result of a command. -/
def result (c : Command) : Verdict → Except VolumeError Output
  | finished s output =>
    if s.success then .ok output
    else .error (.processFailure c.line s.text (Text.Utf8.decodeLossy output))
  | overdue => .error (.timeout c.line (c.limit.getD .zero))

end Verdict

end VolumeNode.Execution
