import VolumeNode.Execution.Course

/-!
# Supervising a command

A command that has started is left alone until there is a verdict on its course. One that is overdue is
killed with everything that it has started, and waited for, before that is reported. Main statement:
`run_supervise`: the result is that of the verdict, whatever becomes of the signals.
-/

namespace VolumeNode.Execution

/-- What is asked of the kernel about a command that has started. -/
inductive Supervision where
  /-- Kills the command with everything that it has started. -/
  | killGroup
  /-- Kills the command itself. -/
  | killCommand
  /-- Waits for the command itself to end, for so long at most. -/
  | reap (grace : Duration)
  deriving DecidableEq, Repr

namespace Supervision

/-- What each question is answered with; a wait, with whether the command has ended. -/
def Answer : Supervision → Type
  | killGroup | killCommand => Except Errno Unit
  | reap _ => Bool

/-- The questions about a command that has started. -/
def interface : Interface where
  Question := Supervision
  Answer := Answer

/-- The program that asks one question. -/
def take (q : Supervision) : Program interface q.Answer :=
  .single (I := interface) q

/-- For how long a command that was killed is waited for. -/
def killGrace : Duration :=
  ⟨5, 0⟩

/-- Kills the command itself if that is still to be done. -/
def killUnless (done : Bool) : Program interface Unit :=
  if done then .done () else killCommand.take.bind fun _ => .done ()

/-- Kills a command, by itself only if its group cannot be killed. A command that has not ended after a
while is killed once more when it is given up. -/
def terminate : Program interface Unit :=
  killGroup.take.bind fun (killed : Except Errno Unit) =>
    (killUnless killed.isOk).bind fun _ =>
      (reap killGrace).take.bind fun (ended : Bool) => killUnless ended

end Supervision

open Supervision (terminate)

/-- What follows from a verdict, with the result of the command. -/
def conclude (c : Command) : Verdict → Program Supervision.interface (Except VolumeError Output)
  | .finished s output => .done ((Verdict.finished s output).result c)
  | .overdue => terminate.bind fun _ => .done (Verdict.overdue.result c)

/-- A command that goes such a course, with its result; none as long as it goes on. -/
def supervise (c : Command) (es : List Event) :
    Program Supervision.interface (Option (Except VolumeError Output)) :=
  match ({} : Watch).verdict? es with
  | some v => (conclude c v).bind fun r => .done (some r)
  | none => .done none

/-- The result is that of the verdict, whatever becomes of the signals. -/
theorem run_supervise {σ : Type} (w : Program.World Supervision.interface σ) (c : Command)
    (es : List Event) (s : σ) :
    ((supervise c es).run w s).1 = (({} : Watch).verdict? es).map (Verdict.result c) := by
  unfold supervise
  cases ({} : Watch).verdict? es with
  | none => rfl
  | some v =>
    dsimp only
    rw [Program.run_bind]
    cases v with
    | finished status output => rfl
    | overdue =>
      rw [conclude, Program.run_bind]
      rfl

end VolumeNode.Execution
