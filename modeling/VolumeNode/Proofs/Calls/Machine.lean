import VolumeNode.Host.Step
import VolumeNode.Proofs.Calls.Questions
import VolumeNode.Proofs.Execution.Processes

/-!
# Calls on a machine

On a machine a run of the image tool is a run of a command: it is started or not, it goes its course in
time or not, and what it writes is read or not. Everything else is answered as on any host.

* `exists_ending`: a program in the file tree ends in one of the ways that are told apart here.
* `onMachine_andThen`: a call goes on on a machine as its parts do.
* `Machine.systemCalls_andThen`: so does a program of system calls.
-/

namespace VolumeNode

namespace Execution

/-- How a run of a command ends. -/
inductive Ending where
  /-- The command could not be started. -/
  | notStarted (reason : String)
  /-- Its output could not be read, or its end could not be waited for. -/
  | lost (e : FileError)
  /-- The command went its course. -/
  | ran (v : Verdict)

/-- The result of a command that ends so. -/
def Ending.result (c : Command) : Ending → Except VolumeError Output
  | notStarted reason => .error (Execution.notStarted c reason)
  | lost e => .error (.file e)
  | ran v => v.result c

theorem Ending.result_of_success {c : Command} {status : ExitStatus} {output : Output}
    (h : status.success = true) : (ran (.finished status output)).result c = .ok output :=
  if_pos h

theorem Ending.result_of_not_success {c : Command} {status : ExitStatus} {output : Output}
    (h : status.success = false) :
    (ran (.finished status output)).result c =
      .error (.processFailure c.line status.text (Text.Utf8.decodeLossy output)) :=
  if_neg (by simp [h])

/-- A program in the file tree ends in one of these ways. -/
theorem exists_ending (c : Command) (t : Host.Tree) : ∃ e : Ending, (run c t).1 = e.result c := by
  rcases run_cases c t with ⟨reason, h⟩ | ⟨_, v, -, -, -, h⟩
  · exact ⟨.notStarted reason, h⟩
  · exact ⟨.ran v, h⟩

end Execution

namespace Node

open Execution (Ending)
open Host (Step)

/-- What each step is answered with on a machine. -/
def Machine.Answer : Step → Type
  | .enter _ => Ticket
  | .acquire _ | .release _ | .discard _ => Unit
  | .inspect _ => Except FileError Bool
  | .runTool _ => Ending
  | .create _ _ => Except FileError Unit
  | .system _ => Except Errno Unit

/-- The steps of a volume call on a machine. -/
def Machine.interface : Interface where
  Question := Step
  Answer := Machine.Answer

/-- One step on a machine. -/
def Machine.single (q : Step) : Program Machine.interface (Machine.Answer q) :=
  .single (I := Machine.interface) q

/-- What a call learns of a step on a machine. -/
def Machine.report : (q : Step) → Program Machine.interface q.Answer
  | .enter volume => single (.enter volume)
  | .acquire t => single (.acquire t)
  | .release t => single (.release t)
  | .discard volume => single (.discard volume)
  | .inspect target => single (.inspect target)
  | .runTool c => (single (.runTool c)).bind fun e => .done (e.result c)
  | .create target mode => single (.create target mode)
  | .system c => single (.system c)

/-- A volume call on a machine. -/
def onMachine {α : Type} (p : Program Action.interface α) : Program Machine.interface α :=
  (Host.onHost p).translate (I := Step.interface) Machine.report

variable {α β : Type}

theorem onMachine_bind (p : Program Action.interface α) (f : α → Program Action.interface β) :
    onMachine (p.bind f) = (onMachine p).bind fun a => onMachine (f a) := by
  unfold onMachine
  rw [onHost_bind]
  exact Program.translate_bind ..

theorem onMachine_andThen (p : Call α) (f : α → Call β) :
    onMachine (p.andThen f) = (onMachine p).andThen fun a => onMachine (f a) := by
  unfold onMachine
  rw [onHost_andThen]
  exact Program.translate_andThen ..

/-- A program of system calls on a machine. -/
def Machine.systemCalls (p : Program SystemCall.interface α) : Program Machine.interface α :=
  (Host.systemCalls p).translate (I := Step.interface) Machine.report

theorem onMachine_bindRoot {t root : String} {readOnly : Bool} {extra : List String} :
    onMachine (Target.bindRoot t root readOnly extra) =
      Machine.systemCalls
        (SystemCall.mounting root t none (MountOptions.forBind readOnly extra)) := by
  unfold onMachine
  rw [onHost_bindRoot]
  rfl

/-- On a machine, an unmount is what the system calls for it are. -/
theorem onMachine_unmount {t : String} :
    onMachine (Action.unmount t).take = Machine.systemCalls (SystemCall.unmounting t) := by
  unfold onMachine
  rw [onHost_take]
  rfl

namespace Machine

theorem systemCalls_bind (p : Program SystemCall.interface α)
    (f : α → Program SystemCall.interface β) :
    systemCalls (p.bind f) = (systemCalls p).bind fun a => systemCalls (f a) := by
  unfold systemCalls
  rw [Node.systemCalls_bind]
  exact Program.translate_bind ..

theorem systemCalls_andThen {ε : Type} (p : Program SystemCall.interface (Except ε α))
    (f : α → Program SystemCall.interface (Except ε β)) :
    systemCalls (p.andThen f) = (systemCalls p).andThen fun a => systemCalls (f a) := by
  unfold systemCalls
  rw [Node.systemCalls_andThen]
  exact Program.translate_andThen ..

end Machine

end Node

end VolumeNode
