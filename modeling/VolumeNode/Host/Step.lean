import VolumeNode.Mount.SystemCall
import VolumeNode.Node.Action

/-!
# Steps of a call on a host

On a host a mount or an unmount of a volume call is a program of system calls; every other action is
one step.
-/

namespace VolumeNode.Host

/-- One step of a volume call on a host. -/
inductive Step where
  | enter (volume : String)
  | acquire (t : Ticket)
  | release (t : Ticket)
  | discard (volume : String)
  | inspect (target : String)
  | runTool (c : Command)
  | create (target : String) (mode : Nat)
  | system (c : SystemCall)
  deriving DecidableEq, Repr

namespace Step

/-- What each step is answered with. -/
def Answer : Step → Type
  | enter _ => Ticket
  | acquire _ | release _ | discard _ => Unit
  | inspect _ => Except FileError Bool
  | runTool _ => Except VolumeError Output
  | create _ _ => Except FileError Unit
  | system _ => Except Errno Unit

/-- The steps of a volume call on a host. -/
def interface : Interface where
  Question := Step
  Answer := Answer

end Step

/-- A program of system calls as a part of a volume call. -/
def systemCalls {α : Type} (p : Program SystemCall.interface α) : Program Step.interface α :=
  p.translate (J := Step.interface) fun c => .single (I := Step.interface) (.system c)

/-- The steps of an action. -/
def lower : (a : Action) → Program Step.interface a.Answer
  | .enter volume => .single (I := Step.interface) (.enter volume)
  | .acquire t => .single (I := Step.interface) (.acquire t)
  | .release t => .single (I := Step.interface) (.release t)
  | .discard volume => .single (I := Step.interface) (.discard volume)
  | .inspect target => .single (I := Step.interface) (.inspect target)
  | .runTool c => .single (I := Step.interface) (.runTool c)
  | .create target mode => .single (I := Step.interface) (.create target mode)
  | .mount source target fsType options =>
    systemCalls (SystemCall.mounting source target fsType options)
  | .unmount target => systemCalls (SystemCall.unmounting target)

/-- A volume call on a host. -/
def onHost {α : Type} (p : Program Action.interface α) : Program Step.interface α :=
  p.translate (I := Action.interface) lower

end VolumeNode.Host
