import VolumeNode.Command
import VolumeNode.Program
import VolumeNode.VolumeError

/-!
# Actions of a volume call

What a call may ask of the lock table, of the image tool, of the file tree and of the mounts. Each
is one step; between two of them the calls of other clients may go on.
-/

namespace VolumeNode

/-- The identity of a mutex. -/
abbrev Ticket := Nat

/-- What a command has written. -/
abbrev Output := List UInt8

/-- One step of a volume call. -/
inductive Action where
  /-- Looks up the mutex of a volume, or makes one. -/
  | enter (volume : String)
  /-- Waits until the mutex is free, and takes it. -/
  | acquire (t : Ticket)
  /-- Frees the mutex. -/
  | release (t : Ticket)
  /-- Removes the mutex of a volume if nobody else uses it. -/
  | discard (volume : String)
  /-- Asks whether the target looks like a mount point. -/
  | inspect (target : String)
  /-- Runs the image tool. -/
  | runTool (c : Command)
  /-- Creates the target, which then has exactly the given mode. -/
  | create (target : String) (mode : Nat)
  /-- Mounts a source with options. -/
  | mount (source target : String) (fsType : Option String) (options : List String)
  /-- Unmounts the target. -/
  | unmount (target : String)
  deriving DecidableEq, Repr

namespace Action

/-- What each step is answered with. -/
def Answer : Action → Type
  | enter _ => Ticket
  | acquire _ | release _ | discard _ => Unit
  | inspect _ => Except FileError Bool
  | runTool _ => Except VolumeError Output
  | create _ _ => Except FileError Unit
  | mount .. | unmount _ => Except VolumeError Unit

/-- The steps of a volume call. -/
def interface : Interface where
  Question := Action
  Answer := Answer

end Action

/-- A call, or a part of one, with its result. -/
abbrev Call (α : Type) :=
  Program Action.interface (Except VolumeError α)

/-- One step. -/
def Action.take (a : Action) : Program Action.interface a.Answer :=
  .single (I := Action.interface) a

end VolumeNode
