import VolumeNode.Host.Instances
import VolumeNode.Host.Mounts
import VolumeNode.Host.Step
import VolumeNode.Node.Lifecycle
import VolumeNode.Node.Locks
import VolumeNode.Execution.Runner

/-!
# Rehearsal hosts

A host on which volume calls can be rehearsed: a file tree, a mount table and an image tool, all of
them values. Its answers may be told in advance; what is not told is answered as a host would. It
keeps a record of the tool runs and the system calls. Main statements:

* `Distinct.answer`: no step gives a target a second source or two instances one name.
* `Distinct.perform`: so no call does.
-/

namespace VolumeNode

namespace Host

/-- What runs the image tool. -/
inductive Runner where
  /-- The tool is a value. -/
  | rehearsed
  /-- The tool is a program in the file tree. -/
  | processes
  deriving DecidableEq, Repr

/-- A told answer to an inspection. -/
inductive Inspection where
  | mounted (b : Bool)
  | fails (e : Errno)
  /-- The host is to look for itself. -/
  | look
  deriving DecidableEq, Repr

/-- Answers told in advance, in order. -/
structure Script where
  replies : List (Except VolumeError Output) := []
  inspections : List Inspection := []
  /-- The error number of each system call, 0 for one that goes on. -/
  errnos : List Int := []

/-- A system call and the error number it ended with, 0 for none. -/
structure SystemRecord where
  call : SystemCall
  errno : Int
  deriving DecidableEq, Repr

end Host

/-- A host. -/
structure Host where
  tree : Host.Tree := Host.Tree.fresh
  mounts : Host.Mounts := []
  instances : Host.Instances := []
  locks : Node.LockTable := .empty
  script : Host.Script := {}
  runner : Host.Runner := .rehearsed
  /-- Whether a target in the mount table looks mounted. -/
  tableShows : Bool := true
  /-- The tool runs, the last first. -/
  toolLog : List Command := []
  /-- The system calls, the last first. -/
  systemLog : List Host.SystemRecord := []

namespace Host

/-- Whether a target looks mounted. -/
def look (h : Host) (target : String) : Except FileError Bool := do
  let mounted ← h.tree.looksMounted target
  .ok (mounted || (h.tableShows && h.mounts.has target))

/-- An inspection. -/
def inspect (h : Host) (target : String) : Except FileError Bool × Host :=
  match h.script.inspections with
  | [] => (h.look target, h)
  | i :: rest =>
    let h := { h with script := { h.script with inspections := rest } }
    match i with
    | .mounted b => (.ok b, h)
    | .fails e => (.error (.os e), h)
    | .look => (h.look target, h)

/-- A run of the image tool. -/
def runTool (h : Host) (c : Command) : Except VolumeError Output × Host :=
  let h := { h with toolLog := c :: h.toolLog }
  match h.runner with
  | .processes =>
    let (r, tree) := Execution.run c h.tree
    (r, { h with tree := tree })
  | .rehearsed =>
    match h.script.replies with
    | r :: rest => (r, { h with script := { h.script with replies := rest } })
    | [] =>
      let (r, instances) := h.instances.run c.arguments
      (r, { h with instances := instances })

/-- A system call. -/
def system (h : Host) (c : SystemCall) : Except Errno Unit × Host :=
  let told := h.script.errnos.headD 0
  let (r, mounts) := h.mounts.answer told c
  let errno := match r with
    | .ok () => 0
    | .error e => e.code
  (r, { h with
    mounts := mounts
    script := { h.script with errnos := h.script.errnos.drop 1 }
    systemLog := ⟨c, errno⟩ :: h.systemLog })

/-- How a host answers each step. -/
def answer : Program.World Step.interface Host
  | .enter volume, h =>
    let (t, locks) := h.locks.enter volume
    (t, { h with locks := locks })
  | .acquire t, h => ((), { h with locks := h.locks.acquire t })
  | .release t, h => ((), { h with locks := h.locks.release t })
  | .discard volume, h => ((), { h with locks := h.locks.discard volume })
  | .inspect target, h => h.inspect target
  | .runTool c, h => h.runTool c
  | .create target mode, h =>
    let (tree, r) := h.tree.createTarget target mode
    (r, { h with tree := tree })
  | .system c, h => h.system c

/-- The result of a volume call on a host where no other call goes on. -/
def perform {α : Type} (h : Host) (p : Program Action.interface α) : α × Host :=
  (onHost p).run answer h

/-- The response to a request. -/
def handle (h : Host) (c : Config) (r : Request) : Response × Host :=
  h.perform (Node.handle c r)

/-- No two instances have one name, and no target has two sources. -/
structure Distinct (h : Host) : Prop where
  instances : h.instances.names.Nodup
  mounts : h.mounts.targets.Nodup

theorem Distinct.inspect {h : Host} (hd : h.Distinct) (target : String) :
    (h.inspect target).2.Distinct := by
  unfold Host.inspect
  split
  · exact hd
  · dsimp only
    split <;> exact ⟨hd.instances, hd.mounts⟩

theorem Distinct.runTool {h : Host} (hd : h.Distinct) (c : Command) : (h.runTool c).2.Distinct := by
  unfold Host.runTool
  dsimp only
  split
  · exact ⟨hd.instances, hd.mounts⟩
  · split
    · exact ⟨hd.instances, hd.mounts⟩
    · exact ⟨Instances.nodup_run hd.instances c.arguments, hd.mounts⟩

/-- Every answer of a host keeps names and targets apart. -/
theorem Distinct.answer {h : Host} (hd : h.Distinct) (q : Step) : (answer q h).2.Distinct := by
  cases q with
  | enter | acquire | release | discard | create => exact ⟨hd.instances, hd.mounts⟩
  | inspect target => exact hd.inspect target
  | runTool c => exact hd.runTool c
  | system c => exact ⟨hd.instances, Mounts.nodup_answer hd.mounts _ c⟩

/-- So does every volume call. -/
theorem Distinct.perform {α : Type} {h : Host} (hd : h.Distinct) (p : Program Action.interface α) :
    (h.perform p).2.Distinct :=
  (onHost p).run_keeps (fun q _ hd => hd.answer q) hd

end Host

end VolumeNode
