import VolumeNode.Execution.Query
import VolumeNode.Execution.Course
import VolumeNode.Execution.Loader

/-!
# The kernel under the processes

The kernel keeps the processes, what their descriptors lead to, the pipes, the file tree and the time.
It answers a question at once or lets the process wait.
-/

namespace VolumeNode.Execution

open Host

/-- What a descriptor leads to. -/
inductive Opened where
  /-- The output of the command. -/
  | captured
  /-- A text, of which so much is left. -/
  | text (rest : Output)
  | pipeEnd (pipe : Nat) (writes : Bool)
  | file (p : Place) (offset : Nat) (reads writes appends : Bool)
  | device (name : String)
  deriving DecidableEq, Repr

/-- What a process is doing. -/
inductive Activity where
  | running (rest : Body)
  /-- Until a time, or for ever. -/
  | asleep (wake : Option Nat) (rest : Body)
  | stopped (rest : Body)
  | ended (s : ExitStatus)

/-- Whether a process has ended. -/
def Activity.isEnded : Activity → Bool
  | ended _ => true
  | _ => false

/-- A process. Its descriptors have numbers of their own; what they lead to may be shared. -/
structure Process where
  pid : Nat
  parent : Nat
  descriptors : List (Nat × Nat)
  dispositions : List (Nat × Disposition) := []
  noted : List Nat := []
  directory : Place
  activity : Activity

/-- Everything that the processes share. -/
structure Kernel where
  now : Nat := 0
  tree : Tree
  opened : List (Nat × Opened)
  pipes : List (Nat × Output) := []
  processes : List Process
  /-- The group of all processes, and the process that leads it. -/
  leader : Nat
  /-- All numbers in use are smaller. -/
  fresh : Nat
  /-- What has happened, the last first. -/
  events : List Event := []

/-- The list with another value for a number. -/
def assign {α : Type} (table : List (Nat × α)) (n : Nat) (a : α) : List (Nat × α) :=
  (n, a) :: table.filter (·.1 != n)

namespace Kernel

/-- A pipe takes no more when so much is in it. -/
def pipeSize : Nat :=
  65536

/-- The process of a number. -/
def process? (k : Kernel) (pid : Nat) : Option Process :=
  k.processes.find? (·.pid == pid)

/-- The kernel after a change of one process. -/
def update (k : Kernel) (pid : Nat) (f : Process → Process) : Kernel :=
  { k with processes := k.processes.map fun p => if p.pid = pid then f p else p }

/-- What a descriptor of a process leads to. -/
def lookup (k : Kernel) (p : Process) (fd : Nat) : Option (Nat × Opened) :=
  (p.descriptors.lookup fd).bind fun id => (k.opened.lookup id).map fun o => (id, o)

/-- The kernel after something that is open has changed. -/
def reopen (k : Kernel) (id : Nat) (o : Opened) : Kernel :=
  { k with opened := assign k.opened id o }

/-- Opens something under a descriptor of a process. -/
def install (k : Kernel) (pid fd : Nat) (o : Opened) : Kernel :=
  ({ k with opened := (k.fresh, o) :: k.opened, fresh := k.fresh + 1 }).update pid fun p =>
    { p with descriptors := assign p.descriptors fd k.fresh }

/-- Whether a process has a descriptor for something of a kind. -/
def isHeld (k : Kernel) (kind : Opened → Bool) : Bool :=
  k.processes.any fun p => p.descriptors.any fun d => (k.opened.lookup d.2).any kind

/-- The two ends of a pipe. -/
def isEnd (pipe : Nat) (writes : Bool) : Opened → Bool
  | .pipeEnd n w => n == pipe && w == writes
  | _ => false

/-- The output of the command. -/
def isCaptured : Opened → Bool
  | .captured => true
  | _ => false

/-- Ends a process; its descriptors are closed. -/
def finish (k : Kernel) (pid : Nat) (s : ExitStatus) : Kernel :=
  let k := k.update pid fun p => { p with descriptors := [], activity := .ended s }
  if pid = k.leader then { k with events := .exited s :: k.events } else k

/-- Goes on with a process, unless it has ended or was stopped meanwhile. -/
def resume (k : Kernel) (pid : Nat) (rest : Body) : Kernel :=
  k.update pid fun p =>
    match p.activity with
    | .running _ | .asleep _ _ => { p with activity := .running rest }
    | .stopped _ => { p with activity := .stopped rest }
    | .ended s => { p with activity := .ended s }

/-- A stopped process goes on. -/
def wakeUp (p : Process) : Process :=
  match p.activity with
  | .stopped rest => { p with activity := .running rest }
  | _ => p

/-- A process stops. -/
def halt (p : Process) : Process :=
  match p.activity with
  | .running rest | .asleep _ rest => { p with activity := .stopped rest }
  | _ => p

/-- Delivers a signal to a process. No image is left of a process that it ends. -/
def deliver (k : Kernel) (number : Nat) (p : Process) : Kernel :=
  if p.activity.isEnded then k
  else
    match (p.dispositions.lookup number).getD .byDefault with
    | .ignored => k
    | .noted => k.update p.pid fun p => { p with noted := p.noted ++ [number] }
    | .byDefault =>
      match ((SignalEntry.ofNumber? number).map SignalEntry.effect).getD .ends with
      | .ends => k.finish p.pid (.signal number false)
      | .stops => k.update p.pid halt
      | .resumes => k.update p.pid wakeUp
      | .nothing => k

/-- The processes that a signal is meant for. -/
def targets (k : Kernel) (target : Int) : List Process :=
  if 0 < target then k.processes.filter fun p => (p.pid : Int) == target
  else if target = 0 ∨ target = -(k.leader : Int) then k.processes
  else []

/-- Sends a signal; number 0 only asks whether there is a process for it. -/
def send (k : Kernel) (target : Int) (number : Nat) : Except Errno Unit × Kernel :=
  match k.targets target with
  | [] => (.error .noProcess, k)
  | ps => (.ok (), if number = 0 then k else ps.foldl (fun k q => k.deliver number q) k)

/-- The text of the file with the state of a process. -/
def statText (k : Kernel) (p : Process) : Output :=
  let fields := [toString p.pid, "(sh)", "S", toString p.parent, toString k.leader,
    toString k.leader, "0", "-1"] ++ List.replicate 44 "0"
  Text.Utf8.encode (" ".intercalate fields ++ "\n")

/-- The process whose directory a path names, with the rest of the path. -/
def processPath? (k : Kernel) (p : Process) (path : String) : Option (Process × List String) :=
  match Path.pieces path with
  | "" :: "proc" :: name :: rest =>
    if name = "self" then some (p, rest)
    else (k.processes.find? fun q => toString q.pid == name).map fun q => (q, rest)
  | _ => none

/-- The file tree as a process sees it. -/
def treeOf (k : Kernel) (p : Process) : Tree :=
  { k.tree with current := p.directory }

/-- The kernel with another file tree. -/
def withTree (k : Kernel) (t : Tree) : Kernel :=
  { k with tree := { t with current := k.tree.current } }

/-- The permission bits of a new file. -/
def fileMode : Nat :=
  0o644

/-- Opens a file. -/
def openFile (k : Kernel) (p : Process) (fd : Nat) (path : String) (access : Access) :
    Except Errno Unit × Kernel :=
  match k.processPath? p path with
  | some (q, ["stat"]) => (.ok (), k.install p.pid fd (.text (k.statText q)))
  | _ =>
    let t := k.treeOf p
    let opened? (place : Place) (size : Nat) : Opened :=
      .file place (if access = .append then size else 0) (access = .read || access = .both)
        (access != .read) (access = .append)
    match t.locate true path with
    | .ok (_, .device name) => (.ok (), k.install p.pid fd (.device name))
    | .ok (_, .directory _) =>
      if access = .read then (.ok (), k.install p.pid fd (.device "directory"))
      else (.error .isDirectory, k)
    | .ok (place, .file content mode) =>
      let k := if access = .write then k.withTree (t.put place (.file [] mode)) else k
      (.ok (), k.install p.pid fd (opened? place content.length))
    | .ok (_, .utility _) => (.ok (), k.install p.pid fd (.device "null"))
    | .ok _ => (.error ⟨6⟩, k)
    | .error e =>
      if access = .read then (.error (Loader.errnoOf e), k)
      else
        match t.writeFile path [] fileMode with
        | .error e => (.error (Loader.errnoOf e), k)
        | .ok t =>
          match t.locate true path with
          | .error e => (.error (Loader.errnoOf e), k)
          | .ok (place, _) => (.ok (), (k.withTree t).install p.pid fd (opened? place 0))

/-- The content of a file. -/
def contentAt (k : Kernel) (place : Place) : Output :=
  match k.tree.find? place with
  | some (.file content _) => content
  | _ => []

/-- Reads; none as long as there is nothing to be read. -/
def read (k : Kernel) (p : Process) (fd count : Nat) : Option (Except Errno Output × Kernel) :=
  match k.lookup p fd with
  | none => some (.error .badDescriptor, k)
  | some (id, o) =>
    match o with
    | .text rest => some (.ok (rest.take count), k.reopen id (.text (rest.drop count)))
    | .device "zero" => some (.ok (List.replicate count 0), k)
    | .device "directory" => some (.error .isDirectory, k)
    | .device _ => some (.ok [], k)
    | .file place offset true w a =>
      let octets := ((k.contentAt place).drop offset).take count
      some (.ok octets, k.reopen id (.file place (offset + octets.length) true w a))
    | .pipeEnd pipe false =>
      match (k.pipes.lookup pipe).getD [] with
      | [] => if k.isHeld (isEnd pipe true) then none else some (.ok [], k)
      | buffer =>
        some (.ok (buffer.take count), { k with pipes := assign k.pipes pipe (buffer.drop count) })
    | _ => some (.error .badDescriptor, k)

/-- The content of a file after octets were written into it. -/
def overwritten (content : Output) (offset : Nat) (octets : Output) : Output :=
  let front := content.take offset
  front ++ List.replicate (offset - front.length) 0 ++ octets
    ++ content.drop (offset + octets.length)

/-- Writes; none as long as there is no room. -/
def write (k : Kernel) (p : Process) (fd : Nat) (octets : Output) :
    Option (Except Errno Unit × Kernel) :=
  match k.lookup p fd with
  | none => some (.error .badDescriptor, k)
  | some (id, o) =>
    match o with
    | .captured => some (.ok (), { k with events := .wrote octets :: k.events })
    | .device "directory" => some (.error .badDescriptor, k)
    | .device _ => some (.ok (), k)
    | .file place offset r true a =>
      match k.tree.find? place with
      | some (.file content mode) =>
        let offset := if a then content.length else offset
        let k := k.reopen id (.file place (offset + octets.length) r true a)
        some (.ok (), k.withTree (k.tree.put place
          (.file (overwritten content offset octets) mode)))
      | _ => some (.ok (), k)
    | .pipeEnd pipe true =>
      if !k.isHeld (isEnd pipe false) then
        some (.error .brokenPipe, k.deliver pipeSignal p)
      else
        let buffer := (k.pipes.lookup pipe).getD []
        if pipeSize ≤ buffer.length then none
        else some (.ok (), { k with pipes := assign k.pipes pipe (buffer ++ octets) })
    | _ => some (.error .badDescriptor, k)

/-- The names in a directory. -/
def names (t : Tree) (path : String) : Except Errno (List String) :=
  match t.locate true path with
  | .error e => .error (Loader.errnoOf e)
  | .ok (place, .directory _) =>
    .ok ((t.entries.filterMap fun (q, _) =>
      if q.dropLast = place && !q.isEmpty then q.getLast? else none).mergeSort fun a b => a ≤ b)
  | .ok _ => .error .notDirectory

/-- The file tree after a change. -/
def change (t : Tree) : TreeChange → Except FileError Tree
  | .removeFile path => t.removeFile path
  | .removeAll path => do .ok (t.prune (← t.locate false path).1)
  | .removeDirectory path => do
    let (place, e) ← t.locate false path
    if !e.isDirectory then .error (.os .notDirectory)
    else if t.entries.any fun (q, _) => place.isPrefixOf q && q != place then
      .error (.os .notEmpty)
    else .ok (t.prune place)
  | .makeDirectory path mode => t.makeDirectory path mode
  | .makeFile path =>
    match t.locate true path with
    | .ok _ => .ok t
    | .error _ => t.writeFile path [] fileMode
  | .makeLink path target => t.place path (.link target)
  | .setMode path mode => t.setMode path mode

/-- Answers a question; none as long as the process has to wait. -/
def attempt (k : Kernel) (p : Process) : (c : Query) → Option (c.Answer × Kernel)
  | .read fd count => k.read p fd count
  | .write fd octets => k.write p fd octets
  | .openFile fd path access =>
    match path, access with
    | "/dev/stdin", _ | "/dev/stdout", _ | "/dev/stderr", _ =>
      let source := if path = "/dev/stdin" then 0 else if path = "/dev/stdout" then 1 else 2
      match p.descriptors.lookup source with
      | none => some (.error .noEntry, k)
      | some id =>
        some (.ok (), k.update p.pid fun p => { p with descriptors := assign p.descriptors fd id })
    | _, _ => some (k.openFile p fd path access)
  | .offer fd octets => some ((), k.install p.pid fd (.text octets))
  | .close fd =>
    some ((), k.update p.pid fun p => { p with descriptors := p.descriptors.filter (·.1 != fd) })
  | .copy source fd =>
    match p.descriptors.lookup source with
    | none => some (.error .badDescriptor, k)
    | some id =>
      some (.ok (), k.update p.pid fun p => { p with descriptors := assign p.descriptors fd id })
  | .pipe readEnd writeEnd =>
    let pipe := k.fresh
    let k := { k with fresh := k.fresh + 1, pipes := (pipe, []) :: k.pipes }
    some ((), (k.install p.pid readEnd (.pipeEnd pipe false)).install p.pid writeEnd
      (.pipeEnd pipe true))
  | .descriptors => some (p.descriptors, k)
  | .restore table => some ((), k.update p.pid fun p => { p with descriptors := table })
  | .fork => none
  | .wait pid interruptible =>
    match k.processes.find? fun q => q.pid == pid && q.parent == p.pid with
    | none => some (Waited.noChild, k)
    | some q =>
      match q.activity with
      | .ended s => some (Waited.ended s, { k with processes := k.processes.filter (·.pid != pid) })
      | _ => if interruptible && !p.noted.isEmpty then some (Waited.interrupted, k) else none
  | .sleep _ => none
  | .signal target number => some (k.send target number)
  | .noted => some (p.noted, k.update p.pid fun p => { p with noted := [] })
  | .dispose number d =>
    some ((), k.update p.pid fun p => { p with dispositions := assign p.dispositions number d })
  | .identity => some (p.pid, k)
  | .inspect path follow =>
    match k.processPath? p path with
    | some (_, []) => some (.ok (.directory 0o555), k)
    | some (_, ["stat"]) => some (.ok (.device "stat"), k)
    | _ =>
      match (k.treeOf p).locate follow path with
      | .ok (_, e) => some (.ok e, k)
      | .error e => some (.error (Loader.errnoOf e), k)
  | .names path => some (names (k.treeOf p) path, k)
  | .change c =>
    match change (k.treeOf p) c with
    | .ok t => some (.ok (), k.withTree t)
    | .error e => some (.error (Loader.errnoOf e), k)
  | .enter path =>
    match (k.treeOf p).locate true path with
    | .ok (place, .directory _) =>
      some (.ok (), k.update p.pid fun p => { p with directory := place })
    | .ok _ => some (.error .notDirectory, k)
    | .error e => some (.error (Loader.errnoOf e), k)
  | .exec _ _ _ => none

/-- What programs do. -/
abbrev Programs :=
  Image → Body

/-- The dispositions that a process keeps when another program takes over. -/
def kept (ds : List (Nat × Disposition)) : List (Nat × Disposition) :=
  ds.filter fun d => d.2 == .ignored

/-- Takes a process one question further; none if it has to wait or has nothing to do. -/
def advance (programs : Programs) (k : Kernel) (p : Process) : Option Kernel :=
  match p.activity with
  | .running (.done s) => some (k.finish p.pid s)
  | .running (.ask q next) =>
    match q, next with
    | .fork, next =>
      let child := { p with
        pid := k.fresh
        parent := p.pid
        noted := []
        activity := .running (next none) }
      some (({ k with
        processes := k.processes ++ [child]
        fresh := k.fresh + 1 }).resume p.pid (next (some k.fresh)))
    | .sleep nanos, next =>
      some (k.update p.pid fun p =>
        { p with activity := .asleep (nanos.map (k.now + ·)) (next ()) })
    | .exec program arguments environment, next =>
      match Loader.find (k.treeOf p) program arguments with
      | .error e => some (k.resume p.pid (next e))
      | .ok image =>
        some (k.update p.pid fun p =>
          { p with
            descriptors := p.descriptors.filter (·.1 < inheritedBelow)
            dispositions := kept p.dispositions
            noted := []
            activity := .running (programs { image with environment := environment }) })
    | q, next => (k.attempt p q).map fun (a, k) => k.resume p.pid (next a)
  | _ => none

/-- One question of each process that can get on, and whether there was any. -/
def round (programs : Programs) (k : Kernel) : Kernel × Bool :=
  k.processes.foldl
    (fun (k, moved) before =>
      match (k.process? before.pid).bind fun p => k.advance programs p with
      | some k => (k, true)
      | none => (k, moved))
    (k, false)

/-- The next time at which a process wakes up. -/
def nextWake? (k : Kernel) : Option Nat :=
  (k.processes.filterMap fun p =>
    match p.activity with
    | .asleep wake _ => wake
    | _ => none).min?

/-- The kernel at a later time. -/
def at_ (k : Kernel) (time : Nat) : Kernel :=
  { k with
    now := time
    processes := k.processes.map fun p =>
      match p.activity with
      | .asleep (some wake) rest =>
        if wake ≤ time then { p with activity := .running rest } else p
      | _ => p }

/-- Whether the leader has ended and nobody holds the output. -/
def isOver (k : Kernel) : Bool :=
  !k.isHeld isCaptured && (k.process? k.leader).all fun p => p.activity.isEnded

/-- The kernel after the command has finished, or when its time is over. So many rounds are made at
most; a command that needs more of them takes for ever. -/
def simulate (programs : Programs) (limit : Option Nat) : Nat → Kernel → Kernel
  | 0, k => { k with events := .deadline :: k.events }
  | n + 1, k =>
    if k.isOver then { k with events := .closed :: k.events }
    else
      match k.round programs with
      | (k, true) => simulate programs limit n k
      | (k, false) =>
        match k.nextWake? with
        | none => { k with events := .deadline :: k.events }
        | some time =>
          if limit.any (· ≤ time) then { k with events := .deadline :: k.events }
          else simulate programs limit n (k.at_ time)

end Kernel

end VolumeNode.Execution
