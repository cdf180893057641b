import VolumeNode.Host.Tree
import VolumeNode.Node.Action
import VolumeNode.Execution.Signal
import VolumeNode.Program

/-!
# What a process may ask

A process is a program of questions: it reads and writes under descriptors, changes the file tree, makes
other processes, waits for them and signals them. A process that forks goes on as two, each with its
own answer.
-/

namespace VolumeNode.Execution

/-- For what a file is opened. -/
inductive Access where
  | read
  /-- From the start, the old content being dropped. -/
  | write
  /-- Behind the old content. -/
  | append
  | both
  deriving DecidableEq, Repr

/-- A change of the file tree. -/
inductive TreeChange where
  | removeFile (path : String)
  /-- With everything below. -/
  | removeAll (path : String)
  | removeDirectory (path : String)
  | makeDirectory (path : String) (mode : Nat)
  | makeFile (path : String)
  | makeLink (path target : String)
  | setMode (path : String) (mode : Nat)
  deriving DecidableEq, Repr

/-- What a process does about a signal. -/
inductive Disposition where
  | byDefault
  | ignored
  | noted
  deriving DecidableEq, Repr

/-- What a wait for a process ends with. -/
inductive Waited where
  | ended (s : ExitStatus)
  | noChild
  /-- A signal came that the process takes note of. -/
  | interrupted
  deriving DecidableEq, Repr

/-- A question of a process. -/
inductive Query where
  | read (fd count : Nat)
  | write (fd : Nat) (octets : Output)
  | openFile (fd : Nat) (path : String) (access : Access)
  /-- A text to be read. -/
  | offer (fd : Nat) (octets : Output)
  | close (fd : Nat)
  | copy (source fd : Nat)
  | pipe (readEnd writeEnd : Nat)
  | descriptors
  | restore (table : List (Nat × Nat))
  | fork
  | wait (pid : Nat) (interruptible : Bool)
  /-- For so many nanoseconds, or for ever. -/
  | sleep (nanos : Option Nat)
  | signal (target : Int) (number : Nat)
  /-- The signals that were taken note of. -/
  | noted
  | dispose (number : Nat) (d : Disposition)
  | identity
  | inspect (path : String) (follow : Bool)
  | names (path : String)
  | change (c : TreeChange)
  | enter (path : String)
  /-- Another program takes the place of this one; there is an answer only if that fails. -/
  | exec (program : String) (arguments : List String) (environment : List (String × String))
  deriving DecidableEq, Repr

namespace Query

/-- What each question is answered with. -/
def Answer : Query → Type
  | read _ _ => Except Errno Output
  | write _ _ => Except Errno Unit
  | openFile _ _ _ => Except Errno Unit
  | copy _ _ => Except Errno Unit
  | descriptors => List (Nat × Nat)
  | fork => Option Nat
  | wait _ _ => Waited
  | signal _ _ => Except Errno Unit
  | noted => List Nat
  | identity => Nat
  | inspect _ _ => Except Errno Host.Entry
  | names _ => Except Errno (List String)
  | change _ => Except Errno Unit
  | enter _ => Except Errno Unit
  | exec _ _ _ => Errno
  | offer _ _ | close _ | pipe _ _ | restore _ | sleep _ | dispose _ _ => Unit

/-- The questions of a process. -/
def interface : Interface where
  Question := Query
  Answer := Answer

/-- The program that asks one question. -/
def take (c : Query) : Program interface c.Answer :=
  .single (I := interface) c

end Query

/-- The descriptors below this are passed on to another program that takes over. -/
def inheritedBelow : Nat :=
  10

/-- A process, up to the answers it gets. -/
abbrev Body :=
  Program Query.interface ExitStatus

end VolumeNode.Execution
