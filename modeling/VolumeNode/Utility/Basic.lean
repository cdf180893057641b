import VolumeNode.Execution.Query
import VolumeNode.Execution.Loader
import VolumeNode.Text.Octets

/-!
# Writing the programs of the host

A program reads and writes octets, which it handles as characters. It reads until nothing is left;
the number of its reads is bounded by its patience.
-/

namespace VolumeNode.Utility

open Execution

/-- A part of a program. -/
abbrev Part (α : Type) :=
  Program Query.interface α

/-- How often a program reads or writes at most. -/
def patience : Nat :=
  1000000

/-- The octets that are read at once. -/
def blockSize : Nat :=
  65536

/-- The descriptor under which a program opens its files. -/
def fileDescriptor : Nat :=
  9

/-- Reads octets; none at the end. -/
def read (fd count : Nat) : Part (Except Errno (List Char)) :=
  (Query.read fd count).take.bind fun r => .done (Except.map Text.ofOctets r)

/-- Writes octets. -/
def write (fd : Nat) (cs : List Char) : Part (Except Errno Unit) :=
  if cs.isEmpty then .done (.ok ()) else (Query.write fd (Text.toOctets cs)).take

/-- Writes a text to the output for failures. -/
def complain (s : String) : Part Unit := do
  let _ ← write 2 (Text.octetsOf s)

/-- Ends with a status. -/
def exit (n : Nat) : Part ExitStatus :=
  .done (.code n)

/-- Ends a program that is used wrongly. -/
def usage (name problem : String) : Part ExitStatus := do
  complain (name ++ ": " ++ problem ++ "\nTry '" ++ name ++ " --help' for more information.\n")
  exit 1

/-- Writes to the output and ends. -/
def answer (name : String) (cs : List Char) : Part ExitStatus := do
  match ← write 1 cs with
  | .ok () => exit 0
  | .error e => do
    complain (name ++ ": write error: " ++ e.wording ++ "\n")
    exit 1

/-- Passes octets on until nothing is left. -/
def passOn (fd : Nat) : Nat → Part (Except Errno Unit)
  | 0 => .done (.ok ())
  | n + 1 => do
    match ← read fd blockSize with
    | .error e => .done (.error e)
    | .ok [] => .done (.ok ())
    | .ok cs =>
      match ← write 1 cs with
      | .error e => .done (.error e)
      | .ok () => passOn fd n

/-- Everything that is left to be read. -/
def readAll (fd : Nat) : Nat → List (List Char) → Part (Except Errno (List Char))
  | 0, blocks => .done (.ok blocks.reverse.flatten)
  | n + 1, blocks => do
    match ← read fd blockSize with
    | .error e => .done (.error e)
    | .ok [] => .done (.ok blocks.reverse.flatten)
    | .ok cs => readAll fd n (cs :: blocks)

/-- Opens the file of a program; a dash is the input. -/
def openInput (path : String) : Part (Except Errno Nat) :=
  if path = "-" then .done (.ok 0)
  else
    (Query.openFile fileDescriptor path .read).take.bind fun r =>
      .done (Except.map (fun _ => fileDescriptor) r)

/-- The value of decimal digits. -/
def number? (s : String) : Option Nat :=
  if !s.isEmpty && s.toList.all Char.isDigit then
    some (s.toList.foldl (fun n c => n * 10 + (c.toNat - 0x30)) 0)
  else none

end VolumeNode.Utility
