import VolumeNode.Shell.Field
import VolumeNode.Shell.Script
import VolumeNode.Text.Octets

/-!
# What a shell knows

The parameters, the functions and the settings of a shell, and how a part of it asks the kernel. Main
statement: `lookup?_assign`: an assignment changes one variable.
-/

namespace VolumeNode.Shell

open Execution

/-- A variable. -/
structure Variable where
  value : List Char
  /-- Whether other programs get it. -/
  exported : Bool := false
  /-- Whether it keeps its value for good. -/
  fixed : Bool := false

/-- What a shell knows. -/
structure State where
  /-- What the shell was called, or the path of the script. -/
  name : List Char
  arguments : List (List Char) := []
  bindings : List (List Char × Variable) := []
  functions : List (List Char × Command) := []
  /-- The status of the last command. -/
  status : Nat := 0
  /-- The last process in the background. -/
  background : Option Nat := none
  /-- The processes in the background that nobody has waited for. -/
  children : List Nat := []
  /-- All processes that were put into the background. -/
  started : List Nat := []
  pid : Nat := 0
  line : Nat := 1
  /-- How many loops the command stands in. -/
  loops : Nat := 0
  exitOnFailure : Bool := false
  strict : Bool := false
  plainNames : Bool := false
  /-- Whether commands are shown before they run. -/
  traced : Bool := false
  /-- Whether somebody looks at the status of the command. -/
  tested : Bool := false
  /-- What is done about a signal; number 0 is the end of the shell. -/
  traps : List (Nat × List Char) := []
  /-- The values that variables of functions had outside, the innermost function first. -/
  outer : List (List (List Char × Option Variable)) := []

namespace State

/-- The decimal digits of a number. -/
def digits (n : Nat) : List Char :=
  Nat.toDigits 10 n

/-- The value of a variable. -/
def lookup? (s : State) (name : List Char) : Option Variable :=
  s.bindings.lookup name

/-- The letters of the settings. -/
def letters (s : State) : List Char :=
  (if s.strict then ['u'] else []) ++ (if s.traced then ['x'] else [])
    ++ (if s.plainNames then ['f'] else []) ++ (if s.exitOnFailure then ['e'] else [])

/-- The value of a parameter, if it is set. -/
def value? (s : State) (name : List Char) : Option (List Char) :=
  match name with
  | ['?'] => some (digits s.status)
  | ['#'] => some (digits s.arguments.length)
  | ['$'] => some (digits s.pid)
  | ['!'] => s.background.map digits
  | ['-'] => some s.letters
  | ['0'] => some s.name
  | ['@'] | ['*'] =>
    if s.arguments.isEmpty then none else some ([' '].intercalate s.arguments)
  | c :: _ =>
    if c.isDigit then
      s.arguments[name.foldl (fun n c => n * 10 + (c.toNat - 0x30)) 0 - 1]?
    else (s.lookup? name).map (·.value)
  | [] => none

/-- The shell after an assignment. -/
def assign (s : State) (name value : List Char) : State :=
  let exported := ((s.lookup? name).map (·.exported)).getD false
  { s with bindings := (name, ⟨value, exported, false⟩) :: s.bindings.filter (·.1 != name) }

/-- The shell without a variable. -/
def unset (s : State) (name : List Char) : State :=
  { s with bindings := s.bindings.filter (·.1 != name) }

/-- The shell with a variable as it was. -/
def reset (s : State) (saved : List Char × Option Variable) : State :=
  match saved with
  | (name, none) => s.unset name
  | (name, some v) => { s with bindings := (name, v) :: s.bindings.filter (·.1 != name) }

/-- The shell after a variable has been handed to other programs. -/
def «export» (s : State) (name : List Char) : State :=
  match s.lookup? name with
  | some v => s.reset (name, some { v with exported := true })
  | none => s

/-- The shell after a variable has got its value for good. -/
def fix (s : State) (name : List Char) : State :=
  match s.lookup? name with
  | some v => s.reset (name, some { v with fixed := true })
  | none => s

/-- The characters at which values fall into fields. -/
def separators (s : State) : List Char :=
  ((s.lookup? ['I', 'F', 'S']).map (·.value)).getD [' ', '\t', '\n']

/-- The environment of other programs. -/
def environment (s : State) : List (String × String) :=
  s.bindings.filterMap fun (name, v) =>
    if v.exported then some (Text.textOf name, Text.textOf v.value) else none

theorem lookup?_assign (s : State) (name value other : List Char) :
    (s.assign name value).lookup? other =
      if other = name then some ⟨value, ((s.lookup? name).map (·.exported)).getD false, false⟩
      else s.lookup? other := by
  split
  next h => simp [assign, lookup?, h]
  next h =>
    have hfilter (bs : List (List Char × Variable)) :
        (bs.filter (·.1 != name)).lookup other = bs.lookup other := by
      induction bs with
      | nil => rfl
      | cons b bs ih =>
        by_cases hb : b.1 = name
        · rw [List.filter_cons_of_neg (by simp [hb]), ih, List.lookup_cons,
            beq_false_of_ne (hb ▸ h)]
        · rw [List.filter_cons_of_pos (by simp [hb]), List.lookup_cons, List.lookup_cons, ih]
    have hne : (other == name) = false := by simp [h]
    simp only [assign, lookup?, List.lookup_cons, hne, hfilter]

end State

/-- How a command ends that does not run to its end. -/
inductive Stop where
  /-- Leaves so many loops. -/
  | leave (n : Nat)
  /-- Goes on with the next round of a loop, so many loops out. -/
  | again (n : Nat)
  /-- Returns from a function. -/
  | back
  /-- Ends the shell. -/
  | exit
  deriving DecidableEq, Repr

/-- A part of a shell. -/
abbrev M (α : Type) :=
  ExceptT Stop (StateT State (Program Query.interface)) α

/-- Asks the kernel. -/
def ask (c : Query) : M c.Answer :=
  ExceptT.lift (StateT.lift c.take)

/-- Sets the status. -/
def setStatus (n : Nat) : M Unit :=
  modify fun s => { s with status := n }

/-- Writes octets; whether that worked. -/
def say (fd : Nat) (cs : List Char) : M Bool := do
  if cs.isEmpty then return true
  else
    match ← ask (.write fd (Text.toOctets cs)) with
    | .ok () => return true
    | .error _ => return false

/-- Says what is wrong, and where. -/
def complainAt (line : Nat) (message : String) : M Unit := do
  let place := Text.textOf (← get).name ++ ": " ++ toString line ++ ": "
  let _ ← say 2 (Text.octetsOf (place ++ message ++ "\n"))

/-- Says what is wrong. -/
def complain (message : String) : M Unit := do
  complainAt (← get).line message

/-- Ends the shell for a mistake. -/
def abort {α : Type} (message : String) : M α := do
  complain message
  setStatus 2
  throw .exit

/-- Ends the shell if a variable keeps its value for good. -/
def guardVariable (place : String) (name : List Char) : M Unit := do
  if ((← get).lookup? name).any (·.fixed) then
    abort (place ++ Text.textOf name ++ ": is read only")

/-- Assigns. -/
def setVariable (place : String) (name value : List Char) : M Unit := do
  guardVariable place name
  modify fun s => s.assign name value

/-- Says which signal ended a process, unless nobody wants to know. -/
def announce (status : ExitStatus) : M Unit := do
  match status with
  | .signal n dumped =>
    match SignalEntry.ofNumber? n with
    | some s =>
      if s.name = "INT" || s.name = "PIPE" then pure ()
      else do
        let _ ← say 2 (Text.octetsOf (s.wording ++ ExitStatus.dumpRemark dumped ++ "\n"))
    | none => pure ()
  | .code _ => pure ()

/-- Goes on for ever. -/
def endless {α : Type} : M α := do
  ask (.sleep none)
  throw .exit

/-- Undoes something after a part of the shell, however it ends. -/
def finally_ {α : Type} (body : M α) (undo : M Unit) : M α := do
  let a ← tryCatch body fun stop => do
    undo
    throw stop
  undo
  return a

end VolumeNode.Shell
