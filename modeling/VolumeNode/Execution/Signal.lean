/-!
# Signals and exit statuses

A process ends with a status of its own or by a signal, which may leave an image of it.
-/

namespace VolumeNode.Execution

/-- What a signal does to a process that has not said otherwise. -/
inductive SignalEffect where
  | ends
  | stops
  | resumes
  | nothing
  deriving DecidableEq, Repr

/-- A signal that the system has. -/
structure SignalEntry where
  number : Nat
  name : String
  /-- What is said of a process that it ended. -/
  wording : String
  effect : SignalEffect := .ends
  deriving DecidableEq, Repr

namespace SignalEntry

/-- The signals of the system. -/
def all : List SignalEntry :=
  [{ number := 1, name := "HUP", wording := "Hangup" },
   { number := 2, name := "INT", wording := "Interrupt" },
   { number := 3, name := "QUIT", wording := "Quit" },
   { number := 4, name := "ILL", wording := "Illegal instruction" },
   { number := 5, name := "TRAP", wording := "Trace/breakpoint trap" },
   { number := 6, name := "ABRT", wording := "Aborted" },
   { number := 7, name := "BUS", wording := "Bus error" },
   { number := 8, name := "FPE", wording := "Floating point exception" },
   { number := 9, name := "KILL", wording := "Killed" },
   { number := 10, name := "USR1", wording := "User defined signal 1" },
   { number := 11, name := "SEGV", wording := "Segmentation fault" },
   { number := 12, name := "USR2", wording := "User defined signal 2" },
   { number := 13, name := "PIPE", wording := "Broken pipe" },
   { number := 14, name := "ALRM", wording := "Alarm clock" },
   { number := 15, name := "TERM", wording := "Terminated" },
   { number := 16, name := "STKFLT", wording := "Stack fault" },
   { number := 17, name := "CHLD", wording := "Child exited", effect := .nothing },
   { number := 18, name := "CONT", wording := "Continued", effect := .resumes },
   { number := 19, name := "STOP", wording := "Stopped (signal)", effect := .stops },
   { number := 20, name := "TSTP", wording := "Stopped", effect := .stops },
   { number := 21, name := "TTIN", wording := "Stopped (tty input)", effect := .stops },
   { number := 22, name := "TTOU", wording := "Stopped (tty output)", effect := .stops },
   { number := 23, name := "URG", wording := "Urgent I/O condition", effect := .nothing },
   { number := 24, name := "XCPU", wording := "CPU time limit exceeded" },
   { number := 25, name := "XFSZ", wording := "File size limit exceeded" },
   { number := 26, name := "VTALRM", wording := "Virtual timer expired" },
   { number := 27, name := "PROF", wording := "Profiling timer expired" },
   { number := 28, name := "WINCH", wording := "Window changed", effect := .nothing },
   { number := 29, name := "IO", wording := "I/O possible" },
   { number := 30, name := "PWR", wording := "Power failure" },
   { number := 31, name := "SYS", wording := "Bad system call" }]

/-- The signal of a number. -/
def ofNumber? (n : Nat) : Option SignalEntry :=
  all.find? (·.number == n)

/-- All signals have numbers up to this one. -/
def greatest : Nat :=
  64

/-- What a shell calls the signal of a number; number 0 is the end of the shell. -/
def label (n : Nat) : String :=
  if n = 0 then "EXIT"
  else if n = 16 || n = 32 || n = 33 then toString n
  else
    match ofNumber? n with
    | some s => s.name
    | none =>
      if n = 34 then "RTMIN"
      else if n < 50 then "RTMIN+" ++ toString (n - 34)
      else if n < greatest then "RTMAX-" ++ toString (greatest - n)
      else "RTMAX"

end SignalEntry

/-- The signal that no process survives. -/
def killSignal : Nat :=
  9

/-- The signal for a write that nobody will read. -/
def pipeSignal : Nat :=
  13

/-- How a process ended. -/
inductive ExitStatus where
  | code (n : Nat)
  /-- By a signal, with an image of the process or without. -/
  | signal (n : Nat) (dumped : Bool)
  deriving DecidableEq, Repr, Inhabited

namespace ExitStatus

/-- Whether the process succeeded. -/
def success : ExitStatus → Bool
  | code 0 => true
  | _ => false

/-- The remark that an image of a process is left. -/
def dumpRemark (dumped : Bool) : String :=
  if dumped then " (core dumped)" else ""

/-- The text of a status. -/
def text : ExitStatus → String
  | code n => "exit status: " ++ toString n
  | signal n dumped =>
    let name := match SignalEntry.ofNumber? n with
      | some s => " (SIG" ++ s.name ++ ")"
      | none => ""
    "signal: " ++ toString n ++ name ++ dumpRemark dumped

/-- What a shell sees of a status. -/
def shellCode : ExitStatus → Nat
  | code n => n
  | signal n _ => 128 + n

end ExitStatus

end VolumeNode.Execution
