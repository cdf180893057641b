import VolumeNode.Shell.Arithmetic
import VolumeNode.Shell.Condition
import VolumeNode.Shell.State
import VolumeNode.Utility.Basic
import VolumeNode.Utility.Format

/-!
# Commands of the shell itself

The commands that a shell carries out itself and that run no other command.
-/

namespace VolumeNode.Shell.Builtin

open Execution Utility

/-- The value of decimal digits. -/
def number? (cs : List Char) : Option Nat :=
  if !cs.isEmpty && cs.all Char.isDigit then
    some (cs.foldl (fun n c => n * 10 + (c.toNat - 0x30)) 0)
  else none

/-- The value of decimal digits, perhaps behind a sign and between blanks, if it has 64 bits. -/
def integer? (cs : List Char) : Option Int :=
  let cs := cs.dropWhile Char.isWhitespace
  let cs := (cs.reverse.dropWhile Char.isWhitespace).reverse
  let value : Option Int := match cs with
    | '-' :: cs => (number? cs).map fun n => -(n : Int)
    | '+' :: cs => (number? cs).map fun n => (n : Int)
    | cs => (number? cs).map fun n => (n : Int)
  value.filter fun n => Arithmetic.wrap n == n

/-- Sets the status of a condition. -/
def setTruth (b : Bool) : M Unit :=
  setStatus (if b then 0 else 1)

/-- Writes to the output; a failure is said and is the status. -/
def answer (command : String) (cs : List Char) : M Unit := do
  if ← say 1 cs then setStatus 0
  else do
    complain (command ++ ": " ++ command ++ ": I/O error")
    setStatus 1

/-- Refuses a text that is no number. -/
def illegalNumber {α : Type} (command : String) (cs : List Char) : M α :=
  abort (command ++ ": Illegal number: " ++ Text.textOf cs)

/-- Writes the words with a blank between them, and an end of line. -/
def echo (words : List (List Char)) : M Unit :=
  let (newline, words) := match words with
    | ['-', 'n'] :: rest => (false, rest)
    | _ => (true, words)
  let rec join : List (List Char) → List Char × Bool
    | [] => ([], false)
    | [w] => Format.unescaped w
    | w :: rest =>
      let (cs, stop) := Format.unescaped w
      if stop then (cs, true)
      else
        let (tail, stop) := join rest
        (cs ++ ' ' :: tail, stop)
  let (cs, stop) := join words
  answer "echo" (cs ++ if newline && !stop then ['\n'] else [])

/-- Writes words in a format. -/
def printf (words : List (List Char)) : M Unit := do
  match if words.head? = some ['-', '-'] then words.drop 1 else words with
  | [] => do
    complain "printf: usage: printf format [arg ...]"
    setStatus 2
  | f :: words => do
    let r := Format.format f words
    r.problems.forM fun p => complain ("printf: " ++ p)
    answer "printf" r.output
    if r.refused then setStatus 2 else if !r.problems.isEmpty then setStatus 1

/-- The value of a condition. -/
def holds (command : String) : Condition → M Bool
  | .never => return false
  | .filled s => return !s.isEmpty
  | .blank s => return s.isEmpty
  | .terminal s => if (integer? s).isNone then illegalNumber command s else return false
  | .broken problem => abort (command ++ ": " ++ problem)
  | .denied c => return !(← holds command c)
  | .both a b => do
    let x ← holds command a
    let y ← holds command b
    return x && y
  | .either a b => do
    let x ← holds command a
    let y ← holds command b
    return x || y
  | .file letter path => do
    let followed := letter != 'h' && letter != 'L'
    match ← ask (.inspect (Text.textOf path) followed) with
    | .error _ => return false
    | .ok e =>
      match letter, e with
      | 'f', .file _ _ => return true
      | 'f', .utility _ => return true
      | 'd', .directory _ => return true
      | 's', .file content _ => return !content.isEmpty
      | 's', .directory _ => return true
      | 'x', .file _ mode => return mode &&& 0o111 != 0
      | 'x', .directory _ => return true
      | 'x', .utility _ => return true
      | 'h', .link _ => return true
      | 'L', .link _ => return true
      | 'S', .socket => return true
      | 'c', .device _ => return true
      | 'u', .file _ mode | 'u', .directory mode => return mode &&& 0o4000 != 0
      | 'g', .file _ mode | 'g', .directory mode => return mode &&& 0o2000 != 0
      | 'k', .file _ mode | 'k', .directory mode => return mode &&& 0o1000 != 0
      | 'e', _ | 'r', _ | 'w', _ | 'O', _ | 'G', _ => return true
      | _, _ => return false
  | .compare operator a b => do
    let numbers (f : Int → Int → Bool) : M Bool := do
      match integer? a with
      | none => illegalNumber command a
      | some x =>
        match integer? b with
        | none => illegalNumber command b
        | some y => return f x y
    match operator with
    | "=" => return a == b
    | "!=" => return a != b
    | "<" => return a < b
    | ">" => return b < a
    | "-nt" | "-ot" | "-ef" => return false
    | "-eq" => numbers fun x y => x == y
    | "-ne" => numbers fun x y => x != y
    | "-lt" => numbers fun x y => decide (x < y)
    | "-le" => numbers fun x y => decide (x ≤ y)
    | "-gt" => numbers fun x y => decide (y < x)
    | _ => numbers fun x y => decide (y ≤ x)

/-- Whether a condition holds. -/
def test (command : String) (words : List (List Char)) : M Unit := do
  setTruth (← holds command (Condition.parse words))

/-- The same with a closing bracket. -/
def bracket (words : List (List Char)) : M Unit := do
  if words.getLast? = some [']'] then test "[" words.dropLast
  else do
    complain "[: missing ]"
    setStatus 2

/-- Changes the current directory. -/
def cd (words : List (List Char)) : M Unit := do
  let path := words.headD ['/']
  match ← ask (.enter (Text.textOf path)) with
  | .ok () => setStatus 0
  | .error _ => do
    complain ("cd: can't cd to " ++ Text.textOf path)
    setStatus 2

/-- The options that words set or clear, and the words that are none. -/
def options (s : State) : List (List Char) → State × Option (List (List Char))
  | [] => (s, none)
  | ['-', '-'] :: rest => (s, some rest)
  | ('-' :: c :: cs) :: rest =>
    options ((c :: cs).foldl (fun s c => choose s c true) s) rest
  | ('+' :: c :: cs) :: rest =>
    options ((c :: cs).foldl (fun s c => choose s c false) s) rest
  | words => (s, some words)
where
  choose (s : State) (c : Char) (b : Bool) : State :=
    match c with
    | 'e' => { s with exitOnFailure := b }
    | 'x' => { s with traced := b }
    | 'u' => { s with strict := b }
    | 'f' => { s with plainNames := b }
    | _ => s

/-- The letters of all options. -/
def optionLetters : List Char :=
  ['e', 'f', 'I', 'i', 'm', 'n', 's', 'x', 'v', 'V', 'E', 'C', 'a', 'b', 'u', 'o', 'p']

/-- The first letter that is no option, in words that set options. -/
def illegalOption? (letters : List Char) : List (List Char) → Option Char
  | ['-', '-'] :: _ => none
  | ('-' :: cs) :: rest | ('+' :: cs) :: rest =>
    match cs.find? fun c => !letters.contains c with
    | some c => some c
    | none => if cs.isEmpty then none else illegalOption? letters rest
  | _ => none

/-- Sets options and arguments. -/
def set (words : List (List Char)) : M Unit := do
  match illegalOption? optionLetters words with
  | some c => abort ("set: Illegal option -" ++ Text.textOf [c])
  | none => pure ()
  let (s, arguments) := options (← get) words
  MonadStateOf.set { s with arguments := arguments.getD s.arguments, status := 0 }

/-- Drops arguments. -/
def shift (words : List (List Char)) : M Unit := do
  match (words.head?.map number?).getD (some 1) with
  | none => illegalNumber "shift" (words.headD [])
  | some n =>
    if (← get).arguments.length < n then abort "shift: can't shift that many"
    else modify fun s => { s with arguments := s.arguments.drop n, status := 0 }

/-- Unsets variables or functions. -/
def unset (words : List (List Char)) : M Unit := do
  match words with
  | ['-', 'f'] :: names =>
    modify fun s => { s with functions := s.functions.filter fun f => !names.contains f.1 }
  | _ => (words.filter (· != ['-', 'v'])).forM fun name => do
    guardVariable "unset: " name
    modify fun s => s.unset name
  setStatus 0

/-- The name and the value of a word that may be an assignment. -/
def splitAssignment (word : List Char) : List Char × Option (List Char) :=
  match word.span (· != '=') with
  | (name, _ :: value) => (name, some value)
  | (name, []) => (name, none)

/-- Assigns, and hands to other programs. -/
def «export» (words : List (List Char)) : M Unit := do
  words.forM fun word => do
    let (name, value) := splitAssignment word
    match value with
    | some v => setVariable "export: " name v
    | none => pure ()
    modify fun s => s.export name
  setStatus 0

/-- A text in quotes, as a shell reads it. -/
def quoted (cs : List Char) : List Char :=
  '\'' :: cs.flatMap (fun c => if c = '\'' then "'\"'\"'".toList else [c]) ++ ['\'']

/-- Assigns for good. -/
def readonly (words : List (List Char)) : M Unit := do
  if words.isEmpty then do
    let s ← get
    let fixed := s.bindings.filter fun b => b.2.fixed
    let fixed := fixed.mergeSort fun a b => String.ofList a.1 ≤ String.ofList b.1
    answer "readonly" (fixed.flatMap fun (name, v) =>
      "readonly ".toList ++ name ++ '=' :: quoted v.value ++ ['\n'])
  else do
    words.forM fun word => do
      match splitAssignment word with
      | (name, some value) => setVariable "readonly: " name value
      | _ => pure ()
      modify fun s => s.fix (splitAssignment word).1
    setStatus 0

/-- Makes variables of a function its own. -/
def «local» (words : List (List Char)) : M Unit := do
  match (← get).outer with
  | [] => abort "local: not in a function"
  | _ => do
    words.forM fun word => do
      let (name, value) := splitAssignment word
      modify fun s =>
        let s := { s with outer := match s.outer with
          | top :: rest => ((name, s.lookup? name) :: top) :: rest
          | [] => [] }
        s
      match value with
      | some v => setVariable "local: " name v
      | none => pure ()
    setStatus 0

/-- The octets of a line, and whether its end was read. A backslash hides the character behind it,
and an end of line behind it is dropped. -/
def readLine (raw : Bool) : Nat → List (Char × Bool) → M (List (Char × Bool) × Bool)
  | 0, cs => return (cs.reverse, false)
  | n + 1, cs => do
    match ← ask (.read 0 1) with
    | .ok [b] =>
      let c := Char.ofNat b.toNat
      if c = '\n' then return (cs.reverse, true)
      else if c = '\\' && !raw then do
        match ← ask (.read 0 1) with
        | .ok [b] =>
          let d := Char.ofNat b.toNat
          readLine raw n (if d = '\n' then cs else (d, true) :: cs)
        | _ => return (cs.reverse, false)
      else readLine raw n ((c, false) :: cs)
    | _ => return (cs.reverse, false)

/-- The words of a line, so many of them; the last one gets what is left. -/
def lineWords (separators : List Char) : Nat → List (Char × Bool) → List (List Char)
  | 0, _ => []
  | n + 1, cs =>
    let isSeparator (x : Char × Bool) : Bool := !x.2 && separators.contains x.1
    let isBlank (x : Char × Bool) : Bool := isSeparator x && Field.isGap x.1
    let cs := cs.dropWhile isBlank
    if n = 0 then [((cs.reverse.dropWhile isBlank).reverse).map Prod.fst]
    else
      let (word, rest) := cs.span fun x => !isSeparator x
      let rest := rest.dropWhile isBlank
      let rest := match rest with
        | x :: others => if isSeparator x then others else rest
        | [] => rest
      word.map Prod.fst :: lineWords separators n rest

/-- Reads a line into variables. -/
def read (words : List (List Char)) : M Unit := do
  let raw := words.head? = some ['-', 'r']
  let names := words.filter fun w => w.head? != some '-'
  if names.isEmpty then do
    complain "read: arg count"
    setStatus 2
  else do
    let (line, ended) ← readLine raw patience []
    let values := lineWords (← get).separators names.length line
    (names.zip values).forM fun (name, value) => setVariable "read: " name value
    setTruth ended

/-- The process that a word means: a percent sign stands in front of the place of a process in the
background. -/
def job? (command : String) (word : List Char) : M (Option Nat) := do
  let started := (← get).started
  match word with
  | '%' :: place =>
    let pid? := match place, number? place with
      | [], _ | ['%'], _ | ['+'], _ => started.getLast?
      | _, some n => if n = 0 then none else started[n - 1]?
      | _, none => none
    match pid? with
    | some pid => return some pid
    | none => abort (command ++ ": No such job: " ++ Text.textOf word)
  | _ => return number? word

/-- Sets the status to that of a process, and forgets it. -/
def await (aloud : Bool) (pid : Nat) : M Unit := do
  match ← ask (.wait pid true) with
  | .ended s => do
    setStatus s.shellCode
    if aloud then announce s
  | .noChild => setStatus 127
  | .interrupted => setStatus (128 + 15)
  modify fun s => { s with children := s.children.filter (· != pid) }

/-- Waits for processes in the background. -/
def wait (words : List (List Char)) : M Unit := do
  match words with
  | [] => do
    (← get).children.forM (await false)
    setStatus 0
  | _ => words.forM fun w => do
    match ← job? "wait" w with
    | some pid => await true pid
    | none => illegalNumber "wait" w

/-- The signal that a word means. -/
def signalOf? (word : List Char) : Option Nat :=
  match number? word with
  | some n => if n ≤ SignalEntry.greatest then some n else none
  | none =>
    let name := (String.ofList word).toUpper
    (List.range (SignalEntry.greatest + 1)).find? fun n => SignalEntry.label n == name

/-- The numbers of the signals that can be sent. -/
def signalNumbers : List Nat :=
  (List.range SignalEntry.greatest).map (· + 1)

/-- How signals are sent. -/
def killUsage : String :=
  "Usage: kill [-s sigspec | -signum | -sigspec] [pid | job]... or\nkill -l [exitstatus]"

/-- Writes the names of signals. -/
def listSignals (words : List (List Char)) : M Unit := do
  match words with
  | [] =>
    answer "kill" ("0\n" ++ String.join (signalNumbers.map fun n => SignalEntry.label n ++ "\n")).toList
  | w :: _ =>
    match number? w with
    | none => illegalNumber "kill" w
    | some n => do
      let n := if 128 < n then n - 128 else n
      if signalNumbers.contains n then answer "kill" (SignalEntry.label n ++ "\n").toList
      else abort ("kill: invalid signal number or exit status: " ++ Text.textOf w)

/-- Sends a signal to each process that the words mean. -/
def sendSignal (number : Nat) (words : List (List Char)) : M Unit := do
  if words.isEmpty then abort ("kill: " ++ killUsage)
  else do
    let results ← words.mapM fun w => do
      let target : Int ← match w with
        | '-' :: cs =>
          match number? cs with
          | some n => pure (-(n : Int))
          | none => illegalNumber "kill" cs
        | _ =>
          match ← job? "kill" w with
          | some n => pure (if w.head? = some '%' then -(n : Int) else n)
          | none => illegalNumber "kill" w
      match ← ask (.signal target number) with
      | .ok () => return true
      | .error e => do
        complain ("kill: " ++ e.wording ++ "\n")
        return false
    setTruth (results.all id)

/-- Signals processes. -/
def kill (words : List (List Char)) : M Unit := do
  let terminate := 15
  match words with
  | ['-', '-'] :: rest => sendSignal terminate rest
  | ['-', 'l'] :: rest => listSignals rest
  | ['-', 's'] :: [] => abort "kill: No arg for -s option"
  | ('-' :: 's' :: c :: cs) :: rest =>
    match signalOf? ('s' :: c :: cs), signalOf? (c :: cs) with
    | some n, _ | none, some n => sendSignal n rest
    | none, none => abort ("kill: invalid signal number or name: " ++ Text.textOf (c :: cs))
  | ['-', 's'] :: name :: rest =>
    match signalOf? name with
    | some n => sendSignal n (if rest.head? = some ['-', '-'] then rest.drop 1 else rest)
    | none => abort ("kill: invalid signal number or name: " ++ Text.textOf name)
  | ('-' :: c :: cs) :: rest =>
    match signalOf? (c :: cs) with
    | some n => sendSignal n rest
    | none => abort ("kill: Illegal option -" ++ Text.textOf [c])
  | _ => sendSignal terminate words

/-- What is done about each signal, as commands. -/
def listTraps : M Unit := do
  let s ← get
  let lines := (0 :: signalNumbers).flatMap fun n =>
    match s.traps.lookup n with
    | some action =>
      "trap -- ".toList ++ quoted action ++ ' ' :: (SignalEntry.label n).toList ++ ['\n']
    | none => []
  answer "trap" lines

/-- Says what is to be done about signals. -/
def trap (words : List (List Char)) : M Unit := do
  let words := if words.head? = some ['-', '-'] then words.drop 1 else words
  let (action?, names) : Option (List Char) × List (List Char) := match words with
    | ['-'] :: names => (none, names)
    | [single] => (none, [single])
    | action :: names => (some action, names)
    | [] => (none, [])
  setStatus 0
  if words.isEmpty then listTraps
  names.forM fun name =>
    match signalOf? name with
    | none => do
      let _ ← say 2 (Text.octetsOf ("trap: " ++ Text.textOf name ++ ": bad trap\n"))
      setStatus 1
    | some number => do
      modify fun s =>
        let others := s.traps.filter (·.1 != number)
        { s with traps := match action? with
          | some action => (number, action) :: others
          | none => others }
      if number != 0 then
        ask (.dispose number (match action? with
          | none => .byDefault
          | some [] => .ignored
          | some _ => .noted))

/-- A count of loops, or a status. -/
def countOf (command : String) (default : Nat) (words : List (List Char)) : M Nat :=
  match words with
  | [] => return default
  | w :: _ =>
    match number? w with
    | some n => return n
    | none => illegalNumber command w

/-- Leaves loops, or goes on with them. -/
def leave (command : String) (stop : Nat → Stop) (words : List (List Char)) : M Unit := do
  let n ← countOf command 1 words
  setStatus 0
  if 0 < (← get).loops then throw (stop (min n (← get).loops))

/-- Ends something with a status. -/
def «end» (command : String) (stop : Stop) (words : List (List Char)) : M Unit := do
  let n ← countOf command (← get).status words
  setStatus n
  throw stop

/-- The commands that run no other command. -/
def find? (name : String) : Option (List (List Char) → M Unit) :=
  match name with
  | ":" | "true" => some fun _ => setStatus 0
  | "false" => some fun _ => setStatus 1
  | "echo" => some echo
  | "printf" => some printf
  | "test" => some (test "test")
  | "[" => some bracket
  | "cd" | "chdir" => some cd
  | "set" => some set
  | "shift" => some shift
  | "unset" => some unset
  | "export" => some «export»
  | "readonly" => some readonly
  | "local" => some «local»
  | "read" => some read
  | "wait" => some wait
  | "kill" => some kill
  | "trap" => some trap
  | "umask" => some fun words => if words.isEmpty then answer "umask" "0022\n".toList else setStatus 0
  | "break" => some (leave "break" .leave)
  | "continue" => some (leave "continue" .again)
  | "return" => some («end» "return" .back)
  | "exit" => some («end» "exit" .exit)
  | _ => none

/-- The commands whose assignments stay, and whose mistakes end the shell. -/
def isSpecial (name : String) : Bool :=
  [":", ".", "break", "continue", "eval", "exec", "exit", "export", "readonly", "return", "set",
   "shift", "times", "trap", "unset", "local"].contains name

end VolumeNode.Shell.Builtin
