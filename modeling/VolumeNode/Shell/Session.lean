import VolumeNode.Shell.Interpreter

/-!
# A shell as a program

A shell runs the script in its arguments, in a file or on its input. When it ends, it does what was
asked for that moment.
-/

namespace VolumeNode.Shell

open Execution

/-- Where the script of a shell is. -/
inductive Source where
  | argument (text : List Char) (name : Option (List Char)) (arguments : List (List Char))
  | file (path : List Char) (arguments : List (List Char))
  | input (arguments : List (List Char))
  | missing
  | refused (letter : Char)
  deriving DecidableEq, Repr

/-- Where the arguments say that the script is, and the settings they make. -/
def choose (inArgument onInput : Bool) (s : State) : List (List Char) → State × Source
  | ('-' :: c :: cs) :: rest =>
    if c = '-' && cs.isEmpty then (s, place rest)
    else
      let letters := c :: cs
      match letters.find? fun c => c != 'c' && !Builtin.optionLetters.contains c with
      | some c => (s, .refused c)
      | none =>
      choose (inArgument || letters.contains 'c') (onInput || letters.contains 's')
        (letters.foldl (fun s c => Builtin.options.choose s c true) s) rest
  | ('+' :: c :: cs) :: rest =>
    choose inArgument onInput
      ((c :: cs).foldl (fun s c => Builtin.options.choose s c false) s) rest
  | rest => (s, place rest)
where
  place (rest : List (List Char)) : Source :=
    match inArgument, rest with
    | true, [] => .missing
    | true, text :: others => .argument text others.head? (others.drop 1)
    | false, [] => .input []
    | false, path :: others => if onInput then .input rest else .file path others

/-- Runs the script. -/
def runSource (source : Source) : M Unit := do
  let pid ← ask .identity
  modify fun s => { s with pid := pid }
  match source with
  | .missing => do
    complainAt 0 "-c requires an argument"
    setStatus 2
  | .argument text name arguments => do
    modify fun s => { s with name := name.getD s.name, arguments := arguments }
    runText (Reader.inputOf text) Utility.patience
  | .refused letter => do
    complainAt 0 ("Illegal option -" ++ Text.textOf [letter])
    setStatus 2
  | .input arguments => do
    modify fun s => { s with arguments := arguments }
    runText (Reader.inputOf (← readRest 0 Utility.patience [])) Utility.patience
  | .file path arguments => do
    let table ← ask .descriptors
    match ← ask (.openFile 36 (Text.textOf path) .read) with
    | .error e => do
      complainAt 0 (openFailure .read path e)
      setStatus 2
    | .ok () => do
      modify fun s => { s with name := path, arguments := arguments }
      let cs ← readRest 36 Utility.patience []
      ask (.restore table)
      runText (Reader.inputOf cs) Utility.patience

/-- Does what was asked for the end of the shell. -/
def leaveShell : M Unit := do
  let s ← get
  match s.traps.lookup 0 with
  | none => pure ()
  | some action => do
    set { s with traps := s.traps.filter (·.1 != 0) }
    runText (Reader.inputOf action) Utility.patience
    setStatus s.status

/-- A part of the shell that ends without a stop. -/
def contained (body : M Unit) : M Unit :=
  tryCatch body fun _ => pure ()

/-- The shell as a program. -/
def main (image : Image) : Body :=
  let words := image.arguments.map Text.octetsOf
  let bindings := image.environment.map fun (name, value) =>
    (Text.octetsOf name, ({ value := Text.octetsOf value, exported := true } : Variable))
  let (s, source) := choose false false { name := words.headD [], bindings := bindings } (words.drop 1)
  let whole : M Unit := do
    contained (runSource source)
    contained leaveShell
  (whole.run.run s).bind fun (_, s) => .done (.code (s.status % 256))

end VolumeNode.Shell
