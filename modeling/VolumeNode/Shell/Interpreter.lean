import VolumeNode.Shell.Arithmetic
import VolumeNode.Shell.Builtin
import VolumeNode.Shell.Reader

/-!
# Running scripts

A command runs after its words have got their values. Whatever the shell does not do itself runs in a
process of its own. Every recursion is bounded by a number; a script that needs more goes on for ever.
-/

namespace VolumeNode.Shell

open Execution

/-- Descriptors that the shell keeps for itself. -/
def spareDescriptors : List Nat :=
  [30, 31, 32, 33, 34]

/-- What a shell forgets when it becomes a process of its own: what was to be done about signals,
unless they are ignored. -/
def becomeSubshell : M Unit := do
  let s ← get
  s.traps.forM fun (number, action) =>
    if number != 0 && !action.isEmpty then ask (.dispose number .byDefault) else pure ()
  set { s with traps := s.traps.filter (·.2.isEmpty), children := [], started := [] }
  spareDescriptors.forM fun fd => ask (.close fd)

/-- Waits for a process, and says which signal ended it. -/
def await (pid : Nat) : M Unit := do
  match ← ask (.wait pid false) with
  | .ended status => do
    setStatus status.shellCode
    announce status
  | _ => setStatus 127

/-- Runs a part of the shell in a process of its own, and gives its number. -/
def inChild (body : M Unit) : M Nat := do
  match ← ask .fork with
  | some pid => return pid
  | none => do
    body
    throw .exit

/-- Everything that is left to be read. -/
def readRest (fd : Nat) : Nat → List (List Char) → M (List Char)
  | 0, blocks => return blocks.reverse.flatten
  | n + 1, blocks => do
    match ← ask (.read fd Utility.blockSize) with
    | .ok (b :: octets) => readRest fd n (Text.ofOctets (b :: octets) :: blocks)
    | _ => return blocks.reverse.flatten

/-- The text without the ends of lines at its end, and without NUL. -/
def trimmed (cs : List Char) : List Char :=
  ((cs.filter (· != '\x00')).reverse.dropWhile (· == '\n')).reverse

/-- Characters of a value. -/
def octets (quoted : Bool) (cs : List Char) : List Atom :=
  if quoted then .presence :: cs.map (.octet · true false) else cs.map (.octet · false true)

/-- The arguments as a value; in quotes each one is a field. -/
def argumentAtoms (quoted : Bool) (arguments : List (List Char)) : List Atom :=
  [Atom.boundary].intercalate (arguments.map (octets quoted))

/-- The value of a parameter as part of a word, if it is set. -/
def parameterAtoms? (s : State) (quoted : Bool) (name : List Char) : Option (List Atom) :=
  match name, quoted with
  | ['@'], _ | ['*'], false =>
    if s.arguments.isEmpty then none else some (argumentAtoms quoted s.arguments)
  | ['*'], true =>
    if s.arguments.isEmpty then none
    else some (octets true ((s.separators.take 1).intercalate s.arguments))
  | _, _ => (s.value? name).map (octets quoted)

/-- What a parameter that is not set is as part of a word. -/
def unsetAtoms (quoted : Bool) (name : List Char) : List Atom :=
  if quoted && name != ['@'] then [.presence] else []

/-- A word in the place of a value may fall into fields. -/
def splitting (quoted : Bool) (atoms : List Atom) : List Atom :=
  if quoted then atoms
  else
    atoms.map fun
      | .octet c false _ => .octet c false true
      | a => a

/-- The paths behind some others that a row of patterns stands for. -/
def paths : List Field → List (List Char) → M (List (List Char))
  | [], found => return found
  | f :: rest, found => do
    let pattern := Pattern.ofMarked f
    let close (path : List Char) : List Char := if rest.isEmpty then path else path ++ ['/']
    if Pattern.isProper pattern then do
      let here ← found.mapM fun front => do
        match ← ask (.names (if front.isEmpty then "." else Text.textOf front)) with
        | .error _ => return []
        | .ok names =>
          let shown := (names.map Text.octetsOf).filter fun name =>
            Pattern.isMatch pattern name
              && (name.head? != some '.' || f.head?.map Prod.fst = some '.')
          return shown.map fun name => close (front ++ name)
      paths rest here.flatten
    else do
      let here ← found.filterMapM fun front => do
        let path := front ++ f.text
        match ← ask (.inspect (Text.textOf path) true) with
        | .ok _ => return some (close path)
        | .error _ => if f.isEmpty then return some (close path) else return none
      paths rest here

/-- A field cut at its slashes. -/
def cutAtSlashes (f : Field) : List Field :=
  f.foldr
    (fun x parts =>
      if x.1 = '/' then [] :: parts
      else
        match parts with
        | top :: others => (x :: top) :: others
        | [] => [[x]])
    [[]]

/-- The texts that a field stands for: itself, unless it is a pattern of paths. -/
def textsOf (f : Field) : M (List (List Char)) := do
  if (← get).plainNames || !Pattern.isProper (Pattern.ofMarked f) then return [f.text]
  else do
    let found ← paths (cutAtSlashes f) [[]]
    return if found.isEmpty then [f.text] else found

/-- What is said of a file that cannot be opened. -/
def openFailure (access : Access) (path : List Char) (e : Errno) : String :=
  let missing := e = .noEntry || e = .notDirectory
  let name := Text.textOf path
  if access = .read then
    "cannot open " ++ name ++ ": " ++ if missing then "No such file" else e.wording
  else
    "cannot create " ++ name ++ ": " ++ if missing then "Directory nonexistent" else e.wording

/-- What is said of a program that cannot be started, and the status for it. -/
def startFailure (name : List Char) (e : Errno) : String × Nat :=
  let missing := e = .noEntry || e = .notDirectory
  (Text.textOf name ++ ": " ++ (if missing then "not found" else e.wording),
    if missing || e = .linkLoop || e = .nameTooLong then 127 else 126)

/-- Lets another program take the place of the shell. A failure is said behind its place. -/
def become (place : String) (words : List (List Char)) : M Unit := do
  let name := Text.textOf (words.headD [])
  let arguments := (words.drop 1).map Text.textOf
  let environment := (← get).environment
  let first : Errno ← ask (.exec name arguments environment)
  let e : Errno ←
    if first = .execFormat then ask (.exec "/bin/sh" (name :: arguments) environment) else pure first
  let (problem, status) := startFailure (words.headD []) e
  complain (place ++ problem)
  setStatus status
  throw .exit

/-- Runs a part of the shell of which somebody looks at the status. -/
def tested (body : M Unit) : M Unit := do
  let before := (← get).tested
  let undo : M Unit := modify fun s => { s with tested := before }
  modify fun s => { s with tested := true }
  finally_ body undo

/-- Ends the shell if a command has failed of which nobody looks at the status. -/
def checkFailure : M Unit := do
  let s ← get
  if s.status != 0 && s.exitOnFailure && !s.tested then throw .exit

/-- Runs the body of a loop once; whether the loop goes on. -/
def once (body : M Unit) : M Bool := do
  tryCatch
    (do
      body
      return true)
    fun
      | .leave n => if n ≤ 1 then return false else throw (.leave (n - 1))
      | .again n => if n ≤ 1 then return true else throw (.again (n - 1))
      | stop => throw stop

/-- Runs a loop. -/
def inLoop (body : M Unit) : M Unit := do
  modify fun s => { s with loops := s.loops + 1 }
  finally_ body (modify fun s => { s with loops := s.loops - 1 })

/-- Assigns values for as long as a part of the shell runs. -/
def assigned (values : List (List Char × List Char)) (body : M Unit) : M Unit := do
  let s ← get
  let before := values.map fun (name, _) => (name, s.lookup? name)
  values.forM fun (name, value) => do
    setVariable "" name value
    modify fun s => s.export name
  finally_ body (modify fun s => before.foldl State.reset s)

/-- Runs a command of the shell that does not end it for a mistake. -/
def unlessBroken (body : M Unit) : M Unit :=
  tryCatch body fun stop => if stop = .exit then pure () else throw stop

/-- Shows a command that is about to run, if commands are to be shown. -/
def trace (values : List (List Char × List Char)) (words : List (List Char)) : M Unit := do
  if (← get).traced then
    let all := values.map (fun (name, value) => name ++ '=' :: value) ++ words
    let _ ← say 2 ('+' :: ' ' :: [' '].intercalate all ++ ['\n'])

/-- Whether a word has what a command writes in it. -/
def substitutes (word : List Piece) : Bool :=
  word.any fun
    | .output _ _ => true
    | _ => false

/-- Runs the body of a function. -/
def inFunction (arguments : List (List Char)) (body : M Unit) : M Unit := do
  let before := (← get).arguments
  let loops := (← get).loops
  modify fun s => { s with arguments := arguments, outer := [] :: s.outer, loops := 0 }
  finally_
    (tryCatch body fun
      | .back => pure ()
      | stop => throw stop)
    (modify fun s =>
      let s := (s.outer.headD []).foldl State.reset s
      { s with arguments := before, outer := s.outer.drop 1, loops := loops })

/-- Keeps open what descriptors lead to, under descriptors that no other program gets. -/
def keepOpen (fds : List Nat) : M Unit := do
  fds.forM fun fd => do
    let free := (← ask .descriptors).foldl (fun k d => max k (d.1 + 1)) inheritedBelow
    let _ ← ask (.copy fd free)

mutual

/-- The value of the pieces of a word. -/
def expand (ps : List Piece) : Nat → M (List Atom)
  | 0 => endless
  | n + 1 => do
    let parts ← ps.mapM fun p => expandPiece p n
    return parts.flatten

/-- The value of a piece of a word. -/
def expandPiece (p : Piece) : Nat → M (List Atom)
  | 0 => endless
  | n + 1 => do
    match p with
    | .literal true cs => return octets true cs
    | .literal false cs => return cs.map (.octet · false false)
    | .output quoted c => return octets quoted (trimmed (← capture c n))
    | .value quoted expression => do
      let cs := (Field.whole (← expand expression n)).text
      let s ← get
      let outer (name : List Char) : Except Arithmetic.Fault Int :=
        let value := (s.value? name).getD []
        (Arithmetic.integer? value).elim (.error (.illegalNumber value)) .ok
      match Arithmetic.evaluate outer cs with
      | .error f => abort (f.message cs)
      | .ok (v, values) => do
        values.reverse.forM fun (name, v) => setVariable "" name (toString v).toList
        return octets quoted (toString v).toList
    | .parameter quoted name use => expandParameter quoted name use n

/-- The value of a parameter. -/
def expandParameter (quoted : Bool) (name : List Char) (use : Use) : Nat → M (List Atom)
  | 0 => endless
  | n + 1 => do
    let s ← get
    let atoms? := parameterAtoms? s quoted name
    let value? := s.value? name
    let counts (orEmpty : Bool) : Bool := value?.any fun v => !(orEmpty && v.isEmpty)
    match use with
    | .plain =>
      match atoms? with
      | some atoms => return atoms
      | none =>
        if s.strict && name != ['@'] && name != ['*'] then
          abort (Text.textOf name ++ ": parameter not set")
        else return unsetAtoms quoted name
    | .length => return octets quoted (State.digits (value?.getD []).length)
    | .otherwise orEmpty word =>
      if counts orEmpty then return atoms?.getD []
      else return unsetAtoms quoted name ++ splitting quoted (← expand word n)
    | .assign orEmpty word =>
      if counts orEmpty then return atoms?.getD []
      else do
        let value := (Field.whole (← expand word n)).text
        setVariable "" name value
        return octets quoted value
    | .require orEmpty word =>
      if counts orEmpty then return atoms?.getD []
      else do
        let reason := (Field.whole (← expand word n)).text
        abort (Text.textOf name ++ ": "
          ++ if !reason.isEmpty then Text.textOf reason
            else if orEmpty then "parameter not set or null" else "parameter not set")
    | .instead orEmpty word =>
      if counts orEmpty then
        return unsetAtoms quoted name ++ splitting quoted (← expand word n)
      else return unsetAtoms quoted name
    | .without back longest pattern => do
      let p := Pattern.ofMarked (Field.whole (← expand pattern n))
      let value := value?.getD []
      return octets quoted (if back then Pattern.dropBack longest p value
        else Pattern.dropFront longest p value)

/-- What a command writes. -/
def capture (c : Command) : Nat → M (List Char)
  | 0 => endless
  | n + 1 => do
    ask (.pipe 30 31)
    let pid ← inChild do
      let _ ← ask (.copy 31 1)
      becomeSubshell
      run true c n
    ask (.close 31)
    let cs ← readRest 30 Utility.patience []
    ask (.close 30)
    await pid
    return cs

/-- The texts of words. -/
def expandWords (words : List (List Piece)) : Nat → M (List (List Char))
  | 0 => endless
  | n + 1 => do
    let texts ← words.mapM fun word => do
      let atoms ← expand word n
      let fields := Field.fields (← get).separators atoms
      let texts ← fields.mapM textsOf
      return texts.flatten
    return texts.flatten

/-- The text of a word that does not fall into fields. -/
def expandWhole (word : List Piece) : Nat → M Field
  | 0 => endless
  | n + 1 => do return Field.whole (← expand word n)

/-- Redirects descriptors; whether that worked. -/
def redirect (rs : List Redirection) : Nat → M Bool
  | 0 => endless
  | n + 1 => do
    match rs with
    | [] => return true
    | r :: rest => do
      let done ← match r with
        | .file fd access path => do
          let path := (← expandWhole path n).text
          match ← ask (.openFile fd (Text.textOf path) access) with
          | .ok () => pure true
          | .error e => do
            complain (openFailure access path e)
            pure false
        | .copy fd source => do
          let source := (← expandWhole source n).text
          if source = ['-'] then do
            ask (.close fd)
            pure true
          else
            match Builtin.number? source with
            | none => do
              complain ("Syntax error: Bad fd number")
              pure false
            | some k => do
              match ← ask (.copy k fd) with
              | .ok () => pure true
              | .error e => do
                complain (Text.textOf source ++ ": " ++ e.wording)
                pure false
        | .text fd body => do
          let cs := (← expandWhole body n).text
          ask (.offer fd (Text.toOctets cs))
          pure true
      if done then redirect rest n else return false

/-- Redirects descriptors for good. -/
def redirectOrExit (rs : List Redirection) : Nat → M Unit
  | 0 => endless
  | n + 1 => do
    if !(← redirect rs n) then do
      setStatus 2
      throw .exit

/-- Runs a part of the shell with descriptors redirected. What they led to before is kept open. -/
def redirected (rs : List Redirection) (body : M Unit) : Nat → M Unit
  | 0 => endless
  | n + 1 => do
    if rs.isEmpty then body
    else do
      let table ← ask .descriptors
      keepOpen (rs.map Redirection.fd)
      finally_
        (do if ← redirect rs n then body else setStatus 2)
        (ask (.restore table))

/-- Does what is to be done about the signals that have come. -/
def attend : Nat → M Unit
  | 0 => endless
  | n + 1 => do
    let numbers ← ask .noted
    numbers.forM fun number => do
      match (← get).traps.lookup number with
      | none => pure ()
      | some action => do
        let status := (← get).status
        runText (Reader.inputOf action) n
        setStatus status

/-- Runs a text, line by line. -/
def runText (i : Reader.Input) : Nat → M Unit
  | 0 => endless
  | n + 1 => do
    match Reader.next i with
    | .theEnd => pure ()
    | .commands c rest => do
      run false c n
      runText rest n
    | .mistake f line => do
      complainAt line f.message
      setStatus 2
      throw .exit

/-- Runs the words of a simple command; the last one of a process may take its place. -/
def runWords (last : Bool) (values : List (List Char × List Char)) (words : List (List Char))
    (rs : List Redirection) : Nat → M Unit
  | 0 => endless
  | n + 1 => do
    let name := words.headD []
    let arguments := words.drop 1
    let title := String.ofList name
    let special := Builtin.isSpecial title
    let settled (body : M Unit) : M Unit :=
      if special then do
        values.forM fun (name, value) => setVariable "" name value
        body
      else assigned values (unlessBroken body)
    if title = "exec" then do
      if ← redirect rs n then do
        setStatus 0
        if !arguments.isEmpty then assigned values (become "exec: " arguments)
        else values.forM fun (name, value) => setVariable "" name value
      else do
        setStatus 2
        throw .exit
    else do
      let functions := (← get).functions
      match if special then none else functions.lookup name with
      | some body => redirected rs (assigned values (inFunction arguments (run false body n))) n
      | none =>
        match title with
        | "eval" =>
          redirected rs (settled (do
            setStatus 0
            runText (Reader.inputOf ([' '].intercalate arguments)) n)) n
        | "." =>
          redirected rs (settled (do
            let path := arguments.headD []
            let table ← ask .descriptors
            match ← ask (.openFile 35 (Text.textOf path) .read) with
            | .error _ => abort (".: cannot open " ++ Text.textOf path ++ ": No such file")
            | .ok () => do
              let cs ← readRest 35 Utility.patience []
              ask (.restore table)
              setStatus 0
              tryCatch (runText (Reader.inputOf cs) n) fun
                | .back => pure ()
                | stop => throw stop)) n
        | "command" =>
          match arguments with
          | [] => setStatus 0
          | ['-', 'v'] :: names =>
            redirected rs (findNames names) n
          | _ =>
            if Builtin.isSpecial (String.ofList (arguments.headD [])) then
              runWords last values arguments rs n
            else
              match Builtin.find? (String.ofList (arguments.headD [])) with
              | some builtin =>
                redirected rs (assigned values (unlessBroken (builtin (arguments.drop 1)))) n
              | none => runProgram last values arguments rs n
        | _ =>
          match Builtin.find? title with
          | some builtin => redirected rs (settled (builtin arguments)) n
          | none => runProgram last values words rs n

/-- Says what names stand for. -/
def findNames (names : List (List Char)) : M Unit := do
  match names with
  | name :: _ =>
    if (Builtin.find? (String.ofList name)).isSome || ((← get).functions.lookup name).isSome then
      Builtin.answer "command" (name ++ ['\n'])
    else do
      let found ← Loader.directories.filterMapM fun d => do
        let path := d ++ "/" ++ Text.textOf name
        match ← ask (.inspect path true) with
        | .ok _ => return some path
        | .error _ => return none
      match found with
      | path :: _ => Builtin.answer "command" (Text.octetsOf (path ++ "\n"))
      | [] => setStatus 127
  | [] => setStatus 2

/-- Runs a program in a process of its own, or in that of the shell if it is the last command. -/
def runProgram (last : Bool) (values : List (List Char × List Char)) (words : List (List Char))
    (rs : List Redirection) : Nat → M Unit
  | 0 => endless
  | n + 1 => do
    let body : M Unit := do
      redirectOrExit rs n
      assigned values (become "" words)
    if last && (← get).traps.isEmpty then body
    else do
      let pid ← inChild do
        becomeSubshell
        body
      await pid

/-- Runs the commands of a pipeline, each in a process of its own. The first one reads what the
number says, if it says anything. -/
def runPipeline (cs : List Command) (piped : Bool) (pids : List Nat) : Nat → M Unit
  | 0 => endless
  | n + 1 => do
    let takeInput : M Unit := do
      if piped then
        let _ ← ask (.copy 32 0)
    match cs with
    | [] => pids.reverse.forM await
    | [c] => do
      let pid ← inChild do
        takeInput
        becomeSubshell
        run true c n
      ask (.close 32)
      runPipeline [] false (pid :: pids) n
    | c :: rest => do
      ask (.pipe 33 34)
      let pid ← inChild do
        takeInput
        let _ ← ask (.copy 34 1)
        becomeSubshell
        run true c n
      ask (.close 34)
      let _ ← ask (.copy 33 32)
      ask (.close 33)
      runPipeline rest true (pid :: pids) n

/-- Runs a loop as long as its test holds. -/
def runLoop (untilTrue : Bool) (test body : Command) (status : Nat) : Nat → M Unit
  | 0 => endless
  | n + 1 => do
    tested (run false test n)
    if ((← get).status = 0) = untilTrue then setStatus status
    else if ← once (run false body n) then runLoop untilTrue test body (← get).status n

/-- Runs the body of a loop for each text. -/
def runEach (name : List Char) (texts : List (List Char)) (body : Command) : Nat → M Unit
  | 0 => endless
  | n + 1 => do
    match texts with
    | [] => pure ()
    | t :: rest => do
      setVariable "" name t
      if ← once (run false body n) then runEach name rest body n

/-- Runs the first branch that matches. -/
def runBranches (last : Bool) (value : List Char) (bs : List (List (List Piece) × Command)) : Nat → M Unit
  | 0 => endless
  | n + 1 => do
    match bs with
    | [] => setStatus 0
    | (patterns, c) :: rest => do
      let matched ← patterns.anyM fun p => do
        return Pattern.isMatch (Pattern.ofMarked (← expandWhole p n)) value
      if matched then do
        setStatus 0
        run last c n
      else runBranches last value rest n

/-- Runs a command in a process of its own, or in that of the shell if it is the last one. -/
def runInside (last : Bool) (c : Command) (rs : List Redirection) : Nat → M Unit
  | 0 => endless
  | n + 1 => do
    let body : M Unit := do
      redirectOrExit rs n
      run true c n
    if last && (← get).traps.isEmpty then body
    else do
      let pid ← inChild do
        becomeSubshell
        body
      await pid

/-- Runs a command. What is the last one of a process may end it. -/
def run (last : Bool) (c : Command) : Nat → M Unit
  | 0 => endless
  | n + 1 => do
    match c with
    | .nothing => pure ()
    | .sequence a b => do
      run false a n
      run last b n
    | .background c => do
      let pid ← inChild do
        becomeSubshell
        ask (.dispose 2 .ignored)
        ask (.dispose 3 .ignored)
        let _ ← ask (.openFile 0 "/dev/null" .read)
        match c with
        | .redirected c rs => do
          redirectOrExit rs n
          run true c n
        | c => run true c n
      modify fun s => { s with
        background := some pid
        children := s.children ++ [pid]
        started := s.started ++ [pid]
        status := 0 }
    | .both a b => do
      tested (run false a n)
      if (← get).status = 0 then run last b n
    | .either a b => do
      tested (run false a n)
      if (← get).status != 0 then run last b n
    | .negated c => do
      tested (run false c n)
      setStatus (if (← get).status = 0 then 1 else 0)
    | .pipeline cs => do
      runPipeline cs false [] n
      checkFailure
    | .subshell c => do
      runInside last c [] n
      checkFailure
    | .choice test yes no => do
      tested (run false test n)
      if (← get).status = 0 then run last yes n
      else do
        setStatus 0
        run last no n
    | .loop untilTrue test body => inLoop (runLoop untilTrue test body 0 n)
    | .each name words body => do
      let texts ← match words with
        | some ws => expandWords ws n
        | none => do pure (← get).arguments
      setStatus 0
      inLoop (runEach name texts body n)
    | .select word bs => do
      let value := (← expandWhole word n).text
      runBranches last value bs n
    | .define name body => do
      modify fun s => { s with functions := (name, body) :: s.functions.filter (·.1 != name) }
      setStatus 0
    | .redirected (.subshell c) rs => do
      runInside last c rs n
      checkFailure
    | .redirected c rs => do
      redirected rs (run false c n) n
      checkFailure
    | .simple line assignments words rs => do
      attend n
      modify fun s => { s with line := line }
      let texts ← expandWords words n
      let values ← assignments.mapM fun (name, value) => do
        return (name, (← expandWhole value n).text)
      if texts.isEmpty then do
        if !(words ++ assignments.map Prod.snd).any substitutes then setStatus 0
        trace values []
        redirected rs (pure ()) n
        values.forM fun (name, value) => setVariable "" name value
      else do
        values.forM fun (name, _) => guardVariable "" name
        trace values texts
        runWords last values texts rs n
      checkFailure

end

end VolumeNode.Shell
