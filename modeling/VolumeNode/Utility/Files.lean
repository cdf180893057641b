import VolumeNode.Utility.Basic

/-!
# Programs that change the file tree

Programs that make, remove and list files, and one that copies its input to files.
-/

namespace VolumeNode.Utility

open Execution

/-- The letters of the options, and the words that are none. -/
def splitOptions (arguments : List String) : List Char × List String :=
  let front := arguments.takeWhile (· != "--")
  let back := (arguments.dropWhile (· != "--")).drop 1
  let isOption (a : String) : Bool := a.startsWith "-" && a.length > 1
  ((front.filter isOption).flatMap fun a => a.toList.drop 1,
    (front.filter fun a => !isOption a) ++ back)

/-- Changes the tree for each path, and says which changes fail. -/
def changeEach (change : String → TreeChange) (failure : String → Errno → Option String) :
    List String → Bool → Part ExitStatus
  | [], ok => exit (if ok then 0 else 1)
  | path :: rest, ok => do
    match ← (Query.change (change path)).take with
    | .ok () => changeEach change failure rest ok
    | .error e =>
      match failure path e with
      | none => changeEach change failure rest ok
      | some problem => do
        complain (problem ++ "\n")
        changeEach change failure rest false

/-- The failure of a program at a path. -/
def failedAt (action path : String) (e : Errno) : Option String :=
  some (action ++ " '" ++ path ++ "': " ++ e.wording)

/-- The program that removes files. -/
def rm (arguments : List String) : Part ExitStatus :=
  let (letters, paths) := splitOptions arguments
  let force := letters.contains 'f'
  let all := letters.contains 'r' || letters.contains 'R'
  if paths.isEmpty then if force then exit 0 else usage "rm" "missing operand"
  else
    changeEach (if all then .removeAll else .removeFile)
      (fun path e =>
        if force && (e = .noEntry || e = .notDirectory) then none
        else failedAt "rm: cannot remove" path e)
      paths true

/-- The program that removes directories. -/
def rmdir (arguments : List String) : Part ExitStatus :=
  let (_, paths) := splitOptions arguments
  if paths.isEmpty then usage "rmdir" "missing operand"
  else changeEach .removeDirectory (failedAt "rmdir: failed to remove") paths true

/-- The path of a directory and those of the directories above it, the topmost first. -/
def ancestry (path : String) : List String :=
  let pieces := Text.splitAt '/' path
  ((List.range pieces.length).map fun i => "/".intercalate (pieces.take (i + 1))).filter (· != "")

/-- The program that makes directories. -/
def mkdir (arguments : List String) : Part ExitStatus :=
  let (letters, paths) := splitOptions arguments
  if paths.isEmpty then usage "mkdir" "missing operand"
  else
    let failed := failedAt "mkdir: cannot create directory"
    if letters.contains 'p' then
      changeEach (fun path => .makeDirectory path 0o777)
        (fun path e => if e = .exists_ then none else failed path e)
        (paths.flatMap ancestry) true
    else changeEach (fun path => .makeDirectory path 0o777) failed paths true

/-- The program that makes empty files. -/
def touch (arguments : List String) : Part ExitStatus :=
  let (_, paths) := splitOptions arguments
  if paths.isEmpty then usage "touch" "missing file operand"
  else changeEach .makeFile (failedAt "touch: cannot touch") paths true

/-- The program that makes symbolic links. -/
def ln (arguments : List String) : Part ExitStatus :=
  match splitOptions arguments with
  | (_, [target, path]) =>
    changeEach (fun path => .makeLink path target)
      (failedAt "ln: failed to create symbolic link") [path] true
  | _ => usage "ln" "missing file operand"

/-- The program that sets permission bits. -/
def chmod : List String → Part ExitStatus
  | mode :: paths =>
    let digits := mode.toList
    if digits.isEmpty || !digits.all fun c => '0' ≤ c && c ≤ '7' then
      usage "chmod" ("invalid mode: '" ++ mode ++ "'")
    else
      let bits := digits.foldl (fun n c => n * 8 + (c.toNat - 0x30)) 0
      changeEach (fun path => .setMode path bits) (failedAt "chmod: cannot access") paths true
  | [] => usage "chmod" "missing operand"

/-- The program that lists directories. -/
def ls (arguments : List String) : Part ExitStatus := do
  let (letters, paths) := splitOptions arguments
  let shown (name : String) : Bool := letters.contains 'a' || letters.contains 'A'
    || !name.startsWith "."
  let path := paths.headD "."
  match ← (Query.names path).take with
  | .ok names => answer "ls" ((names.filter shown).flatMap fun n => Text.octetsOf (n ++ "\n"))
  | .error e =>
    if e = .notDirectory then answer "ls" (Text.octetsOf (path ++ "\n"))
    else do
      complain ("ls: cannot access '" ++ path ++ "': " ++ e.wording ++ "\n")
      exit 2

/-- The last part of a path. -/
def baseName (path : String) : String :=
  match (Text.splitAt '/' path).filter (· != "") with
  | [] => if path.isEmpty then "" else "/"
  | names => names.getLastD ""

/-- The path without its last part. -/
def directoryName (path : String) : String :=
  let cs := (path.toList.reverse.dropWhile (· == '/')).dropWhile (· != '/')
  let cs := cs.dropWhile (· == '/')
  if !cs.isEmpty then String.ofList cs.reverse
  else if path.toList.head? == some '/' then "/" else "."

/-- The program that writes the last part of a path. -/
def basename : List String → Part ExitStatus
  | [path] => answer "basename" (Text.octetsOf (baseName path ++ "\n"))
  | [path, suffix] =>
    let name := baseName path
    let cs := name.toList
    let cut := suffix.toList.isSuffixOf cs && name != suffix
    answer "basename" (Text.octetsOf
      (String.ofList (if cut then cs.take (cs.length - suffix.length) else cs) ++ "\n"))
  | _ => usage "basename" "missing operand"

/-- The program that writes the path without its last part. -/
def dirname : List String → Part ExitStatus
  | [path] => answer "dirname" (Text.octetsOf (directoryName path ++ "\n"))
  | _ => usage "dirname" "missing operand"

/-- The program that copies its input to the output and to files. -/
def tee (arguments : List String) : Part ExitStatus := do
  let (letters, paths) := splitOptions arguments
  match ← readAll 0 patience [] with
  | .error _ => exit 1
  | .ok cs =>
    let access : Access := if letters.contains 'a' then .append else .write
    paths.forM fun path => do
      match ← (Query.openFile fileDescriptor path access).take with
      | .ok () => do
        let _ ← write fileDescriptor cs
      | .error e => complain ("tee: " ++ path ++ ": " ++ e.wording ++ "\n")
    answer "tee" cs

/-- The lines of octets, without their ends. -/
def linesOf (cs : List Char) : List String :=
  let pieces := Text.splitAt '\n' (String.ofList cs)
  if pieces.getLast? = some "" then pieces.dropLast else pieces

/-- The program that sorts lines. -/
def sort (arguments : List String) : Part ExitStatus := do
  let (letters, paths) := splitOptions arguments
  match ← openInput (paths.headD "-") with
  | .error e => do
    complain ("sort: cannot read: " ++ paths.headD "-" ++ ": " ++ e.wording ++ "\n")
    exit 2
  | .ok fd =>
    match ← readAll fd patience [] with
    | .error _ => exit 2
    | .ok cs =>
      let lines := (linesOf cs).mergeSort fun a b => a ≤ b
      let lines := if letters.contains 'u' then lines.eraseDups else lines
      let lines := if letters.contains 'r' then lines.reverse else lines
      answer "sort" (lines.flatMap fun l => l.toList ++ ['\n'])

end VolumeNode.Utility
