import VolumeNode.Host.Tree
import VolumeNode.Text.Utf8

/-!
# Which program a path starts

A file starts a program if it may be executed. A file that begins with `#!` names its interpreter,
which gets the path of the file; the interpreter may be such a file itself. A name without a slash is
looked for in the directories of programs.
-/

namespace VolumeNode.Execution

open Host

/-- A program of the host with its arguments, the first being what it was called. -/
structure Image where
  utility : String
  arguments : List String
  environment : List (String × String) := []
  deriving DecidableEq, Repr, Inhabited

namespace Loader

/-- The directories of programs. -/
def directories : List String :=
  ["/usr/local/sbin", "/usr/local/bin", "/usr/sbin", "/usr/bin", "/sbin", "/bin"]

/-- The octets of a file that are looked at. -/
def headSize : Nat :=
  256

/-- A blank between the parts of a first line. -/
def isGap (b : UInt8) : Bool :=
  b == 0x20 || b == 0x09

/-- The octets without the gaps at both ends. -/
def trimGaps (bs : List UInt8) : List UInt8 :=
  ((bs.dropWhile isGap).reverse.dropWhile isGap).reverse

/-- The interpreter that a file names in its first line, with the argument for it. -/
def interpreter? (content : List UInt8) : Option (List String) :=
  match content.take headSize with
  | 0x23 :: 0x21 :: rest =>
    let line := trimGaps (rest.takeWhile (· != 0x0A))
    let name := line.takeWhile (!isGap ·)
    let argument := trimGaps (line.dropWhile (!isGap ·))
    if name.isEmpty then none
    else
      some (Text.Utf8.decodeLossy name ::
        if argument.isEmpty then [] else [Text.Utf8.decodeLossy argument])
  | _ => none

/-- The error number of a failed look into the tree. -/
def errnoOf : FileError → Errno
  | .os e => e
  | _ => .invalid

/-- The program that a path starts, behind at most so many interpreters. -/
def load (t : Tree) : Nat → String → List String → Except Errno Image
  | 0, _, _ => .error .linkLoop
  | n + 1, path, arguments =>
    match t.locate true path with
    | .error e => .error (errnoOf e)
    | .ok (_, .utility name) => .ok { utility := name, arguments := arguments }
    | .ok (_, .file content mode) =>
      if mode &&& 0o111 = 0 then .error .accessDenied
      else
        match interpreter? content with
        | some (program :: extra) =>
          load t n program (program :: extra ++ path :: arguments.drop 1)
        | _ => .error .execFormat
    | .ok _ => .error .accessDenied

/-- How many interpreters may stand in a row. -/
def maxInterpreters : Nat :=
  5

/-- The first of some paths that starts a program. A path that is not there is passed over; so is one
that must not be executed, but then the search fails for that reason. -/
def search (t : Tree) (arguments : List String) (failure : Errno) : List String → Except Errno Image
  | [] => .error failure
  | path :: rest =>
    match load t maxInterpreters path arguments with
    | .ok i => .ok i
    | .error e =>
      if e = .accessDenied then search t arguments e rest
      else if e = .noEntry ∨ e = .notDirectory then search t arguments failure rest
      else .error e

/-- The program of a name. -/
def find (t : Tree) (program : String) (arguments : List String) : Except Errno Image :=
  let called := program :: arguments
  if program.isEmpty then .error .noEntry
  else if program.contains '/' then load t maxInterpreters program called
  else if 255 < program.utf8ByteSize then .error .nameTooLong
  else search t called .noEntry (directories.map fun d => d ++ "/" ++ program)

end Loader

end VolumeNode.Execution
