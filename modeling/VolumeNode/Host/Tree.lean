import VolumeNode.FileError
import VolumeNode.Host.Path

/-!
# The file tree

Files, directories and symbolic links below one root, some of which the host itself provides. A path
is resolved component by component; a symbolic link is replaced by its target, at most forty times.
Main statement: `createAll_eq`: the bound on the directories that are made above a path is never reached.
-/

namespace VolumeNode.Host

/-- The names on the way from the root to a file. -/
abbrev Place := List String

/-- What can stand at a place. -/
inductive Entry where
  | directory (mode : Nat)
  | file (content : List UInt8) (mode : Nat)
  | link (target : String)
  | socket
  /-- A program that the host provides. -/
  | utility (name : String)
  /-- A device file. -/
  | device (name : String)
  deriving DecidableEq, Repr, Inhabited

namespace Entry

/-- Whether it is a directory. -/
def isDirectory : Entry → Bool
  | directory _ => true
  | _ => false

/-- Whether it is a symbolic link. -/
def isLink : Entry → Bool
  | link _ => true
  | _ => false

end Entry

/-- The devices that files can lie on. -/
inductive Device where
  | disk
  | processes
  deriving DecidableEq, Repr

/-- A file tree, and the directory in which relative paths begin. -/
structure Tree where
  entries : List (Place × Entry)
  current : Place
  deriving DecidableEq, Repr, Inhabited

namespace Tree

/-- What stands at a place. -/
def find? (t : Tree) (p : Place) : Option Entry :=
  if p.isEmpty then some (.directory 0o755) else t.entries.lookup p

/-- The tree with something else at a place. -/
def put (t : Tree) (p : Place) (e : Entry) : Tree :=
  if t.entries.any (·.1 == p) then
    { t with entries := t.entries.map fun x => if x.1 == p then (p, e) else x }
  else { t with entries := t.entries ++ [(p, e)] }

/-- The tree without a place and everything below it. -/
def prune (t : Tree) (p : Place) : Tree :=
  { t with entries := t.entries.filter fun x => !p.isPrefixOf x.1 }

/-- The device on which a place lies. -/
def deviceOf (p : Place) : Device :=
  if p.head? = some "proc" then .processes else .disk

/-- How many symbolic links may be replaced on the way. -/
def maxLinks : Nat :=
  40

/-- The components of a path. A slash at the end asks for a directory, as a dot does. -/
def componentsOf (path : String) : List String :=
  let names := (Path.pieces path).filter (· != "")
  if path.endsWith "/" && !names.isEmpty then names ++ ["."] else names

/-- Where a path begins. -/
def origin (t : Tree) (path : String) : Place :=
  if Path.isAbsolute path then [] else t.current

/-- What the rest of a path leads to: a place with something at it, or a directory and a name that
it does not have. -/
inductive Reached where
  | found (p : Place) (e : Entry)
  | missing (directory : Place) (name : String)
  deriving DecidableEq, Repr

/-- Walks components from a directory. The last one is followed, if it is a symbolic link, only if
asked for. A symbolic link that is followed leads `through` its target, from the directory that it is
in and with the components behind it. -/
def walk (t : Tree) (follow : Bool) (through : String → Place → List String → Except Errno Reached) :
    Place → List String → Except Errno Reached
  | at_, [] =>
    match t.find? at_ with
    | none => .error .noEntry
    | some e => .ok (.found at_ e)
  | at_, name :: rest =>
    match t.find? at_ with
    | none => .error .noEntry
    | some e =>
      if !e.isDirectory then .error .notDirectory
      else if name = "." then walk t follow through at_ rest
      else if name = ".." then walk t follow through at_.dropLast rest
      else if 255 < name.utf8ByteSize then .error .nameTooLong
      else
        let next := at_ ++ [name]
        match t.find? next with
        | none => if rest.isEmpty then .ok (.missing at_ name) else .error .noEntry
        | some (.link target) =>
          if rest.isEmpty && !follow then .ok (.found next (.link target))
          else through target at_ rest
        | some _ => walk t follow through next rest

/-- Resolves components from a directory; so many symbolic links may be replaced on the way. -/
def resolve (t : Tree) (follow : Bool) : Nat → Place → List String → Except Errno Reached
  | 0 => walk t follow fun _ _ _ => .error .linkLoop
  | links + 1 =>
    walk t follow fun target at_ rest =>
      if target.isEmpty then .error .noEntry
      else
        let start := if Path.isAbsolute target then [] else at_
        resolve t follow links start (componentsOf target ++ rest)

/-- What a path leads to. -/
def reach (t : Tree) (follow : Bool) (path : String) : Except FileError Reached :=
  if Path.hasNul path then .error .nulInName
  else if path.isEmpty then .error (.os .noEntry)
  else if 4096 ≤ path.utf8ByteSize then .error (.os .nameTooLong)
  else (t.resolve follow maxLinks (t.origin path) (componentsOf path)).mapError .os

/-- The place that a path names and what stands there. -/
def locate (t : Tree) (follow : Bool) (path : String) : Except FileError (Place × Entry) := do
  match ← t.reach follow path with
  | .found p e => .ok (p, e)
  | .missing _ _ => .error (.os .noEntry)

/-- Whether a path leads to a directory. -/
def isDirectory (t : Tree) (path : String) : Bool :=
  match t.locate true path with
  | .ok (_, e) => e.isDirectory
  | .error _ => false

/-- Whether a path leads anywhere. -/
def leadsSomewhere (t : Tree) (path : String) : Bool :=
  match t.locate true path with
  | .ok _ => true
  | .error _ => false

/-- The text of a path without the slashes at its end. -/
def dropSlashes (path : String) : String :=
  String.ofList (path.toList.reverse.dropWhile (· == '/')).reverse

/-- Where something new may be made under the name that a path ends in. -/
def vacancy (t : Tree) (path : String) : Except FileError Place := do
  if Path.hasNul path then .error .nulInName
  else if 4096 ≤ path.utf8ByteSize then .error (.os .nameTooLong)
  else
    let named := dropSlashes path
    match (componentsOf named).getLast? with
    | none => .error (.os (if path.isEmpty then .noEntry else .exists_))
    | some last =>
      if last = "." ∨ last = ".." then
        let _ ← t.locate true path
        .error (.os .exists_)
      else
        match ← t.reach false named with
        | .found _ _ => .error (.os .exists_)
        | .missing directory name =>
          if deviceOf directory = .processes then .error (.os .noEntry)
          else .ok (directory ++ [name])

/-- The permission bits that a new directory gets: those asked for that the mask of the process
allows, without the bits for running as the owner. -/
def masked (mode : Nat) : Nat :=
  mode % 0o2000 - (mode &&& 0o022)

/-- Makes a directory. -/
def makeDirectory (t : Tree) (path : String) (mode : Nat) : Except FileError Tree := do
  let p ← t.vacancy path
  .ok (t.put p (.directory (masked mode)))

/-- Gives exactly the given permission bits to what a path leads to. -/
def setMode (t : Tree) (path : String) (mode : Nat) : Except FileError Tree := do
  match ← t.locate true path with
  | (p, .directory _) => .ok (t.put p (.directory mode))
  | (p, .file content _) => .ok (t.put p (.file content mode))
  | _ => .ok t

/-- Makes a directory and those above it that are missing. Anything that is a directory already will
do. The number bounds the directories above; a path has no more of them than characters. -/
def makeDirectories (mode : Nat) : Nat → Tree → String → Tree × Except FileError Unit
  | 0, t, _ => (t, .error (.os .noEntry))
  | n + 1, t, path =>
    if path.isEmpty then (t, .ok ())
    else
      match t.makeDirectory path mode with
      | .ok t => (t, .ok ())
      | .error e =>
        if e.isNotFound then
          match Path.parent? path with
          | none => (t, .error (.custom .uncategorized "failed to create whole tree"))
          | some parent =>
            match makeDirectories mode n t parent with
            | (t, .error e) => (t, .error e)
            | (t, .ok ()) =>
              match t.makeDirectory path mode with
              | .ok t => (t, .ok ())
              | .error e => (t, if t.isDirectory path then .ok () else .error e)
        else (t, if t.isDirectory path then .ok () else .error e)

/-- Makes a directory with everything above it. -/
def createAll (t : Tree) (path : String) (mode : Nat) : Tree × Except FileError Unit :=
  makeDirectories mode (path.length + 1) t path

/-- Makes a target, which then has exactly the given permission bits. -/
def createTarget (t : Tree) (path : String) (mode : Nat) : Tree × Except FileError Unit :=
  match t.createAll path mode with
  | (t, .error e) => (t, .error e)
  | (t, .ok ()) =>
    match t.setMode path mode with
    | .ok t => (t, .ok ())
    | .error e => (t, .error e)

/-- Whether a path looks like a mount point: it lies on another device than its parent. A symbolic
link never does, and the root always does. -/
def looksMounted (t : Tree) (path : String) : Except FileError Bool := do
  let (p, e) ← t.locate false path
  if e.isLink then .ok false
  else
    match Path.parent? path with
    | none => .ok true
    | some parent =>
      let (q, _) ← t.locate true (if parent.isEmpty then "." else parent)
      .ok (deviceOf p != deviceOf q)

/-- Removes what is no directory. A slash at the end asks for a directory, so it is refused. -/
def removeFile (t : Tree) (path : String) : Except FileError Tree := do
  let named := dropSlashes path
  let (p, e) ← t.locate false (if named.isEmpty then path else named)
  if e.isDirectory then .error (.os .isDirectory)
  else if path.endsWith "/" then .error (.os .notDirectory)
  else if deviceOf p = .processes then .error (.os .notPermitted)
  else .ok (t.prune p)

/-- Writes a file; a symbolic link is followed. -/
def writeFile (t : Tree) (path : String) (content : List UInt8) (mode : Nat) :
    Except FileError Tree := do
  match ← t.reach true path with
  | .found _ (.directory _) => .error (.os .isDirectory)
  | .found p (.file _ old) => .ok (t.put p (.file content old))
  | .found _ _ => .ok t
  | .missing directory name => .ok (t.put (directory ++ [name]) (.file content mode))

/-- Something new under the name that a path ends in. -/
def place (t : Tree) (path : String) (e : Entry) : Except FileError Tree := do
  .ok (t.put (← t.vacancy path) e)

/-- Four octal digits. -/
def octal (mode : Nat) : String :=
  let digits := Nat.toDigits 8 mode
  String.ofList (List.replicate (4 - digits.length) '0' ++ digits)

/-- One line for what stands at a place below the current directory. -/
def listing (name : Place) : Entry → String
  | .directory mode => "/".intercalate name ++ "/ " ++ octal mode
  | .link target => "/".intercalate name ++ " -> " ++ target
  | _ => "/".intercalate name

/-- Everything below the current directory, in the order of the lines. -/
def list (t : Tree) : List String :=
  let below := t.entries.filterMap fun (p, e) =>
    if t.current.isPrefixOf p && t.current != p then some (listing (p.drop t.current.length) e)
    else none
  below.mergeSort fun a b => a ≤ b

/-- The programs of the host. -/
def utilities : List String :=
  ["sh", "dash", "true", "false", "echo", "printf", "cat", "head", "tail", "tr", "wc", "yes", "seq",
   "sleep", "sort", "tee", "rm", "rmdir", "mkdir", "touch", "ln", "chmod", "ls", "basename",
   "dirname"]

/-- What the host provides: its programs and devices, and the directory of its processes. -/
def provided : List (Place × Entry) :=
  [["bin"], ["usr"], ["usr", "bin"], ["dev"], ["proc"], ["proc", "1"], ["proc", "sys"],
    ["work"]].map (·, .directory 0o755)
    ++ utilities.map (fun u => (["bin", u], .utility u))
    ++ utilities.map (fun u => (["usr", "bin", u], .utility u))
    ++ ["null", "zero", "stdout", "stderr", "stdin", "tty"].map (fun d => (["dev", d], .device d))
    ++ [(["proc", "self"], .link "1"), (["proc", "1", "stat"], .device "stat"),
      (["proc", "mounts"], .link "self/mounts"), (["proc", "version"], .device "version")]

/-- The tree of a host with an empty current directory. -/
def fresh : Tree :=
  ⟨provided, ["work"]⟩

/-- Bounds on the directories above a path make no difference if they are beyond its length. -/
theorem makeDirectories_eq {m n mode : Nat} {t : Tree} {path : String} (hm : path.length < m)
    (hn : path.length < n) : makeDirectories mode m t path = makeDirectories mode n t path := by
  induction m generalizing n t path with
  | zero => omega
  | succ m ih =>
    obtain ⟨n, rfl⟩ : ∃ n', n = n' + 1 := ⟨n - 1, by omega⟩
    unfold makeDirectories
    cases hp : Path.parent? path with
    | none => rfl
    | some parent =>
      have hlt := Path.length_lt_of_parent? hp
      dsimp only
      rw [ih (by omega) (by omega : parent.length < n)]

/-- **All directories above a path are made**, however many they are. -/
theorem createAll_eq {n mode : Nat} {t : Tree} {path : String} (h : path.length < n) :
    t.createAll path mode = makeDirectories mode n t path :=
  makeDirectories_eq (Nat.lt_succ_self _) h

end Tree

end VolumeNode.Host
