import VolumeNode.Connection.Exchange
import VolumeNode.Host.Basic

/-!
# The socket of the node

The node listens on a socket in the file tree. What is missing above it is created, and whatever
stands in its place is removed first; the socket is removed at the end. A node that cannot listen answers
nobody.
-/

namespace VolumeNode.Host

/-- Why the node cannot listen. -/
inductive ListenError where
  /-- A directory above the socket could not be created. -/
  | directory (path : String) (cause : FileError)
  /-- What stood in the place of the socket could not be removed. -/
  | removal (cause : FileError)
  /-- The socket could not be made. -/
  | binding (path : String) (cause : FileError)
  deriving DecidableEq, Repr

namespace ListenError

/-- What was being done. -/
def context? : ListenError → Option String
  | directory path _ => some ("failed to create " ++ path)
  | removal _ => none
  | binding path _ => some ("failed to bind " ++ path)

/-- The file operation that failed. -/
def cause : ListenError → FileError
  | directory _ e | removal e | binding _ e => e

/-- The failure on one line. -/
def message (e : ListenError) : String :=
  match e.context? with
  | some context => context ++ ": " ++ e.cause.message
  | none => e.cause.message

/-- The failure with its cause in a paragraph of its own. -/
def report (e : ListenError) : String :=
  match e.context? with
  | some context => context ++ "\n\nCaused by:\n    " ++ e.cause.message
  | none => e.cause.message

end ListenError

/-- The address of a socket has room for so many octets and one more. -/
def maxSocketPath : Nat :=
  107

namespace Tree

/-- Makes a socket. An empty path asks for one without a name. -/
def bindSocket (t : Tree) (path : String) : Except FileError Tree :=
  if Path.hasNul path then
    .error (.custom .invalidInput "paths must not contain interior null bytes")
  else if maxSocketPath < path.utf8ByteSize then
    .error (.custom .invalidInput "path must be shorter than SUN_LEN")
  else if path.isEmpty then .ok t
  else
    match t.vacancy path with
    | .ok p => if path.endsWith "/" then .error (.os .noEntry) else .ok (t.put p .socket)
    | .error e => .error (if e = .os .exists_ then .os .addressInUse else e)

/-- Makes the socket with the directories above it; what stands in its place goes. -/
def listen (t : Tree) (path : String) : Tree × Except ListenError Unit :=
  let parent := Path.parent? path
  match t.createAll (parent.getD "") 0o777 with
  | (t, .error e) => (t, .error (.directory (parent.getD "") e))
  | (t, .ok ()) =>
    match if t.leadsSomewhere path then t.removeFile path else .ok t with
    | .error e => (t, .error (.removal e))
    | .ok t =>
      match t.bindSocket path with
      | .ok t => (t, .ok ())
      | .error e => (t, .error (.binding path e))

end Tree

/-- What the clients get that connect one after the other. -/
def converse (c : Config) : List Output → Host → List Output × Host
  | [], h => ([], h)
  | sent :: rest, h =>
    let (received, h) := h.perform (Connection.exchange c sent)
    let (others, h) := converse c rest h
    (received :: others, h)

/-- Listens, answers the clients and stops. -/
def serve (h : Host) (c : Config) (socket : String) (clients : List Output) :
    Except ListenError (List Output) × Host :=
  match h.tree.listen socket with
  | (t, .error e) => (.error e, { h with tree := t })
  | (t, .ok ()) =>
    let (received, h) := converse c clients { h with tree := t }
    (.ok received, { h with tree := (h.tree.removeFile socket).toOption.getD h.tree })

end VolumeNode.Host
