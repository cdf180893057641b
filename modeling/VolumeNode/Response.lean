import VolumeNode.VolumeError

/-!
# Responses

A response says whether a call succeeded and, if not, how it failed: a code of two values, the kind
of the failure and its message. Main statements:

* `ok_ofResult_iff`: a response to a call is positive exactly when it carries no failure.
* `code_ofError`: the code follows from the kind.
-/

namespace VolumeNode

/-- Who has to act on a failure. -/
inductive Code where
  /-- The client has to change the request. -/
  | invalidArgument
  | internal
  deriving DecidableEq, Repr

/-- The code of a kind. -/
def Kind.code : Kind → Code
  | .invalidArgument => .invalidArgument
  | .timeout | .processFailure | .internal => .internal

/-- A failed call as a client sees it. -/
structure Status where
  code : Code
  kind : Kind
  message : String
  deriving DecidableEq, Repr

/-- The name of a code in prose. -/
def Code.title : Code → String
  | .invalidArgument => "InvalidArgument"
  | .internal => "Internal"

/-- The name of a kind in prose. -/
def Kind.title : Kind → String
  | .invalidArgument => "InvalidArgument"
  | .timeout => "Timeout"
  | .processFailure => "ProcessFailure"
  | .internal => "Internal"

namespace Status

/-- The status of a failure. -/
def ofError (e : VolumeError) : Status :=
  ⟨e.kind.code, e.kind, e.message⟩

/-- A status in prose. -/
def display (s : Status) : String :=
  s.code.title ++ ": " ++ s.message

/-- A status in prose, with its kind. -/
def report (s : Status) : String :=
  s.code.title ++ " (" ++ s.kind.title ++ "): " ++ s.message

end Status

/-- The answer to a request. -/
structure Response where
  ok : Bool
  error : Option Status
  deriving DecidableEq, Repr

namespace Response

/-- The answer to a call that has ended. -/
def ofResult : Except VolumeError Unit → Response
  | .ok () => ⟨true, none⟩
  | .error e => ⟨false, some (Status.ofError e)⟩

/-- A response to a call is positive exactly when it carries no failure. -/
theorem ok_ofResult_iff (r : Except VolumeError Unit) :
    (ofResult r).ok = true ↔ (ofResult r).error = none := by
  cases r <;> simp [ofResult]

end Response

theorem Status.code_ofError (e : VolumeError) :
    (Status.ofError e).code = .invalidArgument ↔ (Status.ofError e).kind = .invalidArgument := by
  cases h : e.kind <;> simp [Status.ofError, Kind.code, h]

end VolumeNode
