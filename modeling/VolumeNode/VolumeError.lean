import VolumeNode.Duration
import VolumeNode.FileError

/-!
# Failures of volume calls

A failure is its cause. Its kind tells a client whether the request was wrong, a command ran past
its limit, a command failed, or something else did; its message is the wording of the cause. Main
statement: `kind_eq_invalidArgument_iff`: which failures are the fault of the request.
-/

namespace VolumeNode

/-- What a request may lack. -/
inductive MissingItem where
  | capability
  | volumeId
  | targetPath
  | image
  deriving DecidableEq, Repr

/-- The wording for something a request lacks. -/
def MissingItem.message : MissingItem → String
  | capability => "Volume capability missing in request"
  | volumeId => "Volume ID missing in request"
  | targetPath => "Target path missing in request"
  | image => "Image missing in volume attributes"

/-- What a failure is to a client. -/
inductive Kind where
  /-- The request is malformed or incomplete. -/
  | invalidArgument
  /-- A command ran past its limit. -/
  | timeout
  /-- A command could not be started or did not succeed. -/
  | processFailure
  /-- Anything else. -/
  | internal
  deriving DecidableEq, Repr

/-- Why a call failed. -/
inductive VolumeError where
  /-- The request lacks something. -/
  | missing (item : MissingItem)
  /-- The request cannot be read. -/
  | malformed (fault : String)
  /-- The request is refused for a stated reason. -/
  | invalid (reason : String)
  /-- A command ran past its limit and was killed. -/
  | timeout (command : String) (limit : Duration)
  /-- A command could not be started or did not succeed. -/
  | processFailure (command status output : String)
  /-- The tool printed nothing that could be a root path. -/
  | noRootPath (volume : String)
  /-- The target could not be inspected. -/
  | inspection (target : String) (cause : FileError)
  /-- The target could not be created. -/
  | creation (target : String) (cause : FileError)
  /-- The target could not be unmounted. -/
  | unmounting (target : String) (cause : VolumeError)
  /-- A failure of the host for a stated reason. -/
  | internal (reason : String)
  /-- A file operation failed. -/
  | file (cause : FileError)
  /-- A mount or unmount was refused by the kernel. -/
  | mount (cause : Errno)
  deriving DecidableEq, Repr

namespace VolumeError

/-- What the failure is to a client. -/
def kind : VolumeError → Kind
  | missing _ | malformed _ | invalid _ => .invalidArgument
  | timeout .. => .timeout
  | processFailure .. => .processFailure
  | noRootPath _ | inspection .. | creation .. | unmounting .. | internal _ | file _ | mount _ =>
    .internal

/-- The wording of a failure. -/
def message : VolumeError → String
  | missing item => item.message
  | malformed fault => "malformed request: " ++ fault
  | invalid reason => reason
  | timeout command limit => "command `" ++ command ++ "` timed out after " ++ limit.text
  | processFailure command status output =>
    "command `" ++ command ++ "` failed (" ++ status ++ "): " ++ output
  | noRootPath volume => "image tool returned no root path for volume " ++ volume
  | inspection target cause =>
    "failed to inspect mount point " ++ target ++ ": " ++ cause.message
  | creation target cause => "failed to create target path " ++ target ++ ": " ++ cause.message
  | unmounting target cause => "failed to unmount " ++ target ++ ": " ++ cause.message
  | internal reason => reason
  | file cause => "I/O error: " ++ cause.message
  | mount cause => "mount error: " ++ cause.describe

/-- Which failures are the fault of the request. -/
theorem kind_eq_invalidArgument_iff {e : VolumeError} :
    e.kind = .invalidArgument ↔
      (∃ i, e = missing i) ∨ (∃ f, e = malformed f) ∨ ∃ r, e = invalid r := by
  cases e <;> simp [kind]

end VolumeError

end VolumeNode
