import VolumeNode.CommandLine.Fault
import VolumeNode.CommandLine.Seconds
import VolumeNode.FileMode

/-!
# Parameters of the command line

What can be said on a command line, where, and how often. Some parameters belong to every
subcommand and may stand in front of it as well. Main statement:
`shared_subset`: every subcommand has the parameters that all of them share.
-/

namespace VolumeNode.CommandLine

/-- Something that can be said on a command line. -/
inductive Parameter where
  | help
  | version
  | verbose
  | tool
  | timeout
  | targetDirMode
  | resolveRoot
  | socket
  | image
  | readOnly
  | mountFlag
  | fsType
  | deviceId
  | volume
  | target
  deriving DecidableEq, Repr

/-- How often a parameter can be given, and whether it has a value. -/
inductive Arity where
  /-- Given or not, without a value. -/
  | switch
  /-- One value at most. -/
  | single
  /-- Any number of values. -/
  | repeated
  deriving DecidableEq, Repr

namespace Parameter

/-- The name behind two dashes. -/
def long : Parameter → String
  | help => "help"
  | version => "version"
  | verbose => "verbose"
  | tool => "tool"
  | timeout => "timeout-secs"
  | targetDirMode => "target-dir-mode"
  | resolveRoot => "resolve-root-with-mount"
  | socket => "socket"
  | image => "image"
  | readOnly => "readonly"
  | mountFlag => "mount-flag"
  | fsType => "fs-type"
  | deviceId => "device-id"
  | volume => "VOLUME_ID"
  | target => "TARGET_PATH"

/-- The letter behind one dash. -/
def short? : Parameter → Option Char
  | help => some 'h'
  | version => some 'V'
  | verbose => some 'v'
  | socket => some 's'
  | image => some 'i'
  | readOnly => some 'r'
  | mountFlag => some 'o'
  | _ => none

/-- How often a parameter can be given. -/
def arity : Parameter → Arity
  | help | version | verbose | resolveRoot | readOnly => .switch
  | mountFlag => .repeated
  | _ => .single

/-- The variable that speaks for a parameter that is not given. -/
def envName? : Parameter → Option String
  | tool => some "IMGVOL_TOOL"
  | timeout => some "IMGVOL_TIMEOUT_SECS"
  | _ => none

/-- Whether a value is understood. -/
def check (p : Parameter) (value : String) : Except Fault Unit :=
  match p with
  | tool | socket => if value.isEmpty then .error .invalidValue else .ok ()
  | timeout =>
    match Seconds.parse value with
    | .ok _ => .ok ()
    | .error f => .error (.refusedValue f.message)
  | targetDirMode =>
    match FileMode.parse value with
    | .ok _ => .ok ()
    | .error refusal => .error (.refusedValue refusal)
  | _ => .ok ()

/-- The parameters that every subcommand has. -/
def shared : List Parameter :=
  [verbose, tool, timeout, targetDirMode, resolveRoot]

end Parameter

/-- The part of the command line in front of the subcommand, or the part behind it. -/
inductive Level where
  | top
  | serve
  | publish
  | unpublish
  | stage
  | unstage
  deriving DecidableEq, Repr

namespace Level

open Parameter

/-- The subcommand of a name. -/
def ofName? : String → Option Level
  | "serve" => some serve
  | "publish" => some publish
  | "unpublish" => some unpublish
  | "stage" => some stage
  | "unstage" => some unstage
  | _ => none

/-- The options that are understood. -/
def options : Level → List Parameter
  | top => shared ++ [help, version]
  | serve => socket :: (shared ++ [help])
  | publish => [image, readOnly, mountFlag, fsType, deviceId] ++ (shared ++ [help])
  | unpublish | stage | unstage => shared ++ [help]

/-- What the words without a dash stand for, in order. -/
def operands : Level → List Parameter
  | top | serve => []
  | publish | unpublish | stage | unstage => [volume, target]

/-- What must be given. -/
def required : Level → List Parameter
  | publish => [volume, target, image]
  | l => l.operands

/-- The option of a name. -/
def long? (l : Level) (name : String) : Option Parameter :=
  l.options.find? (·.long == name)

/-- The option of a letter. -/
def short? (l : Level) (c : Char) : Option Parameter :=
  l.options.find? (·.short? == some c)

/-- Every subcommand has the parameters that all of them share. -/
theorem shared_subset (l : Level) : ∀ p ∈ shared, p ∈ l.options := by
  cases l <;> simp [options] <;> grind

end Level

end VolumeNode.CommandLine
