import VolumeNode.Duration

/-!
# Settings of the node

Settings are fixed when the node starts. A limit of zero is no limit.
-/

namespace VolumeNode

/-- The settings that every request shares. -/
structure Config where
  /-- The image tool. -/
  toolPath : String := "/bin/buildah"
  /-- The limit of each command, if there is one. -/
  timeout : Option Duration := none
  /-- The permission bits of a target that has to be created. -/
  targetDirMode : Nat := 0o750
  /-- Whether the root is asked for with a command of its own. -/
  resolveRoot : Bool := false
  deriving DecidableEq, Repr, Inhabited

namespace Config

/-- The settings with a limit for each command. -/
def withTimeout (c : Config) (d : Duration) : Config :=
  { c with timeout := d.asLimit }

/-- The settings with other permission bits. -/
def withTargetDirMode (c : Config) (mode : Nat) : Config :=
  { c with targetDirMode := mode }

/-- The settings with or without a command of its own for the root. -/
def withRootResolution (c : Config) (enabled : Bool) : Config :=
  { c with resolveRoot := enabled }

end Config

end VolumeNode
