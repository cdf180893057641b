import VolumeNode.Attributes

/-!
# Requests

What a client may ask of the node: to publish an image at a target path, to take a published volume
down, and to stage and unstage a volume.
-/

namespace VolumeNode

/-- How a volume is accessed as a file system. -/
structure MountAccess where
  /-- A hint that a bind mount does not use. -/
  fsType : String := ""
  /-- Options added to those of the mount. -/
  mountFlags : List String := []
  deriving DecidableEq, Inhabited

/-- What a volume is published with. -/
structure Capability where
  mount : Option MountAccess := none
  deriving DecidableEq, Inhabited

/-- Exposes an image at a target path. -/
structure PublishRequest where
  /-- The volume, and the name of its image instance. -/
  volumeId : String := ""
  /-- The directory that the root of the image is mounted on. -/
  targetPath : String := ""
  capability : Option Capability := none
  /-- Attributes of the volume; one of them names the image. -/
  volumeContext : Attributes := Attributes.empty
  publishContext : Attributes := Attributes.empty
  readonly : Bool := false
  deriving DecidableEq, Inhabited

namespace PublishRequest

/-- The attribute of a volume that names the image. -/
def imageAttribute : String :=
  "image"

/-- The attribute of a publication that names the device. -/
def deviceAttribute : String :=
  "deviceID"

end PublishRequest

/-- Takes a published volume down. -/
structure UnpublishRequest where
  volumeId : String := ""
  targetPath : String := ""
  deriving DecidableEq, Inhabited

/-- Stages or unstages a volume. -/
structure StageRequest where
  volumeId : String := ""
  stagingTargetPath : String := ""
  deriving DecidableEq, Inhabited

/-- A request of a client. -/
inductive Request where
  | publish (r : PublishRequest)
  | unpublish (r : UnpublishRequest)
  | stage (r : StageRequest)
  | unstage (r : StageRequest)
  deriving DecidableEq, Inhabited

/-- The kinds of requests. -/
inductive Method where
  | publish
  | unpublish
  | stage
  | unstage
  deriving DecidableEq, Repr

namespace Method

/-- All kinds. -/
def all : List Method :=
  [publish, unpublish, stage, unstage]

/-- The name of a kind in a request. -/
def name : Method → String
  | publish => "publish"
  | unpublish => "unpublish"
  | stage => "stage"
  | unstage => "unstage"

/-- The kind of the given name. -/
def ofName? (s : String) : Option Method :=
  all.find? (·.name == s)

theorem ofName?_name (m : Method) : ofName? m.name = some m := by
  cases m <;> decide

end Method

/-- The kind of a request. -/
def Request.method : Request → Method
  | .publish _ => .publish
  | .unpublish _ => .unpublish
  | .stage _ => .stage
  | .unstage _ => .unstage

end VolumeNode
