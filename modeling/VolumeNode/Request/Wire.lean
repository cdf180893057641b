import VolumeNode.Request
import VolumeNode.Json.Record
import VolumeNode.Json.Reader
import VolumeNode.Json.Printer

/-!
# Requests as JSON text

A request is an object with the member `method`, which names its kind, and the fields of that kind;
or a list of the name and the fields in order. The kind is decided while the text is read. The
fields are decoded when the whole value has been read, so that their faults have no place, and
before anything behind the value is looked at.
-/

namespace VolumeNode

open Json

/-- The fields of file system access. -/
def MountAccess.record : Record MountAccess where
  label := "struct MountVolume"
  default := {}
  fields := [
    field "fs_type" text fun r v => { r with fsType := v },
    field "mount_flags" texts fun r v => { r with mountFlags := v }]

/-- The fields of a capability. -/
def Capability.record : Record Capability where
  label := "struct VolumeCapability"
  default := {}
  fields := [field "mount" (optional MountAccess.record.decode) fun r v => { r with mount := v }]

/-- The fields of a publish request. -/
def PublishRequest.record : Record PublishRequest where
  label := "struct PublishVolumeRequest"
  default := {}
  fields := [
    field "volume_id" text fun r v => { r with volumeId := v },
    field "target_path" text fun r v => { r with targetPath := v },
    field "volume_capability" (optional Capability.record.decode)
      fun r v => { r with capability := v },
    field "volume_context" attributes fun r v => { r with volumeContext := v },
    field "publish_context" attributes fun r v => { r with publishContext := v },
    field "readonly" truth fun r v => { r with readonly := v }]

/-- The fields of an unpublish request. -/
def UnpublishRequest.record : Record UnpublishRequest where
  label := "struct UnpublishVolumeRequest"
  default := {}
  fields := [
    field "volume_id" text fun r v => { r with volumeId := v },
    field "target_path" text fun r v => { r with targetPath := v }]

/-- The fields of a stage or unstage request. -/
def StageRequest.record : Record StageRequest where
  label := "struct StageVolumeRequest"
  default := {}
  fields := [
    field "volume_id" text fun r v => { r with volumeId := v },
    field "staging_target_path" text fun r v => { r with stagingTargetPath := v }]

namespace Request

/-- What has been read of a request before its fields are decoded: the members of an object other
than the method, or the items of a list behind it. -/
inductive Content where
  | members (ms : List (String × Json))
  | items (vs : List Json)

/-- A record from the content. -/
def Content.decode {α : Type} (r : Record α) : Content → Except Cause α
  | .members ms => r.ofMembers ms
  | .items vs => r.ofItems vs

/-- The request of a kind from the content. -/
def decodeContent (c : Content) : Method → Except Cause Request
  | .publish => do .ok (.publish (← c.decode PublishRequest.record))
  | .unpublish => do .ok (.unpublish (← c.decode UnpublishRequest.record))
  | .stage => do .ok (.stage (← c.decode StageRequest.record))
  | .unstage => do .ok (.unstage (← c.decode StageRequest.record))

/-- The member that names the kind. -/
def tag : String :=
  "method"

/-- The name of a kind. -/
def readMethod : Reader Method := fun cs =>
  match skip cs with
  | '"' :: rest => do
    let (name, rest) ← readString true rest
    match Method.ofName? name with
    | some m => .ok (m, rest)
    | none => .error (.before (.unknownVariant name (Method.all.map (·.name))) rest)
  | rest => .error (wrongType "variant identifier" rest)

/-- A value inside a request. -/
def readField : Reader Json :=
  readValue (maxDepth - 1)

/-- The kind, once it has been read, and the other members, the last first. -/
abbrev Tagged (α : Type) :=
  Option Method × List α

/-- One member of a request. -/
def tagMember (seen : Tagged (String × Json)) (name : String) : Reader (Tagged (String × Json)) :=
  fun cs =>
    if name = tag then
      if seen.1.isSome then .error (.before (.duplicateField tag) (behindName cs))
      else do
        let (_, rest) ← readColon cs
        let (m, rest) ← readMethod rest
        .ok ((some m, seen.2), rest)
    else do
      let (members, rest) ← readMember readField seen.2 name cs
      .ok ((seen.1, members), rest)

/-- One item of a request. -/
def tagItem (seen : Tagged Json) : Reader (Tagged Json) := fun cs =>
  if seen.1.isNone then do
    let (m, rest) ← readMethod cs
    .ok ((some m, seen.2), rest)
  else do
    let (v, rest) ← readField cs
    .ok ((seen.1, v :: seen.2), rest)

/-- The kind that must have been read. -/
def needTag {α : Type} (seen : Tagged α) (content : List α → Content) : Reader (Method × Content) :=
  fun rest =>
    match seen.1 with
    | some m => .ok ((m, content seen.2.reverse), rest)
    | none => .error (.before (.missingField tag) rest)

/-- The kind and the content of a request. -/
def readTagged : Reader (Method × Content) := fun cs =>
  match skip cs with
  | '\x7b' :: rest => do
    let (seen, rest) ← readMembers tagMember (none, []) rest
    needTag seen .members rest
  | '[' :: rest => do
    let (seen, rest) ← readItems tagItem (none, []) rest
    needTag seen .items rest
  | rest => .error (wrongType "internally tagged enum NodeRequest" rest)

/-- The request that a text is. -/
def decode (s : List Char) : Except Fault Request := do
  let ((m, content), rest) ← readTagged s
  match decodeContent content m with
  | .error cause => .error (.unplaced cause)
  | .ok r => do
    readEnd rest
    .ok r

/-- A map as an object. -/
def attributesJson (m : Attributes) : Json :=
  .object (m.entries.map fun e => (e.1, .string e.2))

/-- File system access as an object. -/
def accessJson (m : MountAccess) : Json :=
  .object [("fs_type", .string m.fsType), ("mount_flags", .array (m.mountFlags.map .string))]

/-- A value that may be absent. -/
def optionJson {α : Type} (f : α → Json) : Option α → Json
  | none => .null
  | some a => f a

/-- A capability as an object. -/
def capabilityJson (c : Capability) : Json :=
  .object [("mount", optionJson accessJson c.mount)]

/-- The fields of a request. -/
def fieldsJson : Request → List (String × Json)
  | .publish r => [
      ("volume_id", .string r.volumeId),
      ("target_path", .string r.targetPath),
      ("volume_capability", optionJson capabilityJson r.capability),
      ("volume_context", attributesJson r.volumeContext),
      ("publish_context", attributesJson r.publishContext),
      ("readonly", .bool r.readonly)]
  | .unpublish r => [("volume_id", .string r.volumeId), ("target_path", .string r.targetPath)]
  | .stage r =>
    [("volume_id", .string r.volumeId), ("staging_target_path", .string r.stagingTargetPath)]
  | .unstage r =>
    [("volume_id", .string r.volumeId), ("staging_target_path", .string r.stagingTargetPath)]

/-- A request as an object. -/
def toJson (r : Request) : Json :=
  .object ((tag, .string r.method.name) :: r.fieldsJson)

/-- A request as text. -/
def encode (r : Request) : String :=
  r.toJson.render

end Request

end VolumeNode
