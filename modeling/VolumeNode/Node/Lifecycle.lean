import VolumeNode.Node.Image
import VolumeNode.Node.Target
import VolumeNode.Request
import VolumeNode.Response

/-!
# Volume calls

A request is checked before anything is asked of the world. Calls of one volume exclude each other;
publishing looks at the target under the lock and provisions only if it is not mounted; unpublishing
deletes the instance only when the target is known to be down. Staging does nothing and succeeds.
-/

namespace VolumeNode.Node

/-- A part of a call during which no other call of the same volume goes on. -/
def underLock {α : Type} (volume : String) (body : Call α) : Call α :=
  (Action.enter volume).take.bind fun ticket =>
    (Action.acquire ticket).take.bind fun _ =>
      body.bind fun r =>
        (Action.release ticket).take.bind fun _ =>
          (Action.discard volume).take.bind fun _ => .done r

/-- What publishing needs of a complete request. -/
structure Publication where
  volume : String
  target : String
  image : String
  access : MountAccess
  readOnly : Bool
  deriving DecidableEq

/-- The first thing a publish request lacks, or what publishing needs of it. -/
def checkPublish (r : PublishRequest) : Except MissingItem Publication :=
  match r.capability with
  | none => .error .capability
  | some capability =>
    if r.volumeId.isEmpty then .error .volumeId
    else if r.targetPath.isEmpty then .error .targetPath
    else
      match (r.volumeContext.get? PublishRequest.imageAttribute).filter (!·.isEmpty) with
      | none => .error .image
      | some image =>
        .ok ⟨r.volumeId, r.targetPath, image, capability.mount.getD {}, r.readonly⟩

/-- The first thing an unpublish request lacks. -/
def checkUnpublish (r : UnpublishRequest) : Except MissingItem Unit :=
  if r.volumeId.isEmpty then .error .volumeId
  else if r.targetPath.isEmpty then .error .targetPath
  else .ok ()

/-- Publishing, under the lock of the volume. -/
def publishBody (c : Config) (p : Publication) : Call Unit :=
  (Target.isMounted p.target).andThen fun mounted =>
    if mounted then .done (.ok ())
    else
      (Image.provision c p.volume p.image).andThen fun root =>
        Target.publish c.targetDirMode p.target root p.readOnly p.access.mountFlags

/-- Unpublishing, under the lock of the volume. -/
def unpublishBody (c : Config) (volume target : String) : Call Unit :=
  (Target.unpublish target).andThen fun () => Image.release c volume

/-- Exposes an image at a target path. -/
def publishVolume (c : Config) (r : PublishRequest) : Call Unit :=
  match checkPublish r with
  | .error item => .done (.error (.missing item))
  | .ok p => underLock p.volume (publishBody c p)

/-- Takes a volume down. -/
def unpublishVolume (c : Config) (r : UnpublishRequest) : Call Unit :=
  match checkUnpublish r with
  | .error item => .done (.error (.missing item))
  | .ok () => underLock r.volumeId (unpublishBody c r.volumeId r.targetPath)

/-- The call that a request asks for. Staging and unstaging do nothing. -/
def call (c : Config) : Request → Call Unit
  | .publish r => publishVolume c r
  | .unpublish r => unpublishVolume c r
  | .stage _ | .unstage _ => .done (.ok ())

/-- The call that a request asks for, with its response. -/
def handle (c : Config) (r : Request) : Program Action.interface Response :=
  (call c r).bind fun result => .done (Response.ofResult result)

end VolumeNode.Node
