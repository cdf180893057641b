import VolumeNode.Mount.Options
import VolumeNode.Node.Action

/-!
# Target paths

A root is mounted on a target once: a target that looks mounted is left alone, and so is one that
does not when it is to be unmounted. A target that does not exist is not mounted. Main statement:
`understood_eq_error_iff`: which inspections fail.
-/

namespace VolumeNode.Target

/-- How an inspection is understood: a target that is not there is not mounted. -/
def understood (target : String) : Except FileError Bool → Except VolumeError Bool
  | .ok mounted => .ok mounted
  | .error e => if e.isNotFound then .ok false else .error (.inspection target e)

/-- Whether the target looks mounted. -/
def isMounted (target : String) : Call Bool :=
  (Action.inspect target).take.bind fun r => .done (understood target r)

/-- Creates a target that does not exist. -/
def create (target : String) (mode : Nat) : Call Unit :=
  (Action.create target mode).take.bind fun r => .done (r.mapError (.creation target))

/-- Mounts the root on the target as a bind. -/
def bindRoot (target root : String) (readOnly : Bool) (extra : List String) : Call Unit :=
  (Action.mount root target none (MountOptions.forBind readOnly extra)).take

/-- Mounts the root on the target unless the target looks mounted; a target that does not exist is
created first. -/
def publish (mode : Nat) (target root : String) (readOnly : Bool) (extra : List String) : Call Unit :=
  (Action.inspect target).take.bind fun
    | .ok true => .done (.ok ())
    | .ok false => bindRoot target root readOnly extra
    | .error e =>
      if e.isNotFound then
        (create target mode).andThen fun () => bindRoot target root readOnly extra
      else .done (.error (.inspection target e))

/-- Unmounts the target if it looks mounted. -/
def unpublish (target : String) : Call Unit :=
  (isMounted target).andThen fun mounted =>
    if mounted then
      (Action.unmount target).take.bind fun r => .done (r.mapError (.unmounting target))
    else .done (.ok ())

/-- Only an answer that is a failure other than "not found" makes the inspection fail. -/
theorem understood_eq_error_iff {target : String} {r : Except FileError Bool} {e : VolumeError} :
    understood target r = .error e ↔
      ∃ f, r = .error f ∧ f.isNotFound = false ∧ e = .inspection target f := by
  cases r with
  | ok b => simp [understood]
  | error f =>
    cases h : f.isNotFound
    · constructor
      · intro he
        exact ⟨f, rfl, h, by simpa [understood, h] using he.symm⟩
      · rintro ⟨g, hg, -, rfl⟩
        cases hg
        simp [understood, h]
    · constructor
      · intro he
        simp [understood, h] at he
      · rintro ⟨g, hg, hn, -⟩
        cases hg
        simp [h] at hn

end VolumeNode.Target
