import VolumeNode.Command
import VolumeNode.Node.Action
import VolumeNode.Text.Utf8

/-!
# The image tool

A rehearsed image tool knows the names and the images of its instances. It refuses a name that is in
use, and it knows nothing of an instance that it has not created or has deleted. Main statement:
`nodup_run`: no two instances ever have one name.
-/

namespace VolumeNode.Host

/-- The image of each instance. -/
abbrev Instances := List (String × String)

namespace Instances

/-- Whether there is an instance of the name. -/
def has (s : Instances) (name : String) : Bool :=
  s.any (·.1 == name)

/-- How the tool says no. -/
def refusal (text : String) : Except VolumeError Output :=
  .error (.processFailure "buildah" "exit status: 125" ("Error: " ++ text ++ "\n"))

/-- How the tool says that there is no such instance. -/
def unknown (name : String) : Except VolumeError Output :=
  refusal (name ++ ": container not known")

/-- What the tool prints. -/
def printed (text : String) : Except VolumeError Output :=
  .ok (Text.Utf8.encode text)

/-- A run of the tool. -/
def run (s : Instances) : List String → Except VolumeError Output × Instances
  | ["from", "--name", name, "--pull", image] =>
    if s.has name then (refusal ("the container name \"" ++ name ++ "\" is already in use"), s)
    else (printed ("  /var/lib/containers/storage/" ++ name ++ "/merged\n"), s ++ [(name, image)])
  | ["mount", name] =>
    (if s.has name then printed ("/run/mounts/" ++ name ++ "\n") else unknown name, s)
  | ["delete", name] =>
    if s.has name then (printed "", s.filter (·.1 != name)) else (unknown name, s)
  | _ => (printed "", s)

/-- The names of the instances. -/
def names (s : Instances) : List String :=
  s.map Prod.fst

theorem has_iff {s : Instances} {name : String} : s.has name = true ↔ name ∈ s.names := by
  simp [has, names]

/-- Whatever the tool is asked for, no two instances get one name. -/
theorem nodup_run {s : Instances} (h : s.names.Nodup) (arguments : List String) :
    (s.run arguments).2.names.Nodup := by
  unfold run
  split
  next name image =>
    split
    next => exact h
    next hname =>
      rw [has_iff] at hname
      simp only [names, List.map_append, List.map_cons, List.map_nil]
      exact List.nodup_append.2 ⟨h, by simp, by rintro _ ha _ hb rfl; simp_all [names]⟩
  next => exact h
  next name =>
    split
    next => exact h.sublist (List.filter_sublist.map _)
    next => exact h
  next => exact h

end Instances

end VolumeNode.Host
