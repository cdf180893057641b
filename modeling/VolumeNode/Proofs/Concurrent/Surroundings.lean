import VolumeNode.Proofs.Concurrent.Places

/-!
# What calls meet with

How each step of each call ends may depend on the call, on how many steps it has taken, and on the
state of the instance or of the target that the step names. The `faultless` surroundings are those in
which nothing fails that need not; they keep a record of the runs of the tool and of the mounts made.

* `Surroundings.reading_local`: a step of a call is local to its volume.
-/

namespace VolumeNode.Node

variable {A B ι : Type}

/-- How each step of each call ends, given how many steps the call has taken, and the state of the
instance or of the target that the step names. -/
structure Surroundings (A B ι : Type) where
  inspect : ι → ℕ → B → Except FileError Bool
  create : ι → ℕ → ℕ → B → Except FileError Unit × B
  mount : ι → ℕ → String → Option String → List String → B → Except VolumeError Unit × B
  unmount : ι → ℕ → B → Except VolumeError Unit × B
  runTool : ι → ℕ → Command → A → Except VolumeError Output × A

namespace Surroundings

/-- What the steps of a call do. -/
def reading (e : Surroundings A B ι) (i : ι) : Reading Action.interface (Places A B)
  | _, .enter v => .enter v
  | _, .acquire m => .acquire m
  | _, .release m => .release m
  | _, .discard v => .discard v
  | k, .inspect t => .outside (Places.onTarget t fun b => (e.inspect i k b, b))
  | k, .create t mode => .outside (Places.onTarget t (e.create i k mode))
  | k, .mount source t fsType options =>
    .outside (Places.onTarget t (e.mount i k source fsType options))
  | k, .unmount t => .outside (Places.onTarget t (e.unmount i k))
  | k, .runTool command =>
    match namedInstance? command with
    | some v => .outside (Places.onInstance v (e.runTool i k command))
    | none => .outside fun w => (.error (.invalid command.line), w)

theorem readsLocks (e : Surroundings A B ι) (i : ι) : ReadsLocks (e.reading i) :=
  ⟨fun _ _ => rfl, fun _ _ => rfl, fun _ _ => rfl, fun _ _ => rfl⟩

/-- **A step of a call is local to its volume.** -/
theorem reading_local {requests : ι → Request} {i : ι} {c : Config} {v t : String}
    (e : Surroundings A B ι) (ha : Apart requests) (hi : place? (requests i) = some (v, t)) (k : ℕ)
    (q : Action) (hq : About c v t q) :
    ∃ f, e.reading i k q = .outside f ∧ Local (Places.SameFor requests) v f := by
  cases hq with
  | inspect => exact ⟨_, rfl, Places.local_onTarget ha hi _⟩
  | create mode => exact ⟨_, rfl, Places.local_onTarget ha hi _⟩
  | mount source fsType options => exact ⟨_, rfl, Places.local_onTarget ha hi _⟩
  | unmount => exact ⟨_, rfl, Places.local_onTarget ha hi _⟩
  | createInstance image => exact ⟨_, rfl, Places.local_onInstance _⟩
  | mountInstance => exact ⟨_, rfl, Places.local_onInstance _⟩
  | deleteInstance => exact ⟨_, rfl, Places.local_onInstance _⟩

end Surroundings

/-- An instance of a faultless tool, and the runs for it with their outcomes. -/
structure ToolRecord where
  present : Bool
  runs : List (Command × Except VolumeError Output)

/-- A run of a faultless tool, with what it prints if it can do what it is asked to. -/
def ToolRecord.run (x : ToolRecord) (command : Command) (output : Output) :
    Except VolumeError Output × ToolRecord :=
  let finish (present : Bool) : Except VolumeError Output × ToolRecord :=
    (.ok output, ⟨present, x.runs ++ [(command, .ok output)]⟩)
  let refuse : Except VolumeError Output × ToolRecord :=
    let answer := .error (.processFailure command.line "exit status: 125" "")
    (answer, ⟨x.present, x.runs ++ [(command, answer)]⟩)
  match command.arguments with
  | ["from", "--name", _, "--pull", _] => if x.present then refuse else finish true
  | ["mount", _] => if x.present then finish true else refuse
  | ["delete", _] => if x.present then finish false else refuse
  | _ => refuse

/-- A target, and the mounts made on it with their sources and options. -/
structure TargetRecord where
  /-- What is mounted, the topmost first; `none` if the target does not exist. -/
  mounts : Option (List String)
  made : List (String × List String)

namespace TargetRecord

/-- An exact inspection. -/
def inspect (b : TargetRecord) : Except FileError Bool :=
  match b.mounts with
  | none => .error (.os .noEntry)
  | some mounts => .ok !mounts.isEmpty

def create (b : TargetRecord) : Except FileError Unit × TargetRecord :=
  (.ok (), { b with mounts := some (b.mounts.getD []) })

/-- A mount goes on top of those that are there. -/
def mount (b : TargetRecord) (source : String) (options : List String) :
    Except VolumeError Unit × TargetRecord :=
  let made := b.made ++ [(source, options)]
  match b.mounts with
  | none => (.error (.mount .noEntry), { b with made })
  | some mounts => (.ok (), ⟨some (source :: mounts), made⟩)

def unmount (b : TargetRecord) : Except VolumeError Unit × TargetRecord :=
  match b.mounts with
  | some (_ :: mounts) => (.ok (), { b with mounts := some mounts })
  | _ => (.error (.mount .invalid), b)

end TargetRecord

/-- Surroundings in which no step fails that could succeed: the tool creates what it has not, shows
and deletes what it has, and prints what it is given to print; inspection is exact. -/
def faultless (prints : ι → ℕ → Command → Output) : Surroundings ToolRecord TargetRecord ι where
  inspect _ _ b := b.inspect
  create _ _ _ b := b.create
  mount _ _ source _ options b := b.mount source options
  unmount _ _ b := b.unmount
  runTool i k command x := x.run command (prints i k command)

end VolumeNode.Node
