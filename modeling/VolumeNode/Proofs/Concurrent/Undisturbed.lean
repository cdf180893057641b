import VolumeNode.Host.Tree
import VolumeNode.Proofs.Concurrent.Sequence
import VolumeNode.Proofs.Concurrent.Surroundings

/-!
# Volumes that do not disturb each other

A tool answers as the history of the instance has it, a mounter or a kernel as that of the target. Then
a volume gets what it would get if nobody else made a request, as long as the creation of a target does
not depend on what has been created for others. In a file tree it may: what is missing above one target
can have come with another.

* `undisturbed`: requests for different targets do not disturb each other.
* `disturbed_of_link`: in a file tree with a symbolic link they may.
-/

namespace VolumeNode.Node

variable {I : Interface} {A B φ : Type}

/-- An image tool that answers a run for an instance, given the history of the instance. -/
abbrev Tool (A : Type) :=
  Command → A → Except VolumeError Output × A

/-- A mounter that answers as the history of the target has it. -/
structure Mounter (B : Type) where
  inspect : String → B → Except FileError Bool × B
  mount : String → String → Option String → List String → B → Except VolumeError Unit × B
  unmount : String → B → Except VolumeError Unit × B

/-- A kernel beneath a mounter, which answers as the history of the target has it. -/
structure MountKernel (B : Type) where
  inspect : String → B → Except FileError Bool × B
  system : SystemCall → B → Except Errno Unit × B

/-- How a target is created with a mode, given the history of the target and the state of the file
system. -/
abbrev Creation (B φ : Type) :=
  String → ℕ → B → φ → (Except FileError Unit × B) × φ

/-- **Whether what comes of the creation of a target depends on the history of the target alone.** -/
def Secluded (create : Creation B φ) : Prop :=
  ∀ t mode b f f', (create t mode b f).1 = (create t mode b f').1

/-- What is done to instances and targets, whatever the file system. -/
def onPlaces {α : Type} (f : Places A B → α × Places A B) (w : Places A B × φ) :
    α × Places A B × φ :=
  ((f w.1).1, (f w.1).2, w.2)

/-- What the creation of a target does. -/
def onCreation (create : Creation B φ) (t : String) (mode : ℕ) (w : Places A B × φ) :
    Except FileError Unit × Places A B × φ :=
  ((Places.onTarget t (fun b => (create t mode b w.2).1) w.1).1,
    (Places.onTarget t (fun b => (create t mode b w.2).1) w.1).2,
    (create t mode (w.1.targets t) w.2).2)

/-- What a run of the tool does. -/
def onRun (tool : Tool A) (command : Command) (w : Places A B × φ) :
    Except VolumeError Output × Places A B × φ :=
  match namedInstance? command with
  | some v => onPlaces (Places.onInstance v (tool command)) w
  | none => (.error (.invalid command.line), w)

/-- What the steps of a call do with a mounter. -/
def Mounter.reading (m : Mounter B) (tool : Tool A) (create : Creation B φ) :
    Reading Action.interface (Places A B × φ)
  | _, .enter v => .enter v
  | _, .acquire x => .acquire x
  | _, .release x => .release x
  | _, .discard v => .discard v
  | _, .inspect t => .outside (onPlaces (Places.onTarget t (m.inspect t)))
  | _, .create t mode => .outside (onCreation create t mode)
  | _, .mount source t fsType options =>
    .outside (onPlaces (Places.onTarget t (m.mount source t fsType options)))
  | _, .unmount t => .outside (onPlaces (Places.onTarget t (m.unmount t)))
  | _, .runTool command => .outside (onRun tool command)

/-- What they do on a host. -/
def MountKernel.reading (k : MountKernel B) (tool : Tool A) (create : Creation B φ) :
    Reading Host.Step.interface (Places A B × φ)
  | _, .enter v => .enter v
  | _, .acquire x => .acquire x
  | _, .release x => .release x
  | _, .discard v => .discard v
  | _, .inspect t => .outside (onPlaces (Places.onTarget t (k.inspect t)))
  | _, .create t mode => .outside (onCreation create t mode)
  | _, .system call => .outside (onPlaces (Places.onTarget (mountedPath call) (k.system call)))
  | _, .runTool command => .outside (onRun tool command)

/-- **Whether no volume is disturbed by others**: the responses to its requests, its instance and what
is at its target are those of the sequence in which nobody else makes a request. -/
def Undisturbed (view : Reading I (Places A B × φ)) (answer : Request → Program I Response)
    (requests : List Request) (w : Places A B × φ) : Prop :=
  ∀ v, ∃ s s', served? view answer requests .empty w = some s ∧
    served? view answer (requests.filter (namedVolume · = v)) .empty w = some s' ∧
    s.responses.filter (namedVolume ·.1 = v) = s'.responses ∧
    s.world.1.instances v = s'.world.1.instances v ∧
    ∀ r ∈ requests, ∀ t, place? r = some (v, t) → s.world.1.targets t = s'.world.1.targets t

section

variable {ι : Type} {requests : ι → Request} {i : ι} {c : Config} {v t : String}
  {create : Creation B φ} {tool : Tool A}

/-- Whether a volume finds the same instance and the same targets, whatever the file system. -/
def SameHere (requests : ι → Request) (v : String) (w w' : Places A B × φ) : Prop :=
  Places.SameFor requests v w.1 w'.1

theorem local_onPlaces {α : Type} {f : Places A B → α × Places A B}
    (h : Local (Places.SameFor requests) v f) :
    Local (SameHere requests) v (onPlaces f : Places A B × φ → α × Places A B × φ) :=
  ⟨fun hw => h.congr hw, fun w hu => h.frame w.1 hu⟩

theorem local_onCreation (hcreate : Secluded create) (ha : Apart requests)
    (hi : place? (requests i) = some (v, t)) (mode : ℕ) :
    Local (SameHere requests) v
      (onCreation create t mode : Places A B × φ → Except FileError Unit × Places A B × φ) where
  congr {w w'} hw := by
    have hb : (fun b => (create t mode b w.2).1) = fun b => (create t mode b w'.2).1 :=
      funext fun b => hcreate t mode b w.2 w'.2
    have hlocal : Local (Places.SameFor requests) v
        (Places.onTarget t fun b => (create t mode b w'.2).1 : Places A B → _ × Places A B) :=
      Places.local_onTarget ha hi _
    unfold onCreation
    rw [hb]
    exact hlocal.congr hw
  frame {u} w hu := by
    have hlocal : Local (Places.SameFor requests) v
        (Places.onTarget t fun b => (create t mode b w.2).1 : Places A B → _ × Places A B) :=
      Places.local_onTarget ha hi _
    exact hlocal.frame w.1 hu

theorem onRun_of_named {command : Command} (h : namedInstance? command = some v) :
    (onRun tool command : Places A B × φ → _) = onPlaces (Places.onInstance v (tool command)) := by
  funext w
  unfold onRun
  rw [h]

theorem local_onRun {command : Command} (h : namedInstance? command = some v) :
    Local (SameHere requests) v
      (onRun tool command : Places A B × φ → Except VolumeError Output × Places A B × φ) := by
  rw [onRun_of_named h]
  exact local_onPlaces (Places.local_onInstance _)

theorem Mounter.readsLocks (m : Mounter B) (tool : Tool A) (create : Creation B φ) :
    ReadsLocks (m.reading tool create) :=
  ⟨fun _ _ => rfl, fun _ _ => rfl, fun _ _ => rfl, fun _ _ => rfl⟩

theorem MountKernel.readsHostLocks (k : MountKernel B) (tool : Tool A) (create : Creation B φ) :
    ReadsHostLocks (k.reading tool create) :=
  ⟨fun _ _ => rfl, fun _ _ => rfl, fun _ _ => rfl, fun _ _ => rfl⟩

/-- **A step of a call with a mounter is local to its volume.** -/
theorem Mounter.reading_local (m : Mounter B) (hcreate : Secluded create) (ha : Apart requests)
    (hi : place? (requests i) = some (v, t)) (k : ℕ) (q : Action) (hq : About c v t q) :
    ∃ f, m.reading tool create k q = .outside f ∧ Local (SameHere requests) v f := by
  cases hq with
  | inspect => exact ⟨_, rfl, local_onPlaces (Places.local_onTarget ha hi _)⟩
  | create mode => exact ⟨_, rfl, local_onCreation hcreate ha hi mode⟩
  | mount source fsType options =>
    exact ⟨_, rfl, local_onPlaces (Places.local_onTarget ha hi _)⟩
  | unmount => exact ⟨_, rfl, local_onPlaces (Places.local_onTarget ha hi _)⟩
  | createInstance image => exact ⟨_, rfl, local_onRun (namedInstance?_createCommand c v image)⟩
  | mountInstance => exact ⟨_, rfl, local_onRun (namedInstance?_mountCommand c v)⟩
  | deleteInstance => exact ⟨_, rfl, local_onRun (namedInstance?_deleteCommand c v)⟩

/-- **So is one on a host**, those by which a mount is undone included. -/
theorem MountKernel.reading_local (m : MountKernel B) (hcreate : Secluded create)
    (ha : Apart requests) (hi : place? (requests i) = some (v, t)) (k : ℕ) (q : Host.Step)
    (hq : StepAbout c v t q) :
    ∃ f, m.reading tool create k q = .outside f ∧ Local (SameHere requests) v f := by
  cases hq with
  | inspect => exact ⟨_, rfl, local_onPlaces (Places.local_onTarget ha hi _)⟩
  | create mode => exact ⟨_, rfl, local_onCreation hcreate ha hi mode⟩
  | system h =>
    subst h
    exact ⟨_, rfl, local_onPlaces (Places.local_onTarget ha hi _)⟩
  | createInstance image => exact ⟨_, rfl, local_onRun (namedInstance?_createCommand c v image)⟩
  | mountInstance => exact ⟨_, rfl, local_onRun (namedInstance?_mountCommand c v)⟩
  | deleteInstance => exact ⟨_, rfl, local_onRun (namedInstance?_deleteCommand c v)⟩

end

/-- A tool that fails at nothing that it could do, and prints the same root for each instance. -/
def faultlessTool : Tool ToolRecord :=
  fun command x => x.run command [47, 114]

/-- A mounter that fails at nothing that it could do. -/
def faultlessMounter : Mounter TargetRecord :=
  ⟨fun _ b => (b.inspect, b), fun source _ _ options b => b.mount source options,
    fun _ b => b.unmount⟩

/-- A kernel that fails at nothing that it could do. -/
def faultlessKernel : MountKernel TargetRecord where
  inspect _ b := (b.inspect, b)
  system
    | .mount (some source) _ _ _ _, b =>
      match b.mounts with
      | none => (.error .noEntry, b)
      | some mounts => (.ok (), { b with mounts := some (source :: mounts) })
    | .mount none _ _ _ _, b => (.ok (), b)
    | .unmount _, b =>
      match b.mounts with
      | some (_ :: mounts) => (.ok (), { b with mounts := some mounts })
      | _ => (.error .invalid, b)

/-- A request for an image at a target. -/
def publishing (v t : String) : Request :=
  .publish
    { volumeId := v, targetPath := t, capability := some {}
      volumeContext := Attributes.ofList [("image", "i")] }

/-- The creation of a target in a file tree. -/
def createdInTree : Creation TargetRecord Host.Tree := fun t mode b tree =>
  match tree.createTarget t mode with
  | (tree, .ok ()) => (b.create, tree)
  | (tree, .error e) => ((.error e, b), tree)

/-- Requests that are handled each in a way that is local to its volume do not disturb each other. -/
theorem undisturbed_of_handled {view : Reading I (Places A B × φ)}
    {answer : Request → Program I Response} {requests : List Request} (ha : Apart requests.get)
    (h : ∀ i, Handled view (SameHere requests.get) answer (requests.get i)) (w : Places A B × φ) :
    Undisturbed view answer requests w := by
  intro v
  have hall : ∀ r ∈ requests, Handled view (SameHere requests.get) answer r := by
    intro r hr
    obtain ⟨i, rfl⟩ := List.mem_iff_get.1 hr
    exact h i
  have hempty : LockTable.empty.entries = [] := rfl
  obtain ⟨s, s', hs, hs', hresponses, hworld⟩ := served?_filter (v := v) hall Places.SameFor.symm
    Places.SameFor.trans hempty hempty (Places.sameFor_refl w.1)
  refine ⟨s, s', hs, hs', hresponses, hworld.1, fun r hr t hplace => ?_⟩
  obtain ⟨i, rfl⟩ := List.mem_iff_get.1 hr
  exact hworld.target ha hplace

/-- **Requests for different targets do not disturb each other**, with any mounter, and with that of the
host on any kernel, if what comes of the creation of a target does not depend on other targets. -/
theorem undisturbed (c : Config) (tool : Tool A) (m : Mounter B) (k : MountKernel B)
    {create : Creation B φ} (hcreate : Secluded create) {requests : List Request}
    (ha : Apart requests.get) (w : Places A B × φ) :
    Undisturbed (m.reading tool create) (handle c) requests w ∧
      Undisturbed (k.reading tool create) (fun r => Host.onHost (handle c r)) requests w := by
  refine ⟨undisturbed_of_handled ha (fun i => ?_) w, undisturbed_of_handled ha (fun i => ?_) w⟩
  · have hconfined : ∀ {v t work}, place? (requests.get i) = some (v, t) → Work c v t work →
        Confined (m.reading tool create) (SameHere requests.get) v 2 work :=
      fun hi hwork => .of_asks hwork.isAbout (m.reading_local hcreate ha hi)
    exact .of_opening rfl (follows_call (m.readsLocks tool create) hconfined) hconfined
      (fun _ w => Places.sameFor_refl w.1) fun _ => Places.SameFor.trans
  · -- a mount is several steps, and so is the undoing of one
    have hconfined : ∀ {v t work}, place? (requests.get i) = some (v, t) → Work c v t work →
        Confined (k.reading tool create) (SameHere requests.get) v 2 (Host.onHost work) :=
      fun hi hwork => .of_asks hwork.isStepAbout (k.reading_local hcreate ha hi)
    exact .of_opening (onHost_bind _ _) (follows_onHost_call (k.readsHostLocks tool create) hconfined)
      hconfined (fun _ w => Places.sameFor_refl w.1) fun _ => Places.SameFor.trans

/-- Two volumes are published below a directory that is there, and one of them is taken down. All goes
well, as it does in the file tree. -/
theorem undisturbed_siblings :
    let create : Creation TargetRecord Host.Tree := fun t mode b tree =>
      (b.create, (tree.createTarget t mode).1)
    let requests := [publishing "u" "mnt/a", publishing "v" "mnt/b",
      .unpublish { volumeId := "u", targetPath := "mnt/a" }]
    let w : Places ToolRecord TargetRecord × Host.Tree :=
      (⟨fun _ => ⟨false, []⟩, fun _ => ⟨none, []⟩⟩,
        ⟨[(["w"], .directory 0o755), (["w", "mnt"], .directory 0o755)], ["w"]⟩)
    Secluded create ∧ Apart requests.get ∧
      Undisturbed (faultlessMounter.reading faultlessTool create) (handle {}) requests w ∧
      Undisturbed (faultlessKernel.reading faultlessTool create)
        (fun r => Host.onHost (handle {} r)) requests w ∧
      ∀ x ∈ [create, createdInTree],
        (served? (faultlessKernel.reading faultlessTool x) (fun r => Host.onHost (handle {} r))
            requests .empty w).map
          (fun s => (s.responses.map (·.2.ok), (s.world.1.targets "mnt/a").mounts,
            (s.world.1.targets "mnt/b").mounts)) =
              some ([true, true, true], some [], some ["/r"]) := by
  intro create requests w
  have hcreate : Secluded create := fun _ _ _ _ _ => rfl
  have ha : Apart requests.get := apart_iff.2 (by decide +kernel)
  obtain ⟨hmounter, hkernel⟩ :=
    undisturbed {} faultlessTool faultlessMounter faultlessKernel hcreate ha w
  exact ⟨hcreate, ha, hmounter, hkernel, by decide +kernel⟩

/-- Whether no target of a volume lies below that of another. -/
def Unnested {ι : Type} (requests : ι → Request) : Prop :=
  ∀ i j, ∀ x ∈ place? (requests i), ∀ y ∈ place? (requests j), x.1 ≠ y.1 →
    ¬ Host.Tree.componentsOf x.2 <+: Host.Tree.componentsOf y.2

/-- **In a file tree volumes may disturb each other**: a symbolic link leads nowhere, so no target can be
created below it, until the directory that it names has been created above the target of another. -/
theorem disturbed_of_link :
    let requests := [publishing "u" "p/a", publishing "v" "s/b"]
    let w : Places ToolRecord TargetRecord × Host.Tree :=
      (⟨fun _ => ⟨false, []⟩, fun _ => ⟨none, []⟩⟩,
        ⟨[(["w"], .directory 0o755), (["w", "s"], .link "p")], ["w"]⟩)
    Apart requests.get ∧ Steady requests.get ∧ Unnested requests.get ∧
      ¬ Undisturbed (faultlessMounter.reading faultlessTool createdInTree) (handle {}) requests w := by
  intro requests w
  refine ⟨apart_iff.2 (by decide +kernel), steady_iff.2 (by decide +kernel),
    show ∀ i j, ∀ x ∈ _, ∀ y ∈ _, _ → _ by decide +kernel, fun h => ?_⟩
  obtain ⟨s, s', hs, hs', hresponses, -⟩ := h "v"
  let view := faultlessMounter.reading faultlessTool createdInTree
  have htogether : (served? view (handle {}) requests .empty w).map
      (fun s => (s.responses.filter (namedVolume ·.1 = "v")).map (·.2.ok)) = some [true] := by
    decide +kernel
  have halone : (served? view (handle {}) (requests.filter (namedVolume · = "v")) .empty w).map
      (fun s => s.responses.map (·.2.ok)) = some [false] := by
    decide +kernel
  rw [hs] at htogether
  rw [hs'] at halone
  simp only [Option.map_some, hresponses] at htogether halone
  rw [htogether] at halone
  cases halone

end VolumeNode.Node
