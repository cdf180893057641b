import VolumeNode.Proofs.Concurrent.Places

/-!
# A host on which anything may fail

The image tool keeps an instance for each name, and the kernel a stack of mounts for each target. A
`Fate` says how a step ends: a run of the tool may fail with its effect or without it, a system call
may fail without effect, and so may an inspection. What an inspection finds is so.

* `premisesReading_local`: a step of a call is local to its volume.
* `Fate.not_mounted_of_inspect`: what an inspection says of a target that is not mounted.
-/

namespace VolumeNode.Node

/-- An instance of an image, with what the tool has said of its root. Another instance of the name,
made after this one is gone, starts anew. -/
structure Instance where
  /-- What the run that has made it printed, unless that run failed. -/
  printed : Option Output
  /-- What the runs that asked for its root printed. -/
  shown : List Output
  deriving DecidableEq

/-- Whether the tool has said that an instance has this root. -/
def Instance.HasRoot (c : Config) (x : Instance) (root : String) : Prop :=
  if c.resolveRoot then ∃ o ∈ x.shown, Image.root? o = some root
  else ∃ o, x.printed = some o ∧ Image.root? o = some root

/-- A mount: what is mounted, and the flags in force. -/
structure Mounted where
  source : String
  flags : MountFlags
  deriving DecidableEq

/-- The instances of a tool and the mounts of a kernel. -/
abbrev Premises :=
  Places (Option Instance) (List Mounted)

/-- No instance, and nothing mounted. -/
def Premises.empty : Premises :=
  ⟨fun _ => none, fun _ => []⟩

theorem holds_remount (f g : MountFlags) : (.remount ∪ f ∪ g : MountFlags).holds .remount = true := by
  unfold MountFlags.holds
  rw [beq_iff_eq]
  change (MountFlags.remount.bits ||| f.bits ||| g.bits) &&& MountFlags.remount.bits = _
  -- bit by bit, what has been added to the flag is masked out
  apply Nat.eq_of_testBit_eq
  intro n
  rw [Nat.testBit_and, Nat.testBit_or, Nat.testBit_or]
  cases MountFlags.remount.bits.testBit n <;> simp

/-- How a step ends. -/
structure Fate where
  /-- Why an inspection fails, if it does. -/
  unseen : Option FileError := none
  /-- Why a target cannot be created, if it cannot. -/
  uncreated : Option FileError := none
  /-- Whether a run of the tool fails. -/
  fails : Bool := false
  /-- Whether a run of the tool that fails has its effect all the same. -/
  effect : Bool := false
  failure : VolumeError := .invalid ""
  output : Output := []
  /-- Why a system call fails, if it does. -/
  refusal : Option Errno := none

namespace Fate

/-- The end of a run of the tool that could do what it was asked to. -/
def answer (f : Fate) : Except VolumeError Output :=
  if f.fails then .error f.failure else .ok f.output

/-- A run of the tool. A name in use is refused, and an instance that is not there has no root. -/
def runTool (f : Fate) (arguments : List String) (x : Option Instance) :
    Except VolumeError Output × Option Instance :=
  match arguments, x with
  | ["from", "--name", _, "--pull", _], none =>
    if f.fails then (.error f.failure, if f.effect then some ⟨none, []⟩ else none)
    else (.ok f.output, some ⟨some f.output, []⟩)
  | ["from", "--name", _, "--pull", _], some x => (.error f.failure, some x)
  | ["mount", _], none => (.error f.failure, none)
  | ["mount", _], some x =>
    if f.fails then (.error f.failure, some x)
    else (.ok f.output, some { x with shown := f.output :: x.shown })
  | ["delete", _], x => (f.answer, if f.fails && !f.effect then x else none)
  | _, x => (f.answer, x)

/-- An inspection. Nobody says of a mounted target that it is not there. -/
def inspect (f : Fate) (mounts : List Mounted) : Except FileError Bool × List Mounted :=
  match f.unseen with
  | some e => (if e.isNotFound && !mounts.isEmpty then .ok true else .error e, mounts)
  | none => (.ok !mounts.isEmpty, mounts)

/-- The creation of a target. -/
def create (f : Fate) (mounts : List Mounted) : Except FileError Unit × List Mounted :=
  match f.uncreated with
  | some e => (.error e, mounts)
  | none => (.ok (), mounts)

/-- A system call. A mount goes on top of those that are there, a remount gives the topmost other
flags, and an unmount takes it away. -/
def system (f : Fate) (call : SystemCall) (mounts : List Mounted) :
    Except Errno Unit × List Mounted :=
  match f.refusal, call, mounts with
  | some e, _, mounts => (.error e, mounts)
  | none, .mount source _ _ flags _, mounts =>
    if flags.holds .remount then
      match mounts with
      | [] => (.error .invalid, [])
      | m :: rest => (.ok (), { m with flags := flags \ .remount } :: rest)
    else (.ok (), ⟨source.getD "", if flags.holds .bind then .empty else flags⟩ :: mounts)
  | none, .unmount _, [] => (.error .invalid, [])
  | none, .unmount _, _ :: rest => (.ok (), rest)

@[simp] theorem inspect_snd (f : Fate) (mounts : List Mounted) : (f.inspect mounts).2 = mounts := by
  unfold inspect
  split <;> rfl

@[simp] theorem create_snd (f : Fate) (mounts : List Mounted) : (f.create mounts).2 = mounts := by
  unfold create
  split <;> rfl

/-- What an inspection says is not mounted, is not. -/
theorem not_mounted_of_inspect {f : Fate} {mounts : List Mounted} {t : String}
    (h : Target.understood t (f.inspect mounts).1 = .ok false) : mounts = [] := by
  by_contra hne
  have hempty : mounts.isEmpty = false := by simpa using hne
  unfold inspect at h
  rw [hempty] at h
  cases hu : f.unseen with
  | none =>
    rw [hu] at h
    cases h
  | some e =>
    rw [hu] at h
    cases hn : e.isNotFound <;> simp [hn, Target.understood] at h

/-- A run that has made an instance has printed what the instance has been made with. -/
theorem made_of_runTool {f : Fate} {c : Config} {v image : String} {x y : Option Instance}
    {o : Output} (h : (.ok o, y) = f.runTool (Image.createCommand c v image).arguments x) :
    y = some ⟨some o, []⟩ := by
  unfold Image.createCommand Image.command runTool at h
  cases x with
  | some x => simp at h
  | none =>
    cases hf : f.fails
    · simp only [hf] at h
      cases h
      rfl
    · simp [hf] at h

/-- A run that has shown the root of an instance has shown it of the instance that is there. -/
theorem shown_of_runTool {f : Fate} {c : Config} {v : String} {x y : Option Instance} {o : Output}
    (h : (.ok o, y) = f.runTool (Image.mountCommand c v).arguments x) :
    ∃ z, y = some z ∧ o ∈ z.shown := by
  unfold Image.mountCommand Image.command runTool at h
  cases x with
  | none => simp at h
  | some x =>
    cases hf : f.fails
    · simp only [hf] at h
      cases h
      exact ⟨_, rfl, List.mem_cons_self⟩
    · simp [hf] at h

/-- A successful unmount leaves nothing of a single mount. -/
theorem unmounted_of_system {f : Fate} {t : String} {mounts mounts' : List Mounted}
    (h : (.ok (), mounts') = f.system (.unmount t) mounts) (hlen : mounts.length ≤ 1) :
    mounts' = [] := by
  unfold system at h
  split at h
  · cases h
  · rename_i hcall
    cases hcall
  · cases h
  · rename_i m rest _
    cases h
    simpa using hlen

end Fate

/-- What the steps of a call do on a host, given how each of them ends. -/
def premisesReading (fates : ℕ → Fate) : Reading Host.Step.interface Premises
  | _, .enter v => .enter v
  | _, .acquire m => .acquire m
  | _, .release m => .release m
  | _, .discard v => .discard v
  | k, .inspect t => .outside (Places.onTarget t (fates k).inspect)
  | k, .create t _ => .outside (Places.onTarget t (fates k).create)
  | k, .runTool command =>
    match namedInstance? command with
    | some v => .outside (Places.onInstance v ((fates k).runTool command.arguments))
    | none => .outside fun w => ((fates k).answer, w)
  | k, .system call => .outside (Places.onTarget (mountedPath call) ((fates k).system call))

theorem premisesReading_runTool {fates : ℕ → Fate} {command : Command} {v : String}
    (h : namedInstance? command = some v) (k : ℕ) :
    premisesReading fates k (.runTool command) =
      .outside (Places.onInstance v ((fates k).runTool command.arguments)) := by
  simp only [premisesReading, h]

theorem readsHostLocks_premises (fates : ℕ → Fate) : ReadsHostLocks (premisesReading fates) :=
  ⟨fun _ _ => rfl, fun _ _ => rfl, fun _ _ => rfl, fun _ _ => rfl⟩

/-- **A step of a call is local to its volume.** -/
theorem premisesReading_local {ι : Type} {requests : ι → Request} {i : ι} {c : Config} {v t : String}
    {fates : ℕ → Fate} (ha : Apart requests) (hi : place? (requests i) = some (v, t)) (k : ℕ)
    (q : Host.Step) (hq : StepAbout c v t q) :
    ∃ f, premisesReading fates k q = .outside f ∧ Local (Places.SameFor requests) v f := by
  cases hq with
  | inspect => exact ⟨_, rfl, Places.local_onTarget ha hi _⟩
  | create mode => exact ⟨_, rfl, Places.local_onTarget ha hi _⟩
  | system h =>
    subst h
    exact ⟨_, rfl, Places.local_onTarget ha hi _⟩
  | createInstance image => exact ⟨_, rfl, Places.local_onInstance _⟩
  | mountInstance => exact ⟨_, rfl, Places.local_onInstance _⟩
  | deleteInstance => exact ⟨_, rfl, Places.local_onInstance _⟩

end VolumeNode.Node
