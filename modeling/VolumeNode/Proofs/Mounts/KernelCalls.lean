import VolumeNode.Proofs.Calls.Transcript
import VolumeNode.Proofs.Mounts.Words

/-!
# What a publication asks the kernel

A publication mounts what the image tool has printed on the target of the request, if it mounts anything.
On a host that is one bind, a remount for the flags that the client asks for, and an unmount if the
remount has failed. Nothing else that a client says reaches the kernel.

* `kernelCalls_of_one`: a call that mounts once asks the kernel what the mount does.
* `yields_mounting`: the system calls by which a root is mounted, whatever the kernel answers.
* `publish_binds_root`: what a publish request asks the kernel.
-/

namespace VolumeNode.Node

open MountOptions
open Program (World reading)

variable {σ α β : Type} {c : Config} {k : ℕ} {s : σ} {w : World Host.Step.interface σ}
  {m : World Action.interface σ} {t root : String} {readOnly : Bool} {extra : List String}

/-- Whether an action is a mount or an unmount. -/
def changesMounts : Action → Bool
  | .mount .. | .unmount _ => true
  | _ => false

/-- The mounts and unmounts in a record. -/
def mountActions (l : List (Asked Action.interface)) : List Action :=
  (l.map (·.1)).filter changesMounts

@[simp] theorem mountActions_append (l l' : List (Asked Action.interface)) :
    mountActions (l ++ l') = mountActions l ++ mountActions l' :=
  (congrArg (List.filter changesMounts) List.map_append).trans (List.filter_append ..)

/-- How a host answers the actions of calls. -/
def onHostOf (w : World Host.Step.interface σ) : World Action.interface σ :=
  fun a s => (Host.lower a).run w s

/-- Only mounts and unmounts ask the kernel anything. -/
theorem kernelCalls_lower (a : Action) (s : σ) (h : changesMounts a = false) :
    kernelCalls ((Host.lower a).transcript w s) = [] := by
  cases a <;> first | rfl | cases h

theorem kernelCalls_of_none {p : Program Action.interface α}
    (h : mountActions (p.transcript (onHostOf w) s) = []) :
    kernelCalls ((Host.onHost p).transcript w s) = [] :=
  Program.filterMap_transcript_of_none (I := Action.interface) kernelCalls_lower h

/-- **A call that mounts once asks the kernel what the mount does.** -/
theorem kernelCalls_of_one {p : Program Action.interface α} {a : Action}
    (h : mountActions (p.transcript (onHostOf w) s) = [a]) :
    ∃ s', kernelCalls ((Host.onHost p).transcript w s) =
      kernelCalls ((Host.lower a).transcript w s') :=
  Program.filterMap_transcript_of_one (I := Action.interface) kernelCalls_lower h

/-- The system calls by which a root is mounted on a target, with the answers of the kernel. -/
inductive BindCalls (root target : String) (first later : MountFlags) :
    List (SystemCall × Except Errno Unit) → Prop where
  | refused (e : Errno) : BindCalls root target first later
      [(.mount (some root) target none first none, .error e)]
  | bound (h : later.isEmpty = true) : BindCalls root target first later
      [(.mount (some root) target none first none, .ok ())]
  | remounted (h : later.isEmpty = false) : BindCalls root target first later
      [(.mount (some root) target none first none, .ok ()),
        (.mount none target none (.remount ∪ .bind ∪ later) none, .ok ())]
  | undone (h : later.isEmpty = false) (e : Errno) (x : Except Errno Unit) :
      BindCalls root target first later
        [(.mount (some root) target none first none, .ok ()),
          (.mount none target none (.remount ∪ .bind ∪ later) none, .error e), (.unmount target, x)]

/-- A system call without NUL in its names is made. -/
theorem yields_made {call : SystemCall} (h : call.names.any SystemCall.hasNul = false) :
    Yields (reading w) (fun (x : Except Errno Unit) _ l => kernelCalls l = [(call, x)]) k
      (Host.systemCalls (SystemCall.perform call)) s := by
  rw [show SystemCall.perform call = .single (I := SystemCall.interface) call from
    if_neg (by simp [h])]
  exact yields_single (reading w) k (.system call) rfl rfl

/-- **The system calls by which a root is mounted**, whatever the kernel answers. -/
theorem yields_mounting (hroot : SystemCall.hasNul root = false)
    (ht : SystemCall.hasNul t = false) :
    Yields (reading w) (fun _ _ l => BindCalls root t (splitBind (rootFlags readOnly extra)).1
      (laterFlags readOnly extra) (kernelCalls l)) k
      (Host.systemCalls (SystemCall.mounting root t none (forBind readOnly extra))) s := by
  have hbind : (parse (forBind readOnly extra)).flags.holds .bind = true :=
    holds_bind_rootFlags readOnly extra
  unfold SystemCall.mounting SystemCall.lift
  dsimp only
  rw [if_pos hbind, systemCalls_bind]
  refine Yields.map ?_
  rw [systemCalls_andThen]
  refine (yields_made (by simp [SystemCall.names, hroot, ht])).andThen ?_ ?_
  · rintro k _ s l hl
    split
    · rename_i hlater
      refine yields_done ?_
      rw [List.append_nil, hl]
      exact .bound hlater
    · rename_i hlater
      have hlater' : (laterFlags readOnly extra).isEmpty = false := Bool.eq_false_iff.2 hlater
      rw [systemCalls_bind]
      refine (yields_made (by simp [SystemCall.names, ht])).bind fun k x s l' hl' => ?_
      cases x with
      | ok _ =>
        refine yields_done ?_
        rw [List.append_nil, kernelCalls_append, hl, hl']
        exact .remounted hlater'
      | error e =>
        rw [systemCalls_bind]
        refine Yields.map ((yields_made (by simp [SystemCall.names, ht])).mono fun x s l'' hl'' => ?_)
        rw [kernelCalls_append, kernelCalls_append, hl, hl', hl'']
        exact .undone hlater' e x
  · rintro e s l hl
    rw [hl]
    exact .refused e

/-- A root or a target with NUL in its name is not mounted. -/
theorem yields_mounting_of_nul (h : SystemCall.hasNul root = true ∨ SystemCall.hasNul t = true) :
    Yields (reading w) (fun _ _ l => kernelCalls l = []) k
      (Host.systemCalls (SystemCall.mounting root t none (forBind readOnly extra))) s := by
  have hbind : (parse (forBind readOnly extra)).flags.holds .bind = true :=
    holds_bind_rootFlags readOnly extra
  unfold SystemCall.mounting SystemCall.lift
  dsimp only
  rw [if_pos hbind, SystemCall.perform_of_nul (by simpa [SystemCall.names] using h)]
  exact yields_done rfl

/-- The run of the tool that prints the root of an instance. -/
def rootCommand (c : Config) (volume image : String) : Command :=
  if c.resolveRoot then Image.mountCommand c volume else Image.createCommand c volume image

/-- Whether a run in a record has printed a root. -/
def Printed (command : Command) (root : String) (l : List (Asked Action.interface)) : Prop :=
  ∃ output, (⟨.runTool command, .ok output⟩ : Asked Action.interface) ∈ l ∧
    Image.root? output = some root

theorem Printed.prepend {command : Command} {l l' : List (Asked Action.interface)}
    (h : Printed command root l') : Printed command root (l ++ l') := by
  obtain ⟨output, hmem, hroot⟩ := h
  exact ⟨output, List.mem_append_right l hmem, hroot⟩

theorem Printed.append {command : Command} {l l' : List (Asked Action.interface)}
    (h : Printed command root l) : Printed command root (l ++ l') := by
  obtain ⟨output, hmem, hroot⟩ := h
  exact ⟨output, List.mem_append_left l' hmem, hroot⟩

/-- A run of the tool is recorded with what it has printed. -/
theorem yields_ran {command : Command} :
    Yields (reading m) (fun (x : Except VolumeError Output) _ l => l = [⟨.runTool command, x⟩]) k
      (Action.runTool command).take s :=
  yields_single (reading m) k (.runTool command) rfl rfl

/-- A root is taken from what a run has printed. -/
theorem printed_rootOf {v : String} {command : Command} :
    Yields (reading m) (fun x _ l => mountActions l = [] ∧
      ∀ root, x = .ok root → Printed command root l) k
      ((Action.runTool command).take.andThen fun o => .done (Image.rootOf v o)) s := by
  refine Yields.andThen yields_ran ?_ ?_
  · rintro k output s l rfl
    refine yields_done ⟨rfl, fun root h => ⟨output, List.mem_singleton_self _, ?_⟩⟩
    unfold Image.rootOf at h
    cases hroot : Image.root? output with
    | none =>
      rw [hroot] at h
      cases h
    | some path =>
      rw [hroot] at h
      cases h
      rfl
  · rintro e s l rfl
    exact ⟨rfl, by simp⟩

/-- **The root of an instance is what the tool has printed.** -/
theorem printed_provision {v image : String} :
    Yields (reading m) (fun x _ l => mountActions l = [] ∧
      ∀ root, x = .ok root → Printed (rootCommand c v image) root l) k
      (Image.provision c v image) s := by
  unfold Image.provision rootCommand
  cases c.resolveRoot with
  | false => exact printed_rootOf
  | true =>
    refine Yields.andThen yields_ran ?_ ?_
    · rintro k output s l rfl
      exact printed_rootOf.mono fun x s l h => ⟨h.1, fun root hx => (h.2 root hx).prepend⟩
    · rintro e s l rfl
      exact ⟨rfl, by simp⟩

/-- A program that asks for no mount or unmount has none in its record. -/
theorem yields_quietly {p : Program Action.interface α}
    (hp : p.Asks (I := Action.interface) (changesMounts · = false)) :
    Yields (reading m) (fun _ _ l => mountActions l = []) k p s := by
  unfold Yields
  rw [Program.record_reading]
  refine List.filter_eq_nil_iff.2 fun a ha => ?_
  obtain ⟨y, hy, rfl⟩ := List.mem_map.1 ha
  exact Bool.eq_false_iff.1 (Program.asks_transcript hp y hy)

theorem asks_quiet {a : Action} (h : changesMounts a = false) :
    a.take.Asks (I := Action.interface) (changesMounts · = false) :=
  Program.asks_single.2 h

/-- The mount of a root for a client. -/
abbrev bindAction (t root : String) (readOnly : Bool) (extra : List String) : Action :=
  .mount root t none (forBind readOnly extra)

theorem yields_bindAction :
    Yields (reading m) (fun _ _ l => mountActions l = [bindAction t root readOnly extra]) k
      (Target.bindRoot t root readOnly extra) s :=
  yields_single (reading m) k (bindAction t root readOnly extra) rfl rfl

/-- A root is mounted on a target by one action, if at all. -/
theorem yields_published {mode : ℕ} :
    Yields (reading m) (fun _ _ l => mountActions l = [] ∨
      mountActions l = [bindAction t root readOnly extra]) k
      (Target.publish mode t root readOnly extra) s := by
  have hquiet : ∀ {x : Except VolumeError Unit} {l : List (Asked Action.interface)} {k : ℕ} {s : σ},
      mountActions l = [] → Yields (reading m) (fun (_ : Except VolumeError Unit) _ l' =>
        mountActions (l ++ l') = [] ∨
          mountActions (l ++ l') = [bindAction t root readOnly extra]) k (.done x) s := by
    intro x l k s hl
    exact yields_done (Or.inl (by rw [List.append_nil, hl]))
  refine (yields_quietly (asks_quiet (a := .inspect t) rfl)).bind fun k x s l hl => ?_
  split
  · exact hquiet hl
  · refine yields_bindAction.mono fun _ _ l' hl' => Or.inr ?_
    rw [mountActions_append, hl, hl']
    rfl
  · split
    · have hcreate : (Target.create t mode).Asks (I := Action.interface) (changesMounts · = false) :=
        (asks_quiet (a := .create t mode) rfl).bind fun _ => trivial
      refine (yields_quietly hcreate).andThen (fun k _ s l' hl' => ?_) fun e s l' hl' => ?_
      · refine yields_bindAction.mono fun _ _ l'' hl'' => Or.inr ?_
        rw [mountActions_append, mountActions_append, hl, hl', hl'']
        rfl
      · exact Or.inl (by rw [mountActions_append, hl, hl']; rfl)
    · exact hquiet hl

/-- Whether a record has no mounts and no unmounts but the mount of a root that has been printed. -/
inductive BindsPrinted (c : Config) (p : Publication) (l : List (Asked Action.interface)) : Prop where
  | none (h : mountActions l = [])
  | one {root : String} (hroot : Printed (rootCommand c p.volume p.image) root l)
      (h : mountActions l = [bindAction p.target root p.readOnly p.access.mountFlags])

/-- **What is done under the lock of a volume mounts the root that the tool has printed**, and nothing
else. -/
theorem bindsPrinted_publishBody {p : Publication} :
    Yields (reading m) (fun _ _ l => BindsPrinted c p l) k (publishBody c p) s := by
  have hmounted : (Target.isMounted p.target).Asks (I := Action.interface)
      (changesMounts · = false) :=
    (asks_quiet (a := .inspect p.target) rfl).bind fun _ => trivial
  refine (yields_quietly hmounted).andThen (fun k mounted s l hl => ?_) fun _ _ l hl => .none hl
  split
  · exact yields_done (.none (by rw [List.append_nil, hl]))
  · refine (printed_provision (c := c)).andThen (fun k root s l' h => ?_) fun e s l' h => ?_
    · refine yields_published.mono fun _ _ l'' hl'' => ?_
      rcases hl'' with hl'' | hl''
      · exact .none (by simp [hl, h.1, hl''])
      · refine .one (h.2 root rfl).append.prepend ?_
        simp [hl, h.1, hl'']
    · exact .none (by rw [mountActions_append, hl, h.1]; rfl)

theorem BindsPrinted.prepend {p : Publication} {l l' : List (Asked Action.interface)}
    (hl : mountActions l = []) (h : BindsPrinted c p l') : BindsPrinted c p (l ++ l') := by
  cases h with
  | none h => exact .none (by rw [mountActions_append, hl, h]; rfl)
  | one hroot h => exact .one hroot.prepend (by rw [mountActions_append, hl, h]; rfl)

theorem BindsPrinted.append {p : Publication} {l l' : List (Asked Action.interface)}
    (h : BindsPrinted c p l) (hl : mountActions l' = []) : BindsPrinted c p (l ++ l') := by
  cases h with
  | none h => exact .none (by rw [mountActions_append, hl, h]; rfl)
  | one hroot h => exact .one hroot.append (by rw [mountActions_append, hl, h]; rfl)

/-- The steps on a lock mount nothing. -/
theorem bindsPrinted_underLock {p : Publication} {v : String} {work : Call Unit}
    (h : ∀ k s, Yields (reading m) (fun _ _ l => BindsPrinted c p l) k work s) :
    Yields (reading m) (fun _ _ l => BindsPrinted c p l) k (underLock v work) s := by
  refine (yields_quietly (asks_quiet (a := .enter v) rfl)).bind fun k ticket s l hl => ?_
  refine (yields_quietly (asks_quiet (a := .acquire ticket) rfl)).bind fun k _ s l₁ hl₁ => ?_
  refine (h k s).bind fun k x s l₂ hl₂ => ?_
  refine (yields_quietly (asks_quiet (a := .release ticket) rfl)).bind fun k _ s l₃ hl₃ => ?_
  refine Yields.map ((yields_quietly (asks_quiet (a := .discard v) rfl)).mono fun _ s l₄ hl₄ => ?_)
  have hafter : mountActions (l₃ ++ l₄) = [] := by rw [mountActions_append, hl₃, hl₄]; rfl
  exact ((hl₂.append hafter).prepend hl₁).prepend hl

/-- What a publish request mounts is what it is to publish. -/
theorem bindsPrinted_handle {r : PublishRequest} :
    Yields (reading m) (fun _ _ l => mountActions l = [] ∨
      ∃ p, checkPublish r = .ok p ∧ BindsPrinted c p l) k (handle c (.publish r)) s := by
  change Yields _ _ k ((publishVolume c r).bind fun result => .done (Response.ofResult result)) s
  unfold publishVolume
  cases checkPublish r with
  | error item => exact Or.inl rfl
  | ok p =>
    refine Yields.map ((bindsPrinted_underLock fun k s => bindsPrinted_publishBody (c := c)).mono ?_)
    exact fun _ _ l hl => Or.inr ⟨p, rfl, hl⟩

/-- **What a publish request asks the kernel**, whatever the host answers: nothing, or to bind the root
that the image tool has printed on the target of the request, with the flags that the client asks for. -/
theorem publish_binds_root (c : Config) (r : PublishRequest) (w : World Host.Step.interface σ)
    (s : σ) :
    let actions := (handle c (.publish r)).transcript (onHostOf w) s
    let calls := kernelCalls ((Host.onHost (handle c (.publish r))).transcript w s)
    mountActions actions = [] ∧ calls = [] ∨
      ∃ capability image root later, r.capability = some capability ∧
        r.volumeContext.get? PublishRequest.imageAttribute = some image ∧
        Printed (rootCommand c r.volumeId image) root actions ∧
        mountActions actions =
          [bindAction r.targetPath root r.readonly (capability.mount.getD {}).mountFlags] ∧
        Requested r.readonly (capability.mount.getD {}).mountFlags later ∧
        if SystemCall.hasNul root || SystemCall.hasNul r.targetPath then calls = []
        else
          BindCalls root r.targetPath
            (if "rbind" ∈ (capability.mount.getD {}).mountFlags then .bind ∪ .recursive else .bind)
            later calls := by
  intro actions calls
  have hactions : mountActions actions = [] ∨ ∃ p, checkPublish r = .ok p ∧ BindsPrinted c p actions :=
    Program.yields_transcript (bindsPrinted_handle (k := 0))
  rcases hactions with hnone | ⟨p, hcheck, hnone | @⟨root, hroot, hone⟩⟩
  · exact Or.inl ⟨hnone, kernelCalls_of_none hnone⟩
  · exact Or.inl ⟨hnone, kernelCalls_of_none hnone⟩
  · obtain ⟨capability, image, hcapability, himage, rfl⟩ := eq_of_checkPublish hcheck
    refine Or.inr ⟨capability, image, root, _, hcapability, himage, hroot, hone,
      requested_laterFlags _ _, ?_⟩
    obtain ⟨s', hcalls⟩ := kernelCalls_of_one hone
    rw [← splitBind_fst r.readonly]
    rw [show calls = _ from hcalls]
    split
    · rename_i hnul
      exact Program.yields_transcript (yields_mounting_of_nul (k := 0) (Bool.or_eq_true_iff.1 hnul))
    · rename_i hnul
      have hnul' := Bool.or_eq_false_iff.1 (Bool.eq_false_iff.2 hnul)
      exact Program.yields_transcript (yields_mounting (k := 0) hnul'.1 hnul'.2)

end VolumeNode.Node
