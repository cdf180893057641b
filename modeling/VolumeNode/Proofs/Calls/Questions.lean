import VolumeNode.Host.Step
import VolumeNode.Node.Lifecycle
import VolumeNode.Proofs.Programs

/-!
# What volume calls ask

A call of a volume that has come under its lock asks about that volume and its target and nothing
else, and ends soon.

* `call_eq`: a call does its work under the lock of its volume, or asks nothing.
* `Work.isAbout`, `Work.isStepAbout`: what is asked under the lock, in actions and on a host.
* `call_endsWithin`, `onHost_call_endsWithin`: how many steps a call takes at most.
-/

namespace VolumeNode.Node

variable {c : Config} {v t : String}

/-- The volume and the target of a request that passes its checks. -/
def place? : Request → Option (String × String)
  | .publish r =>
    match checkPublish r with
    | .ok p => some (p.volume, p.target)
    | .error _ => none
  | .unpublish r =>
    match checkUnpublish r with
    | .ok () => some (r.volumeId, r.targetPath)
    | .error _ => none
  | .stage _ | .unstage _ => none

/-- What publishing needs of a request is taken from the request. -/
theorem eq_of_checkPublish {r : PublishRequest} {p : Publication} (h : checkPublish r = .ok p) :
    ∃ capability image, r.capability = some capability ∧
      r.volumeContext.get? PublishRequest.imageAttribute = some image ∧
      p = ⟨r.volumeId, r.targetPath, image, capability.mount.getD {}, r.readonly⟩ := by
  unfold checkPublish at h
  cases hc : r.capability with
  | none =>
    rw [hc] at h
    cases h
  | some capability =>
    rw [hc] at h
    dsimp only at h
    split at h
    · cases h
    · split at h
      · cases h
      · split at h
        · cases h
        · rename_i image himage
          cases h
          exact ⟨capability, image, rfl, (Option.filter_eq_some_iff.1 himage).1, rfl⟩

/-- The volume that a request names. -/
def namedVolume : Request → String
  | .publish r => r.volumeId
  | .unpublish r => r.volumeId
  | .stage r | .unstage r => r.volumeId

/-- A request that passes its checks is about the volume that it names. -/
theorem namedVolume_eq {r : Request} (h : place? r = some (v, t)) : namedVolume r = v := by
  cases r with
  | publish r =>
    unfold place? at h
    cases hcheck : checkPublish r with
    | error item => simp [hcheck] at h
    | ok p =>
      obtain ⟨capability, image, -, -, rfl⟩ := eq_of_checkPublish hcheck
      simp only [hcheck, Option.some.injEq, Prod.mk.injEq] at h
      exact h.1
  | unpublish r =>
    unfold place? at h
    cases hcheck : checkUnpublish r with
    | error item => simp [hcheck] at h
    | ok p =>
      simp only [hcheck, Option.some.injEq, Prod.mk.injEq] at h
      exact h.1
  | stage r => cases h
  | unstage r => cases h

/-- What is done under the lock of a volume, at a target. -/
inductive Work (c : Config) : String → String → Call Unit → Prop where
  | publish (p : Publication) : Work c p.volume p.target (publishBody c p)
  | unpublish (v t : String) : Work c v t (unpublishBody c v t)

/-- The volume of a call with what it does under the lock; its result if it asks nothing. -/
def plan (c : Config) : Request → String × Call Unit ⊕ Except VolumeError Unit
  | .publish r =>
    match checkPublish r with
    | .ok p => .inl (p.volume, publishBody c p)
    | .error item => .inr (.error (.missing item))
  | .unpublish r =>
    match checkUnpublish r with
    | .ok () => .inl (r.volumeId, unpublishBody c r.volumeId r.targetPath)
    | .error item => .inr (.error (.missing item))
  | .stage _ | .unstage _ => .inr (.ok ())

/-- **A call does its work under the lock of its volume, or asks nothing.** -/
theorem call_eq (c : Config) (r : Request) :
    call c r =
      match plan c r with
      | .inl (v, work) => underLock v work
      | .inr x => .done x := by
  cases r with
  | publish r =>
    cases h : checkPublish r <;> simp only [call, publishVolume, plan, h]
  | unpublish r =>
    cases h : checkUnpublish r <;> simp only [call, unpublishVolume, plan, h]
  | stage r => rfl
  | unstage r => rfl

/-- A call that passes its checks has work to do at a target; any other has none. -/
theorem plan_cases (c : Config) (r : Request) :
    (∃ v t work, place? r = some (v, t) ∧ Work c v t work ∧ plan c r = .inl (v, work)) ∨
      ∃ x, place? r = none ∧ plan c r = .inr x := by
  cases r with
  | publish r =>
    cases h : checkPublish r with
    | ok p =>
      exact Or.inl ⟨p.volume, p.target, _, by simp only [place?, h], .publish p,
        by simp only [plan, h]⟩
    | error item =>
      exact Or.inr ⟨.error (.missing item), by simp only [place?, h], by simp only [plan, h]⟩
  | unpublish r =>
    cases h : checkUnpublish r with
    | ok p =>
      exact Or.inl ⟨r.volumeId, r.targetPath, _, by simp only [place?, h], .unpublish ..,
        by simp only [plan, h]⟩
    | error item =>
      exact Or.inr ⟨.error (.missing item), by simp only [place?, h], by simp only [plan, h]⟩
  | stage r => exact Or.inr ⟨_, rfl, rfl⟩
  | unstage r => exact Or.inr ⟨_, rfl, rfl⟩

/-- Whether an action is about a volume or about its target. -/
inductive About (c : Config) (v t : String) : Action → Prop where
  | inspect : About c v t (.inspect t)
  | create (mode : ℕ) : About c v t (.create t mode)
  | mount (source : String) (fsType : Option String) (options : List String) :
      About c v t (.mount source t fsType options)
  | unmount : About c v t (.unmount t)
  | createInstance (image : String) : About c v t (.runTool (Image.createCommand c v image))
  | mountInstance : About c v t (.runTool (Image.mountCommand c v))
  | deleteInstance : About c v t (.runTool (Image.deleteCommand c v))

/-- A part of a call that is about a volume and its target. -/
abbrev IsAbout {α : Type} (c : Config) (v t : String) (p : Program Action.interface α) : Prop :=
  p.Asks (I := Action.interface) (About c v t)

theorem isAbout_take {a : Action} (h : About c v t a) : IsAbout c v t a.take :=
  Program.asks_single.2 h

theorem isAbout_isMounted : IsAbout c v t (Target.isMounted t) :=
  (isAbout_take .inspect).bind fun _ => trivial

theorem isAbout_provision {image : String} : IsAbout c v t (Image.provision c v image) := by
  refine (isAbout_take (.createInstance image)).andThen fun created => ?_
  split
  · exact (isAbout_take .mountInstance).andThen fun _ => trivial
  · trivial

theorem isAbout_bindRoot {root : String} {readOnly : Bool} {extra : List String} :
    IsAbout c v t (Target.bindRoot t root readOnly extra) :=
  isAbout_take (.mount ..)

theorem isAbout_publish {mode : ℕ} {root : String} {readOnly : Bool} {extra : List String} :
    IsAbout c v t (Target.publish mode t root readOnly extra) := by
  refine (isAbout_take .inspect).bind fun r => ?_
  split
  · trivial
  · exact isAbout_bindRoot
  · split
    · have hcreate : IsAbout c v t (Target.create t mode) :=
        (isAbout_take (.create mode)).bind fun _ => trivial
      exact hcreate.andThen fun _ => isAbout_bindRoot
    · trivial

theorem isAbout_unpublish : IsAbout c v t (Target.unpublish t) := by
  refine isAbout_isMounted.andThen fun mounted => ?_
  split
  · exact (isAbout_take .unmount).bind fun _ => trivial
  · trivial

theorem isAbout_release : IsAbout c v t (Image.release c v) :=
  (isAbout_take .deleteInstance).bind fun _ => trivial

/-- **What is done under the lock of a volume is about it and its target.** -/
theorem Work.isAbout {work : Call Unit} (h : Work c v t work) : IsAbout c v t work := by
  cases h with
  | publish p =>
    refine isAbout_isMounted.andThen fun mounted => ?_
    split
    · trivial
    · exact isAbout_provision.andThen fun _ => isAbout_publish
  | unpublish v t => exact isAbout_unpublish.andThen fun _ => isAbout_release

/-- The path that a system call changes the mounts of. -/
def mountedPath : SystemCall → String
  | .mount _ target _ _ _ => target
  | .unmount target => target

theorem perform_asks {call : SystemCall} :
    (SystemCall.perform call).Asks (I := SystemCall.interface) (· = call) := by
  by_cases h : call.names.any SystemCall.hasNul = true
  · rw [SystemCall.perform_of_nul h]
    trivial
  · rw [SystemCall.perform_of_not_nul h]
    exact Program.asks_single.2 rfl

/-- A mount changes the mounts of its target alone. -/
theorem mounting_asks {source : String} {fsType : Option String} {options : List String} :
    (SystemCall.mounting source t fsType options).Asks (I := SystemCall.interface)
      (mountedPath · = t) := by
  have hone : ∀ call, mountedPath call = t →
      (SystemCall.perform call).Asks (I := SystemCall.interface) (mountedPath · = t) :=
    fun call h => perform_asks.mono fun q hq => by rw [hq, h]
  unfold SystemCall.mounting SystemCall.lift
  dsimp only
  split
  · refine Program.Asks.bind ?_ fun _ => trivial
    refine (hone _ rfl).andThen fun _ => ?_
    split
    · trivial
    · refine (hone _ rfl).bind fun r => ?_
      cases r with
      | ok _ => trivial
      | error e => exact (hone _ rfl).bind fun _ => trivial
  · exact (hone _ rfl).bind fun _ => trivial

/-- Whether a step on a host is about a volume or about its target. -/
inductive StepAbout (c : Config) (v t : String) : Host.Step → Prop where
  | inspect : StepAbout c v t (.inspect t)
  | create (mode : ℕ) : StepAbout c v t (.create t mode)
  | system {call : SystemCall} (h : mountedPath call = t) : StepAbout c v t (.system call)
  | createInstance (image : String) : StepAbout c v t (.runTool (Image.createCommand c v image))
  | mountInstance : StepAbout c v t (.runTool (Image.mountCommand c v))
  | deleteInstance : StepAbout c v t (.runTool (Image.deleteCommand c v))

theorem systemCalls_asks {α : Type} {p : Program SystemCall.interface α}
    (h : p.Asks (I := SystemCall.interface) (mountedPath · = t)) :
    (Host.systemCalls p).Asks (I := Host.Step.interface) (StepAbout c v t) :=
  h.translate fun _ hq => Program.asks_single.2 (.system hq)

/-- What an action is about, its steps on a host are about. -/
theorem lower_asks {a : Action} (h : About c v t a) :
    (Host.lower a).Asks (I := Host.Step.interface) (StepAbout c v t) := by
  cases h with
  | inspect => exact Program.asks_single.2 .inspect
  | create mode => exact Program.asks_single.2 (.create mode)
  | mount source fsType options => exact systemCalls_asks mounting_asks
  | unmount =>
    exact systemCalls_asks ((perform_asks.mono fun q hq => by rw [hq]; rfl).bind fun _ => trivial)
  | createInstance image => exact Program.asks_single.2 (.createInstance image)
  | mountInstance => exact Program.asks_single.2 .mountInstance
  | deleteInstance => exact Program.asks_single.2 .deleteInstance

/-- On a host one part of a call comes after another as before. -/
theorem onHost_andThen {α β : Type} (p : Call α) (f : α → Call β) :
    Host.onHost (p.andThen f) = (Host.onHost p).andThen fun a => Host.onHost (f a) :=
  Program.translate_andThen ..

theorem onHost_bind {α β : Type} (p : Program Action.interface α)
    (f : α → Program Action.interface β) :
    Host.onHost (p.bind f) = (Host.onHost p).bind fun a => Host.onHost (f a) :=
  Program.translate_bind ..

theorem onHost_take (a : Action) : Host.onHost a.take = Host.lower a :=
  Program.bind_done _

theorem onHost_bindRoot {root : String} {readOnly : Bool} {extra : List String} :
    Host.onHost (Target.bindRoot t root readOnly extra) =
      Host.systemCalls (SystemCall.mounting root t none (MountOptions.forBind readOnly extra)) :=
  onHost_take (.mount ..)

/-- So do system calls. -/
theorem systemCalls_bind {α β : Type} (p : Program SystemCall.interface α)
    (f : α → Program SystemCall.interface β) :
    Host.systemCalls (p.bind f) = (Host.systemCalls p).bind fun a => Host.systemCalls (f a) :=
  Program.translate_bind ..

theorem systemCalls_andThen {α β ε : Type} (p : Program SystemCall.interface (Except ε α))
    (f : α → Program SystemCall.interface (Except ε β)) :
    Host.systemCalls (p.andThen f) =
      (Host.systemCalls p).andThen fun a => Host.systemCalls (f a) :=
  Program.translate_andThen ..

theorem Work.isStepAbout {work : Call Unit} (h : Work c v t work) :
    (Host.onHost work).Asks (I := Host.Step.interface) (StepAbout c v t) :=
  h.isAbout.translate fun _ => lower_asks

section

open Program

theorem take_endsWithin {a : Action} : a.take.EndsWithin 1 :=
  endsWithin_single

theorem provision_endsWithin {image : String} : (Image.provision c v image).EndsWithin 2 := by
  refine take_endsWithin.andThen (n := 1) fun created => ?_
  split
  · exact take_endsWithin.andThen (n := 0) fun _ => endsWithin_done
  · exact endsWithin_done

theorem publish_endsWithin {mode : ℕ} {root : String} {readOnly : Bool} {extra : List String} :
    (Target.publish mode t root readOnly extra).EndsWithin 3 := by
  refine take_endsWithin.bind (n := 2) fun r => ?_
  split
  · exact endsWithin_done
  · exact take_endsWithin.mono (by omega)
  · split
    · have hcreate : (Target.create t mode).EndsWithin 1 :=
        take_endsWithin.bind (n := 0) fun _ => endsWithin_done
      exact hcreate.andThen (n := 1) fun _ => take_endsWithin
    · exact endsWithin_done

theorem isMounted_endsWithin : (Target.isMounted t).EndsWithin 1 :=
  take_endsWithin.bind (n := 0) fun _ => endsWithin_done

theorem Work.endsWithin {work : Call Unit} (h : Work c v t work) : work.EndsWithin 6 := by
  cases h with
  | publish p =>
    refine isMounted_endsWithin.andThen (n := 5) fun mounted => ?_
    split
    · exact endsWithin_done
    · exact provision_endsWithin.andThen (n := 3) fun _ => publish_endsWithin
  | unpublish v t =>
    have hdown : (Target.unpublish t).EndsWithin 2 := by
      refine isMounted_endsWithin.andThen (n := 1) fun mounted => ?_
      split
      · exact take_endsWithin.bind (n := 0) fun _ => endsWithin_done
      · exact endsWithin_done
    have hrelease : (Image.release c v).EndsWithin 1 :=
      take_endsWithin.bind (n := 0) fun _ => endsWithin_done
    exact (hdown.andThen fun _ => hrelease).mono (by omega)

/-- **A call takes at most ten steps.** -/
theorem call_endsWithin (c : Config) (r : Request) : (call c r).EndsWithin 10 := by
  rw [call_eq]
  rcases plan_cases c r with ⟨v, t, work, -, hwork, hplan⟩ | ⟨x, -, hplan⟩
  · rw [hplan]
    refine take_endsWithin.bind (n := 9) fun ticket => take_endsWithin.bind (n := 8) fun _ => ?_
    refine hwork.endsWithin.bind (n := 2) fun r => ?_
    exact take_endsWithin.bind (n := 1) fun _ => take_endsWithin.bind (n := 0) fun _ =>
      endsWithin_done
  · rw [hplan]
    exact endsWithin_done

theorem perform_endsWithin {call : SystemCall} : (SystemCall.perform call).EndsWithin 1 := by
  by_cases h : call.names.any SystemCall.hasNul = true
  · rw [SystemCall.perform_of_nul h]
    exact endsWithin_done
  · rw [SystemCall.perform_of_not_nul h]
    exact endsWithin_single

theorem mounting_endsWithin {source : String} {fsType : Option String} {options : List String} :
    (SystemCall.mounting source t fsType options).EndsWithin 3 := by
  unfold SystemCall.mounting SystemCall.lift
  dsimp only
  split
  · refine EndsWithin.bind (k := 3) (n := 0) ?_ fun _ => endsWithin_done
    refine perform_endsWithin.andThen (n := 2) fun _ => ?_
    split
    · exact endsWithin_done
    · refine perform_endsWithin.bind (n := 1) fun r => ?_
      cases r with
      | ok _ => exact endsWithin_done
      | error e => exact perform_endsWithin.bind (n := 0) fun _ => endsWithin_done
  · exact perform_endsWithin.bind (n := 2) fun _ => endsWithin_done

/-- An action takes at most three steps on a host: a bind, its remount and the undoing of it. -/
theorem lower_endsWithin (a : Action) : (Host.lower a).EndsWithin 3 := by
  have hsystem : ∀ {p : Program SystemCall.interface (Except VolumeError Unit)},
      p.EndsWithin 3 → (Host.systemCalls p).EndsWithin 3 :=
    fun h => h.translate (n := 1) fun _ => endsWithin_single
  have hone : ∀ q : Host.Step, (single (I := Host.Step.interface) q).EndsWithin 3 :=
    fun _ => endsWithin_single.mono (by omega)
  cases a with
  | mount source target fsType options => exact hsystem mounting_endsWithin
  | unmount target =>
    exact hsystem (perform_endsWithin.bind (n := 2) fun _ => endsWithin_done)
  | enter | acquire | release | discard | inspect | runTool | create => exact hone _

/-- **On a host a call takes at most thirty steps.** -/
theorem onHost_call_endsWithin (c : Config) (r : Request) :
    (Host.onHost (call c r)).EndsWithin 30 :=
  (call_endsWithin c r).translate lower_endsWithin

end

end VolumeNode.Node
