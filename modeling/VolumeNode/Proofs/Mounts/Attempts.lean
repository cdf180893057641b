import VolumeNode.Proofs.Mounts.Binding

/-!
# Publishing and unpublishing, made one at a time

What an attempt to publish a volume leaves when anything may fail, and what attempts to publish and to
unpublish it leave when the tool and the host do what they are asked to.

* `publish_of_mounted`: a target that is mounted is left alone.
* `publish_cases`: what publishing on a target that is not mounted leaves, wherever it fails.
* `publish_of_works`: with nothing in the way, the root of a new instance is mounted.
* `unpublish_of_works`: nothing is left of what has been published.
-/

namespace VolumeNode.Node

variable {A : Type} {c : Config} {v t image : String} {e : Conditions A} {k : ℕ} {w : Site A}

/-- An inspection fails, or says whether the target is mounted. -/
theorem Fate.understood_cases (f : Fate) (t : String) (mounts : List Mounted) :
    (∃ x, f.unseen = some x ∧ x.isNotFound = false ∧
        Target.understood t (f.inspect mounts).1 = .error (.inspection t x)) ∨
      Target.understood t (f.inspect mounts).1 = .ok !mounts.isEmpty := by
  unfold Fate.inspect
  cases f.unseen with
  | none => exact Or.inr rfl
  | some x =>
    cases hx : x.isNotFound with
    | false => exact Or.inl ⟨x, rfl, hx, by simp [hx, Target.understood]⟩
    | true =>
      right
      cases hm : mounts.isEmpty <;> simp [hx, Target.understood]

/-- A target is found mounted or not, as it is, unless something keeps it from being inspected. -/
theorem yields_isMounted :
    Yields e.reading (fun x w' l => w' = w ∧ Quiet l ∧
      (x = .ok !(w.targets t).isEmpty ∨ ¬ e.HostWorks t ∧ ∃ f, x = .error (.inspection t f)))
      k (Host.onHost (Target.isMounted t)) w := by
  unfold Target.isMounted
  rw [onHost_bind]
  refine (yields_inspect.mono ?_).map
  rintro x w' l ⟨rfl, hw, hl⟩
  refine ⟨hw, hl, ?_⟩
  rcases (e.fates k).understood_cases t (w.targets t) with ⟨f, hf, hn, h⟩ | h
  · refine Or.inr ⟨fun hworks => ?_, f, h⟩
    rw [hworks.seen hf] at hn
    cases hn
  · exact Or.inl h

theorem Quiet.runs_append {l : List (Asked Host.Step.interface)} (h : Quiet l)
    (l' : List (Asked Host.Step.interface)) : toolRuns (l ++ l') = toolRuns l' := by
  rw [toolRuns_append, h.1]
  rfl

theorem Quiet.calls_append {l : List (Asked Host.Step.interface)} (h : Quiet l)
    (l' : List (Asked Host.Step.interface)) : kernelCalls (l ++ l') = kernelCalls l' := by
  rw [kernelCalls_append, h.2]
  rfl

/-- A root is mounted only if nothing is in the way. -/
theorem Bound.of_works {root : String} {readOnly : Bool} {extra : List String}
    {x : Except VolumeError Unit} {mounts : List Mounted}
    {calls : List (SystemCall × Except Errno Unit)}
    (h : Bound e t root readOnly extra x mounts calls) (hworks : e.HostWorks t)
    (hnul : SystemCall.hasNul root = false) :
    x = .ok () ∧ mounts = [⟨root, mountedFlags readOnly extra⟩] ∧
      calls = (rootCalls t root readOnly extra).map (·, .ok ()) := by
  have hfree : ¬ Hindered e t root := by
    rintro (h | h)
    · rw [hnul] at h
      cases h
    · exact h hworks
  cases h with
  | mounted => exact ⟨rfl, rfl, rfl⟩
  | failed h => exact (hfree h).elim
  | stuck h => exact (hfree h).elim

section

variable {root : String} {readOnly : Bool} {extra : List String} {mode : ℕ}

/-- Steps that ask neither the tool nor the kernel may come before the mount. -/
theorem yields_bindRoot_after {l : List (Asked Host.Step.interface)} (ht : w.targets t = [])
    (hl : Quiet l) :
    Yields e.reading (fun x w' l' => RootBound e t root readOnly extra w x w' (l ++ l')) k
      (Host.onHost (Target.bindRoot t root readOnly extra)) w := by
  refine (yields_bindRoot ht).mono ?_
  rintro x w' l' ⟨hinstances, hruns, hbound⟩
  refine ⟨hinstances, ?_, ?_⟩
  · rw [hl.runs_append, hruns]
  · rw [hl.calls_append]
    exact hbound

/-- **What becomes of a root on a target that is not mounted**, which may have to be created. -/
theorem yields_publish (ht : w.targets t = []) :
    Yields e.reading (RootBound e t root readOnly extra w) k
      (Host.onHost (Target.publish mode t root readOnly extra)) w := by
  unfold Target.publish
  rw [onHost_bind]
  refine yields_inspect.bind ?_
  rintro k₁ x w l ⟨hx, rfl, hl⟩
  rw [ht] at hx
  cases hu : (e.fates k).unseen with
  | none =>
    obtain rfl : x = .ok false := by simpa [Fate.inspect, hu] using hx
    exact yields_bindRoot_after ht hl
  | some y =>
    obtain rfl : x = .error y := by simpa [Fate.inspect, hu] using hx
    dsimp only
    split
    · -- the target is said not to be there, and is created
      rw [onHost_andThen]
      refine yields_create.andThen ?_ ?_
      · rintro k₂ _ w l' ⟨-, rfl, hl'⟩
        simp only [← List.append_assoc]
        exact yields_bindRoot_after ht (hl.append hl')
      · rintro z w l' ⟨hcreated, rfl, hl'⟩
        refine ⟨rfl, (hl.append hl').1, ?_⟩
        rw [ht]
        refine .failed (Or.inr fun hworks => ?_)
        cases hcreated.2 (hworks.created k₁)
    · rename_i hn
      refine yields_done ⟨rfl, by rw [List.append_nil, hl.1], ?_⟩
      rw [ht]
      exact .failed (Or.inr fun hworks => hn (hworks.seen hu))

end

/-- The runs of the tool that provision a volume, if none of them fails. -/
def provisionRuns (c : Config) (v image : String) : List Command :=
  Image.createCommand c v image :: if c.resolveRoot then [Image.mountCommand c v] else []

/-- **What comes of provisioning**: the root, the instance, and the runs of the tool. -/
inductive Provisioned (e : Conditions A) (c : Config) (v image : String) (x : Option A) :
    Except VolumeError String → Option A → List Command → Prop where
  | refused {k f y} (h : e.tool k (Image.createCommand c v image) x = (.error f, y)) :
      Provisioned e c v image x (.error f) y [Image.createCommand c v image]
  | printed {k o y} (hc : c.resolveRoot = false)
      (h : e.tool k (Image.createCommand c v image) x = (.ok o, y)) :
      Provisioned e c v image x (Image.rootOf v o) y [Image.createCommand c v image]
  | hidden {k k' o f y z} (hc : c.resolveRoot = true)
      (h : e.tool k (Image.createCommand c v image) x = (.ok o, y))
      (h' : e.tool k' (Image.mountCommand c v) y = (.error f, z)) :
      Provisioned e c v image x (.error f) z
        [Image.createCommand c v image, Image.mountCommand c v]
  | shown {k k' o o' y z} (hc : c.resolveRoot = true)
      (h : e.tool k (Image.createCommand c v image) x = (.ok o, y))
      (h' : e.tool k' (Image.mountCommand c v) y = (.ok o', z)) :
      Provisioned e c v image x (Image.rootOf v o') z
        [Image.createCommand c v image, Image.mountCommand c v]

theorem yields_provision :
    Yields e.reading (fun x w' l => w'.targets = w.targets ∧ kernelCalls l = [] ∧
      Provisioned e c v image (w.instances v) x (w'.instances v) (toolRuns l))
      k (Host.onHost (Image.provision c v image)) w := by
  unfold Image.provision
  rw [onHost_andThen (Action.runTool (Image.createCommand c v image)).take]
  refine (yields_runTool (namedInstance?_createCommand c v image)).andThen ?_ ?_
  · rintro k₁ o w₁ l₁ ⟨hcreate, htargets₁, hruns₁, hcalls₁⟩
    by_cases hc : c.resolveRoot = true
    · rw [if_pos hc, onHost_andThen (Action.runTool (Image.mountCommand c v)).take]
      refine (yields_runTool (namedInstance?_mountCommand c v)).andThen ?_ ?_
      · rintro k₂ o' w₂ l₂ ⟨hmount, htargets₂, hruns₂, hcalls₂⟩
        refine yields_done ⟨htargets₂.trans htargets₁, by simp [hcalls₁, hcalls₂], ?_⟩
        rw [List.append_nil, toolRuns_append, hruns₁, hruns₂]
        exact .shown hc hcreate.symm hmount.symm
      · rintro f w₂ l₂ ⟨hmount, htargets₂, hruns₂, hcalls₂⟩
        refine ⟨htargets₂.trans htargets₁, by simp [hcalls₁, hcalls₂], ?_⟩
        rw [toolRuns_append, hruns₁, hruns₂]
        exact .hidden hc hcreate.symm hmount.symm
    · rw [if_neg hc]
      refine yields_done ⟨htargets₁, by simp [hcalls₁], ?_⟩
      rw [List.append_nil, hruns₁]
      exact .printed (by simpa using hc) hcreate.symm
  · rintro f w₁ l₁ ⟨hcreate, htargets, hruns, hcalls⟩
    refine ⟨htargets, hcalls, ?_⟩
    rw [hruns]
    exact .refused hcreate.symm

/-- Whether the tool prints the root of an instance when it is asked for it. -/
def Conditions.Shows (e : Conditions A) (c : Config) (v : String) (root : A → String) (a : A) : Prop :=
  ∀ k, ∃ o a', e.tool k (Image.mountCommand c v) (some a) = (.ok o, some a') ∧ root a' = root a ∧
    Image.root? o = some (root a)

/-- Whether the tool creates an instance where there is none, and prints its root, if need be when it is
asked for it. -/
def Conditions.Creates (e : Conditions A) (c : Config) (v image : String) (root : A → String) : Prop :=
  ∀ k, ∃ o a, e.tool k (Image.createCommand c v image) none = (.ok o, some a) ∧
    SystemCall.hasNul (root a) = false ∧
    if c.resolveRoot then e.Shows c v root a else Image.root? o = some (root a)

/-- Whether the tool refuses to create an instance with a name that is in use. -/
def Conditions.Refuses (e : Conditions A) (c : Config) (v image : String) : Prop :=
  ∀ k a, ∃ f, e.tool k (Image.createCommand c v image) (some a) = (.error f, some a)

/-- Whether the tool deletes the instance, and says so when there is none if it does not succeed then. -/
structure Conditions.Deletes (e : Conditions A) (c : Config) (v : String) : Prop where
  present : ∀ k a, ∃ o, e.tool k (Image.deleteCommand c v) (some a) = (.ok o, none)
  absent : ∀ k, (∃ o, e.tool k (Image.deleteCommand c v) none = (.ok o, none)) ∨
    ∃ command status output, Image.isNotFound output = true ∧
      e.tool k (Image.deleteCommand c v) none = (.error (.processFailure command status output), none)

/-- Nothing fails, and the tool prints the same whatever it is asked to. -/
def Conditions.unhindered (o : Output) : Conditions Instance :=
  .ofFates fun _ => { output := o }

/-- The tool is killed when it has run for too long, and may have done by then what it was asked to. -/
def Conditions.killed (effect : Bool) : Conditions Instance :=
  .ofFates fun _ => { fails := true, effect, failure := .timeout "from" ⟨1, 0⟩ }

/-- A request to publish. -/
def plainRequest : PublishRequest :=
  { volumeId := "v", targetPath := "/t", capability := some {}
    volumeContext := Attributes.ofList [("image", "i")] }

/-- The root that was printed when an instance was made. -/
def Instance.printedRoot (x : Instance) : String :=
  (x.printed.bind Image.root?).getD ""

section

variable {o : Output}

theorem hostWorks_unhindered (h : SystemCall.hasNul t = false) :
    (Conditions.unhindered o).HostWorks t :=
  ⟨nofun, fun _ => rfl, fun _ => rfl, h⟩

theorem creates_unhindered {path : String} (h : Image.root? o = some path)
    (hnul : SystemCall.hasNul path = false) :
    (Conditions.unhindered o).Creates c v image Instance.printedRoot := by
  intro k
  have hprinted : ∀ shown, Instance.printedRoot ⟨some o, shown⟩ = path := by
    intro shown
    simp [Instance.printedRoot, h]
  refine ⟨o, ⟨some o, []⟩, rfl, ?_, ?_⟩
  · rw [hprinted]
    exact hnul
  · split
    · intro k'
      exact ⟨o, ⟨some o, [o]⟩, rfl, by rw [hprinted, hprinted], by rw [hprinted, h]⟩
    · rw [hprinted, h]

theorem refuses_unhindered : (Conditions.unhindered o).Refuses c v image :=
  fun _ _ => ⟨_, rfl⟩

theorem deletes_unhindered : (Conditions.unhindered o).Deletes c v :=
  ⟨fun _ _ => ⟨o, rfl⟩, fun _ => Or.inl ⟨o, rfl⟩⟩

end

/-- A tool that works provisions a volume that has no instance. -/
theorem Provisioned.of_creates {root : A → String} {x : Except VolumeError String} {y : Option A}
    {runs : List Command} (h : Provisioned e c v image none x y runs)
    (htool : e.Creates c v image root) :
    ∃ a, x = .ok (root a) ∧ y = some a ∧ SystemCall.hasNul (root a) = false ∧
      runs = provisionRuns c v image := by
  have hroot : ∀ {o path}, Image.root? o = some path → Image.rootOf v o = .ok path := by
    intro o path ho
    unfold Image.rootOf
    rw [ho]
  cases h with
  | @refused k f y h =>
    obtain ⟨o, a, ho, -⟩ := htool k
    rw [h] at ho
    cases ho
  | @printed k o y hc h =>
    obtain ⟨o', a, ho, hnul, hprinted⟩ := htool k
    rw [h] at ho
    cases ho
    rw [if_neg (by simp [hc])] at hprinted
    exact ⟨a, hroot hprinted, rfl, hnul, by simp [provisionRuns, hc]⟩
  | @hidden k k' o f y z hc h h' =>
    obtain ⟨o', a, ho, -, hshows⟩ := htool k
    rw [h] at ho
    cases ho
    rw [if_pos hc] at hshows
    obtain ⟨o'', a', ho', -⟩ := hshows k'
    rw [h'] at ho'
    cases ho'
  | @shown k k' o o' y z hc h h' =>
    obtain ⟨o₁, a, ho, hnul, hshows⟩ := htool k
    rw [h] at ho
    cases ho
    rw [if_pos hc] at hshows
    obtain ⟨o₂, a', ho', hsame, hshown⟩ := hshows k'
    rw [h'] at ho'
    cases ho'
    rw [← hsame] at hshown hnul
    exact ⟨a', hroot hshown, rfl, hnul, by simp [provisionRuns, hc]⟩

/-- A tool that refuses a name in use leaves the instance that has it. -/
theorem Provisioned.of_refuses {a : A} {x : Except VolumeError String} {y : Option A}
    {runs : List Command} (h : Provisioned e c v image (some a) x y runs)
    (htool : e.Refuses c v image) :
    ∃ k f, e.tool k (Image.createCommand c v image) (some a) = (.error f, some a) ∧ x = .error f ∧
      y = some a := by
  cases h with
  | @refused k f y h =>
    obtain ⟨f', hf⟩ := htool k a
    rw [h] at hf
    cases hf
    exact ⟨k, f, h, rfl, rfl⟩
  | @printed k _ _ _ h | @hidden k _ _ _ _ _ _ h _ | @shown k _ _ _ _ _ _ h _ =>
    obtain ⟨f', hf⟩ := htool k a
    rw [h] at hf
    cases hf

/-- **What comes of publishing on a target that is not mounted**: the result, the instance, the mounts,
the runs of the tool and the system calls. -/
inductive Published (e : Conditions A) (c : Config) (p : Publication) (x : Option A) :
    Except VolumeError Unit → Option A → List Mounted → List Command →
      List (SystemCall × Except Errno Unit) → Prop where
  /-- The target could not be inspected. -/
  | unseen {f} (h : ¬ e.HostWorks p.target) :
      Published e c p x (.error (.inspection p.target f)) x [] [] []
  | unprovisioned {f y runs} (h : Provisioned e c p.volume p.image x (.error f) y runs) :
      Published e c p x (.error f) y [] runs []
  | bound {root r y mounts runs calls} (h : Provisioned e c p.volume p.image x (.ok root) y runs)
      (hbound : Bound e p.target root p.readOnly p.access.mountFlags r mounts calls) :
      Published e c p x r y mounts runs calls

theorem yields_publishBody {p : Publication} (ht : w.targets p.target = []) :
    Yields e.reading (fun r w' l => Published e c p (w.instances p.volume) r (w'.instances p.volume)
      (w'.targets p.target) (toolRuns l) (kernelCalls l)) k (Host.onHost (publishBody c p)) w := by
  unfold publishBody
  rw [onHost_andThen]
  refine yields_isMounted.andThen ?_ ?_
  · rintro k₁ mounted w l₁ ⟨rfl, hl₁, hx | ⟨-, f, hx⟩⟩
    · rw [ht] at hx
      cases hx
      -- provisioning leaves the target alone, so that it is still not mounted
      rw [if_neg (by simp), onHost_andThen]
      refine yields_provision.andThen ?_ ?_
      · rintro k₂ root w₂ l₂ ⟨htargets, hcalls, hprovisioned⟩
        refine (yields_publish ((congrFun htargets _).trans ht)).mono ?_
        rintro r w₃ l₃ ⟨hinstances, hruns, hbound⟩
        rw [hl₁.runs_append, hl₁.calls_append, toolRuns_append, kernelCalls_append, hruns, hcalls,
          List.append_nil, List.nil_append, hinstances]
        exact .bound hprovisioned hbound
      · rintro f w₂ l₂ ⟨htargets, hcalls, hprovisioned⟩
        rw [hl₁.runs_append, hl₁.calls_append, hcalls, htargets, ht]
        exact .unprovisioned hprovisioned
    · cases hx
  · rintro f w l₁ ⟨rfl, hl₁, hx | ⟨hworks, y, hx⟩⟩
    · cases hx
    · cases hx
      rw [ht, hl₁.1, hl₁.2]
      exact .unseen hworks

/-- A mounted target is left alone. -/
theorem yields_publishBody_of_mounted {p : Publication} (ht : w.targets p.target ≠ []) :
    Yields e.reading (fun r w' l => (r = .ok () ∨ ∃ f, r = .error (.inspection p.target f)) ∧ w' = w ∧
      Quiet l) k (Host.onHost (publishBody c p)) w := by
  have hempty : (w.targets p.target).isEmpty = false := by simpa using ht
  unfold publishBody
  rw [onHost_andThen]
  refine yields_isMounted.andThen ?_ ?_
  · rintro k₁ mounted w l ⟨rfl, hl, hx | ⟨-, f, hx⟩⟩
    · rw [hempty] at hx
      cases hx
      exact yields_done ⟨Or.inl rfl, rfl, hl.append quiet_nil⟩
    · cases hx
  · rintro f w l ⟨rfl, hl, hx | ⟨-, y, hx⟩⟩
    · cases hx
    · cases hx
      exact ⟨Or.inr ⟨y, rfl⟩, rfl, hl⟩

/-- A single mount is taken down, and the kernel is not asked if there is none. -/
theorem yields_unpublish (hworks : e.HostWorks t) (hlen : (w.targets t).length ≤ 1) :
    Yields e.reading (fun r w' l => r = .ok () ∧ w'.instances = w.instances ∧ w'.targets t = [] ∧
      (w.targets t = [] → kernelCalls l = [])) k (Host.onHost (Target.unpublish t)) w := by
  unfold Target.unpublish
  rw [onHost_andThen]
  refine yields_isMounted.andThen ?_ ?_
  · rintro k₁ mounted w l₁ ⟨rfl, hl₁, hx | ⟨-, f, hx⟩⟩
    · cases hx
      cases hw : w.targets t with
      | nil => exact yields_done ⟨rfl, rfl, hw, fun _ => (hl₁.append quiet_nil).2⟩
      | cons m mounts =>
        obtain rfl : mounts = [] := by simpa [hw] using hlen
        rw [if_pos (show (!List.isEmpty [m]) = true from rfl), onHost_bind, onHost_take]
        refine Yields.map ?_
        change Yields _ _ _ (Host.systemCalls (SystemCall.unmounting t)) _
        unfold SystemCall.unmounting SystemCall.lift
        rw [systemCalls_bind]
        refine ((yields_perform (.unmount t)).mono ?_).map
        rintro x w₂ l₂ ⟨hinstances, -, ⟨hnul, -⟩ | ⟨-, -, hsystem⟩⟩
        · simp [SystemCall.names, hworks.named] at hnul
        · change (x, w₂.targets t) = (e.fates k₁).system (.unmount t) (w.targets t) at hsystem
          rw [hw, Fate.system_unmount (hworks.performed k₁)] at hsystem
          obtain ⟨rfl, ht₂⟩ := Prod.ext_iff.1 hsystem
          exact ⟨rfl, hinstances, ht₂, fun h => absurd h (List.cons_ne_nil m [])⟩
    · cases hx
  · rintro f w l ⟨rfl, -, hx | ⟨hfails, -⟩⟩
    · cases hx
    · exact (hfails hworks).elim

/-- An instance is deleted, and it does not matter if there is none. -/
theorem yields_release (htool : e.Deletes c v) :
    Yields e.reading (fun r w' l => r = .ok () ∧ w'.instances v = none ∧ w'.targets = w.targets ∧
      kernelCalls l = []) k (Host.onHost (Image.release c v)) w := by
  unfold Image.release
  rw [onHost_bind]
  refine ((yields_runTool (namedInstance?_deleteCommand c v)).mono ?_).map
  rintro x w' l ⟨hdelete, htargets, -, hcalls⟩
  have hdeleted : Image.absorb x = .ok () ∧ w'.instances v = none := by
    cases hv : w.instances v with
    | some a =>
      obtain ⟨o, ho⟩ := htool.present k a
      rw [hv, ho] at hdelete
      obtain ⟨rfl, hgone⟩ := Prod.ext_iff.1 hdelete
      exact ⟨rfl, hgone⟩
    | none =>
      rw [hv] at hdelete
      rcases htool.absent k with ⟨o, ho⟩ | ⟨command, status, output, hmissing, ho⟩
      · rw [ho] at hdelete
        obtain ⟨rfl, hgone⟩ := Prod.ext_iff.1 hdelete
        exact ⟨rfl, hgone⟩
      · rw [ho] at hdelete
        obtain ⟨rfl, hgone⟩ := Prod.ext_iff.1 hdelete
        exact ⟨by simp [Image.absorb, hmissing], hgone⟩
  exact ⟨hdeleted.1, hdeleted.2, htargets, hcalls⟩

/-- The mount is taken down, and then the instance is deleted. -/
theorem yields_unpublishBody (hhost : e.HostWorks t) (htool : e.Deletes c v)
    (hlen : (w.targets t).length ≤ 1) :
    Yields e.reading (fun r w' l => r = .ok () ∧ w'.instances v = none ∧ w'.targets t = [] ∧
      (w.targets t = [] → kernelCalls l = [])) k (Host.onHost (unpublishBody c v t)) w := by
  unfold unpublishBody
  rw [onHost_andThen]
  refine (yields_unpublish hhost hlen).andThen ?_ ?_
  · rintro k₁ _ w₁ l₁ ⟨-, -, htarget, hcalls₁⟩
    refine (yields_release htool).mono ?_
    rintro x w₂ l₂ ⟨hx, hgone, htargets, hcalls₂⟩
    refine ⟨hx, hgone, (congrFun htargets t).trans htarget, fun ht => ?_⟩
    rw [kernelCalls_append, hcalls₁ ht, hcalls₂]
    rfl
  · rintro f w₁ l₁ ⟨hx, -⟩
    cases hx

section

variable {r : PublishRequest} {p : Publication}

theorem plan_publish (c : Config) (h : checkPublish r = .ok p) :
    plan c (.publish r) = .inl (p.volume, publishBody c p) := by
  simp only [plan, h]

theorem place?_publish (h : checkPublish r = .ok p) :
    place? (.publish r) = some (p.volume, p.target) := by
  simp only [place?, h]

theorem place?_unpublish (h : checkUnpublish { volumeId := v, targetPath := t } = .ok ()) :
    place? (.unpublish { volumeId := v, targetPath := t }) = some (v, t) := by
  simp only [place?, h]

/-- What has been published can be asked to be unpublished. -/
theorem checkUnpublish_of_checkPublish (h : checkPublish r = .ok p) :
    checkUnpublish { volumeId := p.volume, targetPath := p.target } = .ok () := by
  unfold checkPublish at h
  split at h
  · cases h
  split at h
  · cases h
  rename_i hvolume
  split at h
  · cases h
  rename_i htarget
  split at h
  · cases h
  cases h
  simp [checkUnpublish, hvolume, htarget]

/-- **What publishing on a target that is not mounted leaves**, wherever it fails. -/
theorem publish_cases (h : checkPublish r = .ok p) (ht : w.targets p.target = []) :
    Published e c p (w.instances p.volume) (attempt c (.publish r) e w).result
      ((attempt c (.publish r) e w).world.instances p.volume)
      ((attempt c (.publish r) e w).world.targets p.target) (attempt c (.publish r) e w).runs
      (attempt c (.publish r) e w).calls :=
  attempt_spec (Q := fun x w' runs calls => Published e c p (w.instances p.volume) x
    (w'.instances p.volume) (w'.targets p.target) runs calls) (plan_publish c h)
    (yields_publishBody ht)

/-- **A target that is mounted is left alone.** -/
theorem publish_of_mounted (h : checkPublish r = .ok p) (ht : w.targets p.target ≠ []) :
    ((attempt c (.publish r) e w).result = .ok () ∨
        ∃ f, (attempt c (.publish r) e w).result = .error (.inspection p.target f)) ∧
      (attempt c (.publish r) e w).world = w ∧ (attempt c (.publish r) e w).runs = [] ∧
      (attempt c (.publish r) e w).calls = [] :=
  attempt_spec (Q := fun x w' runs calls => (x = .ok () ∨ ∃ f, x = .error (.inspection p.target f)) ∧
    w' = w ∧ runs = [] ∧ calls = []) (plan_publish c h) (yields_publishBody_of_mounted ht)

/-- **With nothing in the way**, publishing a volume that has no instance makes one and mounts it. -/
theorem Published.of_works {root : A → String} {x : Except VolumeError Unit} {y : Option A}
    {mounts : List Mounted} {runs : List Command} {calls : List (SystemCall × Except Errno Unit)}
    (h : Published e c p none x y mounts runs calls) (hhost : e.HostWorks p.target)
    (htool : e.Creates c p.volume p.image root) :
    ∃ a, x = .ok () ∧ y = some a ∧
      mounts = [⟨root a, mountedFlags p.readOnly p.access.mountFlags⟩] ∧
      runs = provisionRuns c p.volume p.image ∧
      calls = (rootCalls p.target (root a) p.readOnly p.access.mountFlags).map (·, .ok ()) := by
  cases h with
  | unseen h => exact (h hhost).elim
  | unprovisioned h =>
    obtain ⟨a, hx, -⟩ := h.of_creates htool
    cases hx
  | bound h hbound =>
    obtain ⟨a, hx, hy, hnul, hruns⟩ := h.of_creates htool
    cases hx
    obtain ⟨hresult, hmounts, hcalls⟩ := hbound.of_works hhost hnul
    exact ⟨a, hresult, hy, hmounts, hruns, hcalls⟩

/-- **With nothing in the way, the root of a new instance is mounted.** -/
theorem publish_of_works {root : A → String} (h : checkPublish r = .ok p)
    (ht : w.targets p.target = []) (hv : w.instances p.volume = none)
    (hhost : e.HostWorks p.target) (htool : e.Creates c p.volume p.image root) :
    ∃ a, (attempt c (.publish r) e w).result = .ok () ∧
      (attempt c (.publish r) e w).world.instances p.volume = some a ∧
      (attempt c (.publish r) e w).world.targets p.target =
        [⟨root a, mountedFlags p.readOnly p.access.mountFlags⟩] ∧
      (attempt c (.publish r) e w).runs = provisionRuns c p.volume p.image ∧
      (attempt c (.publish r) e w).calls =
        (rootCalls p.target (root a) p.readOnly p.access.mountFlags).map (·, .ok ()) := by
  have hcases := publish_cases (e := e) (c := c) h ht
  rw [hv] at hcases
  exact hcases.of_works hhost htool

/-- **Nothing is left of what has been published**, on a target that carries one mount at most. -/
theorem unpublish_of_works (hcheck : checkUnpublish { volumeId := v, targetPath := t } = .ok ())
    (hhost : e.HostWorks t) (htool : e.Deletes c v) (hlen : (w.targets t).length ≤ 1) :
    let a := attempt c (.unpublish { volumeId := v, targetPath := t }) e w
    a.result = .ok () ∧
      a.world = ⟨Function.update w.instances v none, Function.update w.targets t []⟩ ∧
      (w.targets t = [] → a.calls = []) := by
  intro a
  have hplan : plan c (.unpublish { volumeId := v, targetPath := t }) =
      .inl (v, unpublishBody c v t) := by
    simp only [plan, hcheck]
  obtain ⟨hresult, hinstance, htarget, hcalls⟩ := attempt_spec (Q := fun x w' _ calls => x = .ok () ∧
    w'.instances v = none ∧ w'.targets t = [] ∧ (w.targets t = [] → calls = [])) hplan
    (yields_unpublishBody hhost htool hlen)
  exact ⟨hresult, (attempt_elsewhere (place?_unpublish hcheck)).eq_update hinstance htarget, hcalls⟩

end

end VolumeNode.Node
