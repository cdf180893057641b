import VolumeNode.Proofs.Mounts.FaultyHost

/-!
# No mount outlasts its instance

Calls of any number of volumes go on at the same time on a host on which anything may fail. What is
mounted on the target of a volume is then, at every point of every run, the root of the instance that
the volume has: the calls of a volume provision before they mount, and delete only when they know the
target to be down.

* `InOrder`: what holds of a volume at every point.
* `keeps_publish`, `keeps_unpublish`: what the parts of a call, run by themselves, make of its volume.
* `mounted_instance`: no mount outlasts its instance.
-/

namespace VolumeNode.Node

/-- Whether the mounts of a target are in order: there is at most one, and it is of a root that the
tool has said the instance has. -/
def Standing (c : Config) (x : Option Instance) (mounts : List Mounted) : Prop :=
  mounts.length ≤ 1 ∧ ∀ m ∈ mounts, ∃ y, x = some y ∧ y.HasRoot c m.source

theorem standing_nil {c : Config} {x : Option Instance} : Standing c x [] :=
  ⟨Nat.zero_le 1, fun _ hm => absurd hm List.not_mem_nil⟩

variable {ι : Type} {c : Config} {requests : ι → Request} {i : ι} {v t : String}

/-- **A volume is in order** if the targets that no other volume has are, and are mounted only if they
are its own. -/
def InOrder (c : Config) (requests : ι → Request) (v : String) (w : Premises) : Prop :=
  ∀ t, (∀ i u, place? (requests i) = some (u, t) → u = v) →
    Standing c (w.instances v) (w.targets t) ∧
      (w.targets t ≠ [] → ∃ i, place? (requests i) = some (v, t))

theorem inOrder_empty (v : String) : InOrder c requests v .empty :=
  fun _ _ => ⟨standing_nil, fun hne => absurd rfl hne⟩

theorem inOrder_congr {w w' : Premises} (h : Places.SameFor requests v w w')
    (hw : InOrder c requests v w) : InOrder c requests v w' := by
  intro t ht
  rw [← h.1, ← h.2 t ht]
  exact hw t ht

theorem InOrder.standing {w : Premises} (h : InOrder c requests v w) (ha : Apart requests)
    (hi : place? (requests i) = some (v, t)) : Standing c (w.instances v) (w.targets t) :=
  (h t fun j u hj => ha j i u v t hj hi).1

/-- Only the target of its calls is mounted for a volume. -/
theorem InOrder.elsewhere {w : Premises} (h : InOrder c requests v w) (hs : Steady requests)
    (hi : place? (requests i) = some (v, t)) {t' : String} (htt : t' ≠ t)
    (ht' : ∀ i u, place? (requests i) = some (u, t') → u = v) : w.targets t' = [] := by
  by_contra hne
  obtain ⟨j, hj⟩ := (h t' ht').2 hne
  exact htt (hs j i v t' t hj hi)

/-- What leaves the mounts of the target in order leaves the volume in order. -/
theorem InOrder.onTarget {α : Type} {w : Premises} (h : InOrder c requests v w)
    (hi : place? (requests i) = some (v, t)) {f : List Mounted → α × List Mounted}
    (hf : Standing c (w.instances v) (f (w.targets t)).2) :
    InOrder c requests v (Places.onTarget t f w).2 := by
  intro t' ht'
  by_cases htt : t' = t
  · subst htt
    rw [Places.onTarget_self]
    exact ⟨hf, fun _ => ⟨i, hi⟩⟩
  · rw [Places.onTarget_of_ne f w htt]
    exact h t' ht'

/-- While its target is not mounted, anything may happen to the instance of a volume. -/
theorem InOrder.onInstance {α : Type} {w : Premises} (h : InOrder c requests v w)
    (hs : Steady requests) (hi : place? (requests i) = some (v, t)) (ht : w.targets t = [])
    (f : Option Instance → α × Option Instance) :
    InOrder c requests v (Places.onInstance v f w).2 := by
  intro t' ht'
  have hnil : w.targets t' = [] := by
    by_cases htt : t' = t
    · rw [htt, ht]
    · exact h.elsewhere hs hi htt ht'
  unfold Places.onInstance
  dsimp only
  rw [hnil]
  exact ⟨standing_nil, fun hne => absurd rfl hne⟩

/-- Whether a system call may be made: what it mounts has nothing under it, and is a root of the
instance. -/
def MayCall (c : Config) (x : Option Instance) (mounts : List Mounted) : SystemCall → Prop
  | .mount source _ _ flags _ =>
    flags.holds .remount = true ∨ mounts = [] ∧ ∃ y, x = some y ∧ y.HasRoot c (source.getD "")
  | .unmount _ => True

/-- **A system call that may be made keeps the mounts of a target in order**, also when it fails. -/
theorem standing_system {x : Option Instance} {mounts : List Mounted} {call : SystemCall}
    (h : Standing c x mounts) (hcall : MayCall c x mounts call) (f : Fate) :
    Standing c x (f.system call mounts).2 := by
  unfold Fate.system
  split
  · exact h
  · rename_i source _ _ flags _ mounts _
    split
    · split
      · exact standing_nil
      · rename_i m rest
        obtain ⟨hlen, hroot⟩ := h
        refine ⟨hlen, ?_⟩
        intro n hn
        rcases List.mem_cons.1 hn with rfl | hn
        · exact hroot m List.mem_cons_self
        · exact hroot n (List.mem_cons_of_mem m hn)
    · rename_i hflags
      rcases hcall with hcall | ⟨rfl, y, hy, hroot⟩
      · exact absurd hcall hflags
      · refine ⟨le_rfl, ?_⟩
        intro n hn
        rw [List.mem_singleton.1 hn]
        exact ⟨y, hy, hroot⟩
  · exact standing_nil
  · rename_i m rest _
    obtain ⟨hlen, hroot⟩ := h
    exact ⟨Nat.le_of_succ_le hlen, fun n hn => hroot n (List.mem_cons_of_mem m hn)⟩

/-- Whether a part of a call, run by itself, keeps its volume in order, and ends with `Q`. -/
abbrev Keeps {α : Type} (c : Config) (requests : ι → Request) (fates : ℕ → Fate) (v : String)
    (Q : α → Premises → Prop) (k : ℕ) (p : Program Host.Step.interface α) (w : Premises) : Prop :=
  Ensures (premisesReading fates) (InOrder c requests v) Q k p w

/-- Whether the tool has said what the root of a volume is, while its target is not mounted. -/
def HasRootAt (c : Config) (v t root : String) (w : Premises) : Prop :=
  w.targets t = [] ∧ ∃ y, w.instances v = some y ∧ y.HasRoot c root

/-- The root that the tool has printed is the one in its output. -/
theorem root?_of_rootOf {o : Output} {root : String} (h : Image.rootOf v o = .ok root) :
    Image.root? o = some root := by
  unfold Image.rootOf at h
  split at h
  · rename_i path hpath
    cases h
    exact hpath
  · cases h

section

variable {fates : ℕ → Fate} {k : ℕ} {w : Premises}

theorem keeps_inspect (hw : InOrder c requests v w) :
    Keeps c requests fates v
      (fun r w' => w' = w ∧ (Target.understood t r = .ok false → w.targets t = []))
      k (Host.onHost (Action.inspect t).take) w := by
  have hsame : (Places.onTarget t (fates k).inspect w).2 = w :=
    Places.onTarget_eq_self (Fate.inspect_snd (fates k)) w
  exact ensures_single (premisesReading fates) k (.inspect t) rfl hw (hsame.symm ▸ hw)
    ⟨hsame, Fate.not_mounted_of_inspect⟩

theorem keeps_create {mode : ℕ} (hw : InOrder c requests v w) :
    Keeps c requests fates v (fun _ w' => w' = w) k (Host.onHost (Action.create t mode).take) w := by
  have hsame : (Places.onTarget t (fates k).create w).2 = w :=
    Places.onTarget_eq_self (Fate.create_snd (fates k)) w
  exact ensures_single (premisesReading fates) k (.create t mode) rfl hw (hsame.symm ▸ hw) hsame

/-- While the target is not mounted, the tool may be run for the instance. -/
theorem keeps_runTool {command : Command} (hs : Steady requests)
    (hi : place? (requests i) = some (v, t)) (hc : namedInstance? command = some v)
    (hw : InOrder c requests v w) (ht : w.targets t = []) :
    Keeps c requests fates v
      (fun r w' => w'.targets t = [] ∧
        (r, w'.instances v) = (fates k).runTool command.arguments (w.instances v))
      k (Host.onHost (Action.runTool command).take) w := by
  refine ensures_single (premisesReading fates) k (.runTool command) (premisesReading_runTool hc k)
    hw (hw.onInstance hs hi ht _) ⟨ht, Places.onInstance_run v _ w⟩

theorem keeps_isMounted (hw : InOrder c requests v w) :
    Keeps c requests fates v (fun r w' => w' = w ∧ (r = .ok false → w.targets t = []))
      k (Host.onHost (Target.isMounted t)) w := by
  unfold Target.isMounted
  rw [onHost_bind]
  exact (keeps_inspect hw).bind fun k r w' hw' hr => ⟨hw', hr⟩

/-- **Provisioning says what the root of the new instance is.** -/
theorem keeps_provision {image : String} (hs : Steady requests)
    (hi : place? (requests i) = some (v, t)) (hw : InOrder c requests v w) (ht : w.targets t = []) :
    Keeps c requests fates v (fun r w' => ∀ root, r = .ok root → HasRootAt c v t root w')
      k (Host.onHost (Image.provision c v image)) w := by
  unfold Image.provision
  rw [onHost_andThen (Action.runTool (Image.createCommand c v image)).take]
  refine (keeps_runTool hs hi (namedInstance?_createCommand ..) hw ht).andThen ?_ ?_
  · intro k' created w' hw' hcreated
    obtain ⟨ht', hrun⟩ := hcreated
    have hmade := Fate.made_of_runTool hrun
    by_cases hc : c.resolveRoot = true
    · rw [if_pos hc, onHost_andThen (Action.runTool (Image.mountCommand c v)).take]
      refine (keeps_runTool hs hi (namedInstance?_mountCommand ..) hw' ht').andThen ?_ ?_
      · -- the root is what the tool shows of the instance that is there now
        intro k'' shown w'' hw'' hshown
        obtain ⟨ht'', hrun'⟩ := hshown
        obtain ⟨y, hy, hmem⟩ := Fate.shown_of_runTool hrun'
        refine ⟨hw'', fun root hroot => ⟨ht'', y, hy, ?_⟩⟩
        unfold Instance.HasRoot
        rw [if_pos hc]
        exact ⟨shown, hmem, root?_of_rootOf hroot⟩
      · intro e w'' _ root hroot
        cases hroot
    · rw [if_neg hc]
      refine ⟨hw', fun root hroot => ⟨ht', _, hmade, ?_⟩⟩
      unfold Instance.HasRoot
      rw [if_neg hc]
      exact ⟨created, rfl, root?_of_rootOf hroot⟩
  · intro e w' _ root hroot
    cases hroot

/-- A system call on the target that may be made keeps the volume in order. -/
theorem keeps_perform (call : SystemCall) (ha : Apart requests)
    (hi : place? (requests i) = some (v, mountedPath call)) (hw : InOrder c requests v w)
    (hcall : MayCall c (w.instances v) (w.targets (mountedPath call)) call) :
    Keeps c requests fates v
      (fun r w' => ∃ f : Fate, (r, w'.targets (mountedPath call)) =
        f.system call (w.targets (mountedPath call)))
      k (Host.systemCalls (SystemCall.perform call)) w := by
  by_cases hnul : call.names.any SystemCall.hasNul = true
  · rw [SystemCall.perform_of_nul hnul]
    exact ⟨hw, { refusal := some .invalid }, rfl⟩
  · have hsingle : SystemCall.perform call = .single (I := SystemCall.interface) call :=
      if_neg hnul
    rw [hsingle]
    exact ensures_single (premisesReading fates) k (.system call) rfl hw
      (hw.onTarget hi (standing_system (hw.standing ha hi) hcall (fates k)))
      ⟨fates k, Places.onTarget_run (mountedPath call) _ w⟩

/-- Mounting the root of the instance keeps the volume in order, wherever it fails. -/
theorem keeps_mounting {root : String} {options : List String} (ha : Apart requests)
    (hi : place? (requests i) = some (v, t)) (hw : InOrder c requests v w)
    (hroot : HasRootAt c v t root w) :
    Keeps c requests fates v (fun _ _ => True)
      k (Host.systemCalls (SystemCall.mounting root t none options)) w := by
  obtain ⟨ht, y, hy, hyroot⟩ := hroot
  -- the call that mounts the root finds nothing mounted; each call after it remounts or unmounts
  have hmount : ∀ k flags fsType data, Keeps c requests fates v (fun _ _ => True) k
      (Host.systemCalls (SystemCall.perform (.mount (some root) t fsType flags data))) w :=
    fun k flags fsType data =>
      (keeps_perform (.mount (some root) t fsType flags data) ha hi hw
        (Or.inr ⟨ht, y, hy, hyroot⟩)).mono fun _ _ _ _ => trivial
  have hlater : ∀ call, mountedPath call = t → (∀ x mounts, MayCall c x mounts call) →
      ∀ k w', InOrder c requests v w' → Keeps c requests fates v (fun _ _ => True) k
        (Host.systemCalls (SystemCall.perform call)) w' := by
    intro call hpath hmay k w' hw'
    subst hpath
    exact (keeps_perform call ha hi hw' (hmay _ _)).mono fun _ _ _ _ => trivial
  unfold SystemCall.mounting SystemCall.lift
  dsimp only
  split
  · rw [systemCalls_bind, systemCalls_andThen]
    refine Ensures.bind (Q := fun _ _ => True) ?_ fun k r w' hw' _ => ⟨hw', trivial⟩
    refine (hmount ..).andThen ?_ fun _ _ _ => trivial
    intro k' _ w' hw' _
    split
    · exact ⟨hw', trivial⟩
    · rw [systemCalls_bind]
      refine (hlater (.mount none t none _ none) rfl
        (fun _ _ => Or.inl (holds_remount ..)) k' w' hw').bind ?_
      intro k'' r w'' hw'' _
      cases r with
      | ok _ => exact ⟨hw'', trivial⟩
      | error e =>
        dsimp only
        rw [systemCalls_bind]
        exact (hlater (.unmount t) rfl (fun _ _ => trivial) k'' w'' hw'').bind
          fun _ _ _ hw _ => ⟨hw, trivial⟩
  · rw [systemCalls_bind]
    exact (hmount ..).bind fun _ _ _ hw' _ => ⟨hw', trivial⟩

/-- **Mounting keeps the volume in order**: the root is mounted only where nothing is. -/
theorem keeps_publish {mode : ℕ} {root : String} {readOnly : Bool} {extra : List String}
    (ha : Apart requests) (hi : place? (requests i) = some (v, t)) (hw : InOrder c requests v w)
    (hroot : HasRootAt c v t root w) :
    Keeps c requests fates v (fun _ _ => True)
      k (Host.onHost (Target.publish mode t root readOnly extra)) w := by
  have hbind : ∀ k, Keeps c requests fates v (fun _ _ => True) k
      (Host.onHost (Target.bindRoot t root readOnly extra)) w := by
    intro k
    rw [onHost_bindRoot]
    exact keeps_mounting ha hi hw hroot
  unfold Target.publish
  rw [onHost_bind]
  refine (keeps_inspect hw).bind fun k' r w' hw' hr => ?_
  obtain ⟨rfl, -⟩ := hr
  rcases r with e | ⟨_ | _⟩
  · dsimp only
    split
    · unfold Target.create
      rw [onHost_andThen, onHost_bind]
      refine Ensures.andThen (Q := fun _ w'' => w'' = w') ?_ ?_ fun _ _ _ => trivial
      · exact (keeps_create hw).bind fun _ _ _ hw'' hr => ⟨hw'', hr⟩
      · intro k'' _ w'' _ hr
        rw [hr]
        exact hbind k''
    · exact ⟨hw', trivial⟩
  · exact hbind k'
  · exact ⟨hw', trivial⟩

/-- What has been unpublished is not mounted. -/
theorem keeps_unpublish (ha : Apart requests) (hi : place? (requests i) = some (v, t))
    (hw : InOrder c requests v w) :
    Keeps c requests fates v (fun r w' => r = .ok () → w'.targets t = [])
      k (Host.onHost (Target.unpublish t)) w := by
  unfold Target.unpublish
  rw [onHost_andThen]
  refine (keeps_isMounted hw).andThen ?_ ?_
  · intro k' mounted w' hw' hr
    obtain ⟨rfl, hfalse⟩ := hr
    cases mounted with
    | false => exact ⟨hw', fun _ => hfalse rfl⟩
    | true =>
      rw [if_pos rfl, onHost_bind, onHost_take]
      refine Ensures.bind (Q := fun r w' => r = .ok () → w'.targets t = []) ?_ ?_
      · change Keeps _ _ _ _ _ _ (Host.systemCalls (SystemCall.unmounting t)) _
        unfold SystemCall.unmounting SystemCall.lift
        rw [systemCalls_bind]
        refine (keeps_perform (.unmount t) ha hi hw' trivial).bind ?_
        intro k'' r w'' hw'' hr
        obtain ⟨f, hf⟩ := hr
        refine ⟨hw'', fun hok => ?_⟩
        cases r with
        | ok _ => exact Fate.unmounted_of_system hf (hw'.standing ha hi).1
        | error e => cases hok
      · intro k'' r w'' hw'' hr
        refine ⟨hw'', fun hok => ?_⟩
        cases r with
        | ok _ => exact hr rfl
        | error e => cases hok
  · intro e w' _ hok
    cases hok

theorem keeps_release (hs : Steady requests) (hi : place? (requests i) = some (v, t))
    (hw : InOrder c requests v w) (ht : w.targets t = []) :
    Keeps c requests fates v (fun _ _ => True) k (Host.onHost (Image.release c v)) w := by
  unfold Image.release
  rw [onHost_bind]
  exact (keeps_runTool hs hi (namedInstance?_deleteCommand ..) hw ht).bind
    fun _ _ _ hw' _ => ⟨hw', trivial⟩

/-- **What is done under the lock of a volume keeps the volume in order**, wherever it fails. -/
theorem keeps_work {work : Call Unit} (ha : Apart requests) (hs : Steady requests)
    (hi : place? (requests i) = some (v, t)) (hwork : Work c v t work)
    (hw : InOrder c requests v w) :
    Keeps c requests fates v (fun _ _ => True) k (Host.onHost work) w := by
  cases hwork with
  | publish p =>
    unfold publishBody
    rw [onHost_andThen]
    refine (keeps_isMounted hw).andThen ?_ fun _ _ _ => trivial
    intro k' mounted w' hw' hr
    obtain ⟨rfl, hfalse⟩ := hr
    cases mounted with
    | true => exact ⟨hw', trivial⟩
    | false =>
      -- nothing is mounted, and nobody else mounts: the root comes to stand alone
      rw [if_neg Bool.false_ne_true, onHost_andThen]
      refine (keeps_provision hs hi hw' (hfalse rfl)).andThen ?_ fun _ _ _ => trivial
      intro k'' root w'' hw'' hroot
      exact keeps_publish ha hi hw'' (hroot root rfl)
  | unpublish v t =>
    unfold unpublishBody
    rw [onHost_andThen]
    refine (keeps_unpublish ha hi hw).andThen ?_ fun _ _ _ => trivial
    intro k' _ w' hw' ht
    exact keeps_release hs hi hw' (ht rfl)

end

/-- What the calls of volumes that keep to their own targets keep of each volume: it is in order. -/
def mountDiscipline (c : Config) (requests : ι → Request) (fates : ι → ℕ → Fate)
    (ha : Apart requests) (hs : Steady requests) :
    Discipline (fun i => premisesReading (fates i)) fun i => opening Host.onHost c (requests i) where
  same := Places.SameFor requests
  always := InOrder c requests
  between v _ := InOrder c requests v
  result _ _ _ := True
  same_refl _ := Places.sameFor_refl
  always_congr := inOrder_congr
  between_congr := inOrder_congr
  always_of_between h := h
  between_append _ _ h := h
  result_append _ _ := trivial
  confined {i v p} h := by
    obtain ⟨t, work, hi, hwork, rfl⟩ := work_of_opening h
    exact .of_asks hwork.isStepAbout (premisesReading_local ha hi)
  work {i v p g w} h _ hw := by
    obtain ⟨t, work, hi, hwork, rfl⟩ := work_of_opening h
    exact (keeps_work ha hs hi hwork hw).mono fun _ _ hw _ => ⟨hw, trivial⟩

variable [DecidableEq ι]

/-- **No mount outlasts its instance.** Start with no instance and nothing mounted, and let any calls
of volumes that keep to targets of their own go on in any order, whatever fails: at every point each
target carries at most one mount, and what is mounted on the target of a volume is the root that the
tool has said the present instance of the volume has. -/
theorem mounted_instance (c : Config) (requests : ι → Request) (fates : ι → ℕ → Fate)
    (ha : Apart requests) (hs : Steady requests) {order : List ι}
    {s : Scene Host.Step.interface Premises (Except VolumeError Unit) ι}
    (h : Scene.run? (fun i => premisesReading (fates i))
      (Scene.start .empty fun i => Host.onHost (call c (requests i))) order = some s) :
    (∀ t, (s.world.targets t).length ≤ 1) ∧
      ∀ i v t, place? (requests i) = some (v, t) → ∀ m ∈ s.world.targets t,
        ∃ x, s.world.instances v = some x ∧ x.HasRoot c m.source := by
  have hstart : Shows (fun i => premisesReading (fates i))
      (Scene.start .empty fun i => Host.onHost (call c (requests i)))
      (Course.start .empty fun i => opening Host.onHost c (requests i)) :=
    shows_start fun i => follows_onHost_call (readsHostLocks_premises (fates i))
      fun hi hwork => .of_asks hwork.isStepAbout (premisesReading_local ha hi)
  obtain ⟨course, hreaches, hshows⟩ := hstart.reaches h
  have hholds := (mountDiscipline c requests fates ha hs).holds
    (fun i => opening_phases Host.onHost c (requests i)) inOrder_empty hreaches
  have hall : ∀ v, InOrder c requests v s.world := by
    intro v
    rw [hshows.world]
    exact hholds.always v
  refine ⟨?_, ?_⟩
  · intro t
    -- a target of no call is in order for any volume
    by_cases ht : ∃ i v, place? (requests i) = some (v, t)
    · obtain ⟨i, v, hi⟩ := ht
      exact ((hall v).standing ha hi).1
    · exact (hall "" t fun i u hi => (ht ⟨i, u, hi⟩).elim).1.1
  · intro i v t hi
    exact ((hall v).standing ha hi).2

/-- A call that is about to free its mutex has mounted what the tool has printed. -/
theorem mounted_instance_published :
    ∃ s : Scene Host.Step.interface Premises (Except VolumeError Unit) Unit,
      Scene.run? (fun _ => premisesReading fun _ => { output := [47, 114] })
        (Scene.start .empty fun _ => Host.onHost (call {} (.publish
          { volumeId := "v", targetPath := "/t", capability := some {}
            volumeContext := Attributes.ofList [("image", "i")] })))
        (List.replicate 6 ()) = some s ∧
      s.world.targets "/t" = [⟨"/r", .empty⟩] ∧
      ∃ x, s.world.instances "v" = some x ∧ x.HasRoot {} "/r" := by
  set requests : Unit → Request := fun _ => .publish
    { volumeId := "v", targetPath := "/t", capability := some {}
      volumeContext := Attributes.ofList [("image", "i")] }
  set fates : Unit → ℕ → Fate := fun _ _ => { output := [47, 114] }
  have hsome : (Scene.run? (fun i => premisesReading (fates i))
      (Scene.start .empty fun i => Host.onHost (call {} (requests i)))
      (List.replicate 6 ())).isSome = true := by decide +kernel
  obtain ⟨s, hs⟩ := Option.isSome_iff_exists.1 hsome
  have hmounts : (Scene.run? (fun i => premisesReading (fates i))
      (Scene.start .empty fun i => Host.onHost (call {} (requests i)))
      (List.replicate 6 ())).map (fun s => s.world.targets "/t") = some [⟨"/r", .empty⟩] := by
    decide +kernel
  rw [hs] at hmounts
  have htargets : s.world.targets "/t" = [⟨"/r", .empty⟩] := Option.some.inj hmounts
  have ha : Apart requests := by
    intro i j u v t hi hj
    rw [hi] at hj
    cases hj
    rfl
  have hsteady : Steady requests := by
    intro i j v t t' hi hj
    rw [hi] at hj
    cases hj
    rfl
  obtain ⟨-, hall⟩ := mounted_instance {} requests fates ha hsteady hs
  have hmem : (⟨"/r", .empty⟩ : Mounted) ∈ s.world.targets "/t" := by
    rw [htargets]
    exact List.mem_singleton_self _
  exact ⟨s, hs, htargets, hall () "v" "/t" rfl ⟨"/r", .empty⟩ hmem⟩

end VolumeNode.Node
