import VolumeNode.Proofs.Concurrent.Serial

/-!
# A volume is provisioned once

Any number of calls publish one volume at one target at the same time, where nothing fails that need
not. Concurrent calls are serial, so it is enough to see that the first of calls made one at a time
provisions and mounts (`makes_publishBody`), and that a call that finds the target mounted does
nothing (`effect_of_exposed`).

* `provisioned_once`: all calls succeed, the instance is created once, and its root is mounted once.
-/

namespace VolumeNode.Node

variable {ι : Type} {prints : ι → ℕ → Command → Output} {i : ι} {k : ℕ} {c : Config}
  {v t : String} {w w₀ : Places ToolRecord TargetRecord}

/-- What a part of a call, run by itself where nothing fails, makes of the world. -/
abbrev Makes {α : Type} (prints : ι → ℕ → Command → Output) (i : ι)
    (Q : α → Places ToolRecord TargetRecord → Prop) (k : ℕ) (p : Program Action.interface α)
    (w : Places ToolRecord TargetRecord) : Prop :=
  Ensures ((faultless prints).reading i) (fun _ => True) Q k p w

/-- The mounts of a target; there are none where there is no target. -/
def TargetRecord.stack (b : TargetRecord) : List String :=
  b.mounts.getD []

theorem makes_inspect :
    Makes prints i (fun r w' => r = (w.targets t).inspect ∧ w' = w) k (Action.inspect t).take w := by
  have hsame : (Places.onTarget t (fun b : TargetRecord => (b.inspect, b)) w).2 = w :=
    Places.onTarget_eq_self (fun _ => rfl) w
  exact ensures_single ((faultless prints).reading i) k (.inspect t) rfl trivial trivial ⟨rfl, hsame⟩

/-- A run of the tool is recorded with the instance that it names. -/
theorem makes_runTool {command : Command} (hc : namedInstance? command = some v) :
    Makes prints i
      (fun r w' => ∃ output, output = prints i k command ∧
        r = ((w.instances v).run command output).1 ∧
        w' = ⟨Function.update w.instances v ((w.instances v).run command output).2, w.targets⟩)
      k (Action.runTool command).take w := by
  have hview : (faultless prints).reading i k (.runTool command) =
      .outside (Places.onInstance v fun x => x.run command (prints i k command)) := by
    simp only [Surroundings.reading, hc]
    rfl
  exact ensures_single ((faultless prints).reading i) k (.runTool command) hview trivial trivial
    ⟨_, rfl, rfl, rfl⟩

theorem makes_isMounted :
    Makes prints i (fun r w' => r = .ok !(w.targets t).stack.isEmpty ∧ w' = w)
      k (Target.isMounted t) w := by
  refine makes_inspect.bind fun k' r w' _ hr => ?_
  obtain ⟨rfl, rfl⟩ := hr
  refine ⟨trivial, ?_, rfl⟩
  unfold TargetRecord.inspect TargetRecord.stack
  cases (w'.targets t).mounts <;> rfl

/-- The runs of the tool by which a volume is provisioned. -/
def provisioning (c : Config) (v image : String) (created shown : Output) :
    List (Command × Except VolumeError Output) :=
  (Image.createCommand c v image, .ok created) ::
    if c.resolveRoot then [(Image.mountCommand c v, .ok shown)] else []

/-- A run that creates an instance where there is none succeeds. -/
theorem run_createCommand {image : String} {output : Output} :
    ToolRecord.run ⟨false, []⟩ (Image.createCommand c v image) output =
      (.ok output, ⟨true, [(Image.createCommand c v image, .ok output)]⟩) := rfl

/-- A run that shows the root of an instance that is there succeeds. -/
theorem run_mountCommand {runs : List (Command × Except VolumeError Output)} {output : Output} :
    ToolRecord.run ⟨true, runs⟩ (Image.mountCommand c v) output =
      (.ok output, ⟨true, runs ++ [(Image.mountCommand c v, .ok output)]⟩) := rfl

/-- Output with a root in it has it found. -/
theorem exists_rootOf {output : Output} (h : Image.root? output ≠ none) :
    ∃ root, Image.root? output = some root ∧ Image.rootOf v output = .ok root := by
  obtain ⟨root, hroot⟩ := Option.ne_none_iff_exists'.1 h
  refine ⟨root, hroot, ?_⟩
  unfold Image.rootOf
  rw [hroot]

/-- **A volume without an instance is provisioned by one run that creates it**, and one that shows its
root where roots are resolved. -/
theorem makes_provision {image : String} (hv : w.instances v = ⟨false, []⟩)
    (hprints : ∀ i k command, Image.root? (prints i k command) ≠ none) :
    Makes prints i
      (fun r w' => ∃ created shown root, r = .ok root ∧
        (c.resolveRoot = false → shown = created) ∧ Image.root? shown = some root ∧
        w' = ⟨Function.update w.instances v ⟨true, provisioning c v image created shown⟩, w.targets⟩)
      k (Image.provision c v image) w := by
  unfold Image.provision
  refine (makes_runTool (namedInstance?_createCommand ..)).andThen ?_ ?_
  · rintro k' created w' - ⟨output, rfl, hcreated, rfl⟩
    rw [hv, run_createCommand] at hcreated ⊢
    cases hcreated
    split
    · rename_i hc
      refine (makes_runTool (namedInstance?_mountCommand ..)).andThen ?_ ?_
      · rintro k'' shown w' - ⟨output, rfl, hshown, rfl⟩
        dsimp only at hshown ⊢
        rw [Function.update_self, run_mountCommand] at hshown ⊢
        cases hshown
        obtain ⟨root, hroot, hrootOf⟩ :=
          exists_rootOf (v := v) (hprints i k' (Image.mountCommand c v))
        refine ⟨trivial, prints i k (Image.createCommand c v image),
          prints i k' (Image.mountCommand c v), root, hrootOf, fun h => ?_, hroot, ?_⟩
        · rw [hc] at h
          cases h
        · unfold provisioning
          rw [if_pos hc, Function.update_idem]
          rfl
      · rintro e w' ⟨output, rfl, hshown, -⟩
        dsimp only at hshown
        rw [Function.update_self, run_mountCommand] at hshown
        cases hshown
    · rename_i hc
      obtain ⟨root, hroot, hrootOf⟩ :=
        exists_rootOf (v := v) (hprints i k (Image.createCommand c v image))
      refine ⟨trivial, prints i k (Image.createCommand c v image),
        prints i k (Image.createCommand c v image), root, hrootOf, fun _ => rfl, hroot, ?_⟩
      unfold provisioning
      rw [if_neg hc]
  · rintro e w' ⟨output, rfl, hcreated, -⟩
    rw [hv, run_createCommand] at hcreated
    cases hcreated

theorem makes_bindRoot {root : String} {readOnly : Bool} {extra : List String}
    (ht : (w.targets t).mounts = some []) (hmade : (w.targets t).made = []) :
    Makes prints i
      (fun r w' => r = .ok () ∧ w' = ⟨w.instances, Function.update w.targets t
        ⟨some [root], [(root, MountOptions.forBind readOnly extra)]⟩⟩)
      k (Target.bindRoot t root readOnly extra) w := by
  have hmount : (w.targets t).mount root (MountOptions.forBind readOnly extra) =
      (.ok (), ⟨some [root], [(root, MountOptions.forBind readOnly extra)]⟩) := by
    unfold TargetRecord.mount
    rw [ht, hmade]
    rfl
  refine ensures_single ((faultless prints).reading i) k (.mount root t none _) rfl trivial trivial
    ?_
  exact Prod.ext_iff.1 (Places.onTarget_of_eq hmount)

/-- **A target that is not mounted is created if it is not there, and mounted.** -/
theorem makes_publish {mode : ℕ} {root : String} {readOnly : Bool} {extra : List String}
    (ht : (w.targets t).stack = []) (hmade : (w.targets t).made = []) :
    Makes prints i
      (fun r w' => r = .ok () ∧ w' = ⟨w.instances, Function.update w.targets t
        ⟨some [root], [(root, MountOptions.forBind readOnly extra)]⟩⟩)
      k (Target.publish mode t root readOnly extra) w := by
  unfold Target.publish
  refine makes_inspect.bind fun k' r w' _ hr => ?_
  obtain ⟨rfl, rfl⟩ := hr
  unfold TargetRecord.stack at ht
  unfold TargetRecord.inspect
  cases hmounts : (w'.targets t).mounts with
  | none =>
    have hcreate : (w'.targets t).create = (.ok (), ⟨some [], []⟩) := by
      unfold TargetRecord.create
      rw [hmounts, hmade]
      rfl
    -- the target is there after its creation, and nothing is mounted on it
    have hmade' : Makes prints i
        (fun r w'' => r = .ok () ∧
          w'' = ⟨w'.instances, Function.update w'.targets t ⟨some [], []⟩⟩)
        k' (Target.create t mode) w' := by
      refine Ensures.bind (Q := fun r w'' => r = .ok () ∧
        w'' = ⟨w'.instances, Function.update w'.targets t ⟨some [], []⟩⟩) ?_ ?_
      · exact ensures_single ((faultless prints).reading i) k' (.create t mode) rfl trivial trivial
          (Prod.ext_iff.1 (Places.onTarget_of_eq hcreate))
      · rintro k'' r w'' - ⟨rfl, rfl⟩
        exact ⟨trivial, rfl, rfl⟩
    refine hmade'.andThen ?_ ?_
    · rintro k'' _ w'' - ⟨-, rfl⟩
      refine (makes_bindRoot (by dsimp only; rw [Function.update_self])
        (by dsimp only; rw [Function.update_self])).mono ?_
      rintro r w'' - ⟨rfl, rfl⟩
      refine ⟨rfl, ?_⟩
      dsimp only
      rw [Function.update_idem]
    · rintro e w'' ⟨he, -⟩
      cases he
  | some mounts =>
    rw [hmounts] at ht
    cases ht
    exact makes_bindRoot hmounts hmade

/-- **A volume has been exposed**: its instance has been created once, with the runs of the tool that
provisioning takes, and the root that the tool has printed has been mounted once on the target. Nothing
else has happened. -/
def Exposed (c : Config) (p : Publication) (w₀ w : Places ToolRecord TargetRecord) : Prop :=
  ∃ created shown root,
    (c.resolveRoot = false → shown = created) ∧ Image.root? shown = some root ∧
    w = ⟨Function.update w₀.instances p.volume
        ⟨true, provisioning c p.volume p.image created shown⟩,
      Function.update w₀.targets p.target
        ⟨some [root], [(root, MountOptions.forBind p.readOnly p.access.mountFlags)]⟩⟩

/-- **The first call provisions and mounts.** -/
theorem makes_publishBody {p : Publication} (hv : w.instances p.volume = ⟨false, []⟩)
    (ht : (w.targets p.target).stack = []) (hmade : (w.targets p.target).made = [])
    (hprints : ∀ i k command, Image.root? (prints i k command) ≠ none) :
    Makes prints i (fun r w' => r = .ok () ∧ Exposed c p w w') k (publishBody c p) w := by
  unfold publishBody
  refine makes_isMounted.andThen ?_ ?_
  · rintro k' mounted w' - ⟨hr, rfl⟩
    rw [ht] at hr
    cases hr
    rw [if_neg (by simp)]
    refine (makes_provision hv hprints).andThen ?_ ?_
    · rintro k'' root w'' - ⟨created, shown, root', hroot, hshown, hroot', rfl⟩
      cases hroot
      set w₁ : Places ToolRecord TargetRecord := ⟨Function.update w'.instances p.volume
        ⟨true, provisioning c p.volume p.image created shown⟩, w'.targets⟩
      refine (makes_publish (w := w₁) ht hmade).mono ?_
      rintro r w'' - ⟨rfl, rfl⟩
      exact ⟨rfl, created, shown, root, hshown, hroot', rfl⟩
    · rintro e w'' ⟨created, shown, root, he, -⟩
      cases he
  · rintro e w' ⟨he, -⟩
    cases he

/-- **A call that finds the target mounted does nothing.** -/
theorem makes_publishBody_of_mounted {p : Publication} (ht : (w.targets p.target).stack ≠ []) :
    Makes prints i (fun r w' => r = .ok () ∧ w' = w) k (publishBody c p) w := by
  unfold publishBody
  refine makes_isMounted.andThen ?_ ?_
  · rintro k' mounted w' - ⟨hr, rfl⟩
    have hmounted : mounted = true := by
      cases hr
      simpa using ht
    rw [hmounted]
    exact ⟨trivial, rfl, rfl⟩
  · rintro e w' ⟨he, -⟩
    cases he

variable {requests : ι → PublishRequest}

theorem effect_publish {p : Publication} (h : checkPublish (requests i) = .ok p) :
    (faultless prints).effect c (fun i => .publish (requests i)) i w =
      alone ((faultless prints).reading i) 2 (publishBody c p) w := by
  have hplan : plan c (.publish (requests i)) = .inl (p.volume, publishBody c p) := by
    simp only [plan, h]
  unfold Surroundings.effect
  rw [hplan]

theorem publication_of_place (h : place? (.publish (requests i)) = some (v, t)) :
    ∃ p, checkPublish (requests i) = .ok p ∧ p.volume = v ∧ p.target = t := by
  unfold place? at h
  cases hp : checkPublish (requests i) with
  | ok p =>
    simp only [hp] at h
    cases h
    exact ⟨p, rfl, rfl, rfl⟩
  | error item =>
    simp only [hp] at h
    cases h

theorem Exposed.mounted {p : Publication} (h : Exposed c p w₀ w) :
    (w.targets p.target).stack ≠ [] := by
  obtain ⟨created, shown, root, -, -, rfl⟩ := h
  unfold TargetRecord.stack
  dsimp only
  rw [Function.update_self]
  exact List.cons_ne_nil root []

section

variable (hplace : ∀ i, place? (.publish (requests i)) = some (v, t))
  (hprints : ∀ i k command, Image.root? (prints i k command) ≠ none)
  (hinstance : w₀.instances v = ⟨false, []⟩)
  (htarget : w₀.targets t = ⟨none, []⟩ ∨ w₀.targets t = ⟨some [], []⟩)

include hplace hprints hinstance htarget

/-- A call made by itself exposes the volume. -/
theorem effect_of_bare (i : ι) : ∃ p, checkPublish (requests i) = .ok p ∧
    ((faultless prints).effect c (fun i => .publish (requests i)) i w₀).1 = .ok () ∧
    Exposed c p w₀ ((faultless prints).effect c (fun i => .publish (requests i)) i w₀).2 := by
  obtain ⟨p, hp, rfl, rfl⟩ := publication_of_place (hplace i)
  refine ⟨p, hp, ?_⟩
  rw [effect_publish hp]
  refine (makes_publishBody hinstance ?_ ?_ hprints).alone <;>
    rcases htarget with ht | ht <;> rw [ht] <;> rfl

omit hprints hinstance htarget in
/-- A call made when the volume is exposed succeeds and does nothing. -/
theorem effect_of_exposed {j : ι} {p : Publication} (hj : checkPublish (requests j) = .ok p)
    (h : Exposed c p w₀ w) (i : ι) :
    (faultless prints).effect c (fun i => .publish (requests i)) i w = (.ok (), w) := by
  obtain ⟨q, hq, -, hqt⟩ := publication_of_place (hplace i)
  obtain ⟨p', hp', -, hpt⟩ := publication_of_place (hplace j)
  rw [hj] at hp'
  cases hp'
  have hmounted : (w.targets q.target).stack ≠ [] := by
    rw [hqt, ← hpt]
    exact h.mounted
  rw [effect_publish hq]
  exact Prod.ext_iff.2 (makes_publishBody_of_mounted hmounted).alone

/-- **Calls made one at a time expose the volume once.** -/
theorem after_exposed {l : List ι} (hl : l ≠ []) : ∃ i p, checkPublish (requests i) = .ok p ∧
    Exposed c p w₀ ((faultless prints).after c (fun i => .publish (requests i)) w₀ l) := by
  induction l using List.reverseRecOn with
  | nil => exact absurd rfl hl
  | append_singleton l i ih =>
    rw [Surroundings.after_append_singleton]
    by_cases hnil : l = []
    · -- the first call exposes the volume; each one after it finds the target mounted
      subst hnil
      obtain ⟨p, hp, -, h⟩ := effect_of_bare hplace hprints hinstance htarget i
      exact ⟨i, p, hp, h⟩
    · obtain ⟨j, p, hp, h⟩ := ih hnil
      rw [effect_of_exposed hplace hp h i]
      exact ⟨j, p, hp, h⟩

/-- Whatever calls have been made, the next one succeeds. -/
theorem effect_ok (l : List ι) (i : ι) :
    ((faultless prints).effect c (fun i => .publish (requests i)) i
      ((faultless prints).after c (fun i => .publish (requests i)) w₀ l)).1 = .ok () := by
  by_cases hnil : l = []
  · subst hnil
    obtain ⟨p, -, hok, -⟩ := effect_of_bare (c := c) hplace hprints hinstance htarget i
    exact hok
  · obtain ⟨j, p, hp, h⟩ := after_exposed (c := c) hplace hprints hinstance htarget hnil
    rw [effect_of_exposed hplace hp h i]

end

/-- **A volume is provisioned once.** Let any number of calls publish one volume at one target, whatever
their images, flags and modes, where the volume has no instance, the target is not mounted, and nothing
fails that need not. In whatever order they go on, the run ends; when no call can go on all have
succeeded, and the volume has been exposed once, for one of them. -/
theorem provisioned_once [DecidableEq ι] [Fintype ι] [Nonempty ι] (c : Config)
    (requests : ι → PublishRequest) (prints : ι → ℕ → Command → Output)
    (w₀ : Places ToolRecord TargetRecord) {v t : String}
    (hplace : ∀ i, place? (.publish (requests i)) = some (v, t))
    (hprints : ∀ i k command, Image.root? (prints i k command) ≠ none)
    (hinstance : w₀.instances v = ⟨false, []⟩)
    (htarget : w₀.targets t = ⟨none, []⟩ ∨ w₀.targets t = ⟨some [], []⟩) {order : List ι}
    {s : Scene Action.interface (Places ToolRecord TargetRecord) (Except VolumeError Unit) ι}
    (h : Scene.run? (faultless prints).reading
      (Scene.start w₀ fun i => call c (.publish (requests i))) order = some s) :
    order.length ≤ 10 * Fintype.card ι ∧
      (Scene.Still (faultless prints).reading s →
        (∀ i, s.result? i = some (.ok ())) ∧
          ∃ i p, checkPublish (requests i) = .ok p ∧ Exposed c p w₀ s.world) := by
  refine ⟨Scene.length_le_of_endsWithin (fun i => call_endsWithin c (.publish (requests i))) h, ?_⟩
  intro hstill
  have ha : Apart fun i => Request.publish (requests i) := by
    intro i j u u' t' hi hj
    rw [hplace] at hi hj
    cases hi
    cases hj
    rfl
  obtain ⟨serial, -, hmem, -, hworld, hresults⟩ := exists_serial ha h hstill
  refine ⟨?_, ?_⟩
  · intro i
    obtain ⟨a, b, -, hi⟩ := hresults i
    rw [hi, effect_ok hplace hprints hinstance htarget a i]
  · have hne : serial ≠ [] := List.ne_nil_of_mem (hmem (Classical.arbitrary ι))
    rw [hworld]
    exact after_exposed hplace hprints hinstance htarget hne

/-- Two calls with different images begin, one after the other. The first is granted the mutex first. -/
theorem provisioned_once_two :
    let prints : Bool → ℕ → Command → Output := fun _ _ _ => [47, 114]
    let requests : Bool → PublishRequest := fun i =>
      { volumeId := "v", targetPath := "/t", capability := some {}, readonly := i
        volumeContext := Attributes.ofList [("image", if i then "a" else "b")] }
    let w₀ : Places ToolRecord TargetRecord := ⟨fun _ => ⟨false, []⟩, fun _ => ⟨none, []⟩⟩
    ∃ s, Scene.run? (faultless prints).reading
        (Scene.start w₀ fun i => call {} (.publish (requests i)))
        ([true, false] ++ List.replicate 7 true ++ [false, true] ++ List.replicate 3 false) = some s ∧
      Scene.Still (faultless prints).reading s ∧ (∀ i, s.result? i = some (.ok ())) ∧
      ∃ i p, checkPublish (requests i) = .ok p ∧ Exposed {} p w₀ s.world := by
  intro prints requests w₀
  have hrun : (Scene.run? (faultless prints).reading
      (Scene.start w₀ fun i => call {} (.publish (requests i)))
      ([true, false] ++ List.replicate 7 true ++ [false, true] ++ List.replicate 3 false)).map
        (fun s => ((Scene.turn? (faultless prints).reading s true).isNone,
          (Scene.turn? (faultless prints).reading s false).isNone)) = some (true, true) := by
    decide +kernel
  obtain ⟨s, hs, hend⟩ := Option.map_eq_some_iff.1 hrun
  have hstill : Scene.Still (faultless prints).reading s := by
    intro i
    cases i with
    | true => exact Option.isNone_iff_eq_none.1 (congrArg Prod.fst hend)
    | false => exact Option.isNone_iff_eq_none.1 (congrArg Prod.snd hend)
  have hplace : ∀ i, place? (.publish (requests i)) = some ("v", "/t") := by
    intro i
    cases i <;> rfl
  have hprints : ∀ i k command, Image.root? (prints i k command) ≠ none := by
    intro i k command
    change Image.root? [47, 114] ≠ none
    decide +kernel
  obtain ⟨-, hall⟩ := provisioned_once {} requests prints w₀ hplace hprints rfl (Or.inl rfl) hs
  exact ⟨s, hs, hstill, hall hstill⟩

end VolumeNode.Node
