import Mathlib.Logic.Function.Basic
import VolumeNode.Proofs.Concurrent.Calls

/-!
# Instances and targets

The world of volume calls has a state for each name of an instance and a state for each target. When
no two volumes share a target, what is done to one of either is local to one volume.

* `local_onInstance`, `local_onTarget`: what a step does is local to the volume of its call.
* `SameBut.eq_update`: a world that is the same but for an instance and a target is known by these.
-/

namespace VolumeNode.Node

variable {A B α ι : Type} {requests : ι → Request} {i : ι} {u v t : String}

/-- Whether no two volumes share a target. -/
def Apart (requests : ι → Request) : Prop :=
  ∀ i j u v t, place? (requests i) = some (u, t) → place? (requests j) = some (v, t) → u = v

/-- Whether each volume keeps to one target. -/
def Steady (requests : ι → Request) : Prop :=
  ∀ i j v t t', place? (requests i) = some (v, t) → place? (requests j) = some (v, t') → t = t'

/-- Volumes that share no target, place by place. -/
theorem apart_iff :
    Apart requests ↔ ∀ i j, ∀ x ∈ place? (requests i), ∀ y ∈ place? (requests j),
      x.2 = y.2 → x.1 = y.1 := by
  refine ⟨fun h i j x hx y hy hxy => ?_, fun h i j u v t hi hj => h i j (u, t) hi (v, t) hj rfl⟩
  exact h i j x.1 y.1 x.2 hx (hxy ▸ hy)

/-- Volumes that keep to one target, place by place. -/
theorem steady_iff :
    Steady requests ↔ ∀ i j, ∀ x ∈ place? (requests i), ∀ y ∈ place? (requests j),
      x.1 = y.1 → x.2 = y.2 := by
  refine ⟨fun h i j x hx y hy hxy => ?_, fun h i j v t t' hi hj => h i j (v, t) hi (v, t') hj rfl⟩
  exact h i j x.1 x.2 y.2 hx (hxy ▸ hy)

/-- The state of each instance and of each target. -/
structure Places (A B : Type) where
  instances : String → A
  targets : String → B

namespace Places

/-- What is done to the instance of a volume. -/
def onInstance (v : String) (f : A → α × A) (w : Places A B) : α × Places A B :=
  ((f (w.instances v)).1,
    ⟨Function.update w.instances v (f (w.instances v)).2, w.targets⟩)

/-- What is done to a target. -/
def onTarget (t : String) (f : B → α × B) (w : Places A B) : α × Places A B :=
  ((f (w.targets t)).1,
    ⟨w.instances, Function.update w.targets t (f (w.targets t)).2⟩)

@[simp] theorem onInstance_self (v : String) (f : A → α × A) (w : Places A B) :
    (onInstance v f w).2.instances v = (f (w.instances v)).2 :=
  Function.update_self ..

@[simp] theorem onInstance_of_ne (f : A → α × A) (w : Places A B) (h : u ≠ v) :
    (onInstance v f w).2.instances u = w.instances u :=
  Function.update_of_ne h ..

@[simp] theorem onTarget_self (t : String) (f : B → α × B) (w : Places A B) :
    (onTarget t f w).2.targets t = (f (w.targets t)).2 :=
  Function.update_self ..

@[simp] theorem onTarget_of_ne {t' : String} (f : B → α × B) (w : Places A B) (h : t' ≠ t) :
    (onTarget t f w).2.targets t' = w.targets t' :=
  Function.update_of_ne h ..

/-- The answer and the instance that are left are those of the step. -/
theorem onInstance_run (v : String) (f : A → α × A) (w : Places A B) :
    ((onInstance v f w).1, (onInstance v f w).2.instances v) = f (w.instances v) :=
  Prod.ext rfl (onInstance_self v f w)

/-- The answer and the target that are left are those of the step. -/
theorem onTarget_run (t : String) (f : B → α × B) (w : Places A B) :
    ((onTarget t f w).1, (onTarget t f w).2.targets t) = f (w.targets t) :=
  Prod.ext rfl (onTarget_self t f w)

/-- Whether a volume finds the same in two worlds: its instance, and each target that no other volume
has. -/
def SameFor (requests : ι → Request) (v : String) (w w' : Places A B) : Prop :=
  w.instances v = w'.instances v ∧
    ∀ t, (∀ i u, place? (requests i) = some (u, t) → u = v) → w.targets t = w'.targets t

theorem sameFor_refl (w : Places A B) : SameFor requests v w w :=
  ⟨rfl, fun _ _ => rfl⟩

theorem SameFor.symm {w w' : Places A B} (h : SameFor requests v w w') : SameFor requests v w' w :=
  ⟨h.1.symm, fun t ht => (h.2 t ht).symm⟩

theorem SameFor.trans {w w' w'' : Places A B} (h : SameFor requests v w w')
    (h' : SameFor requests v w' w'') : SameFor requests v w w'' :=
  ⟨h.1.trans h'.1, fun t ht => (h.2 t ht).trans (h'.2 t ht)⟩

/-- A volume finds the same at the target of its call. -/
theorem SameFor.target (h : Apart requests) (hi : place? (requests i) = some (v, t))
    {w w' : Places A B} (hw : SameFor requests v w w') : w.targets t = w'.targets t :=
  hw.2 t fun j u hj => h j i u v t hj hi

/-- Worlds that are the same for each volume are the same. -/
theorem eq_of_sameFor (h : Apart requests) {w w' : Places A B}
    (hw : ∀ v, SameFor requests v w w') : w = w' := by
  have hinstances : w.instances = w'.instances := funext fun v => (hw v).1
  have htargets : w.targets = w'.targets := by
    funext t
    -- a target that no volume has is one that no other volume has
    by_cases ht : ∃ i v, place? (requests i) = some (v, t)
    · obtain ⟨i, v, hi⟩ := ht
      exact (hw v).target h hi
    · exact (hw "").2 t fun i u hi => (ht ⟨i, u, hi⟩).elim
  cases w
  cases w'
  cases hinstances
  cases htargets
  rfl

/-- Whether two worlds are the same but for an instance and a target. -/
structure SameBut (v t : String) (w w' : Places A B) : Prop where
  instances : ∀ u, u ≠ v → w'.instances u = w.instances u
  targets : ∀ t', t' ≠ t → w'.targets t' = w.targets t'

theorem sameBut_refl (w : Places A B) : SameBut v t w w :=
  ⟨fun _ _ => rfl, fun _ _ => rfl⟩

theorem SameBut.trans {w w' w'' : Places A B} (h : SameBut v t w w') (h' : SameBut v t w' w'') :
    SameBut v t w w'' :=
  ⟨fun u hu => (h'.instances u hu).trans (h.instances u hu),
    fun t' ht' => (h'.targets t' ht').trans (h.targets t' ht')⟩

theorem sameBut_onInstance (f : A → α × A) (w : Places A B) :
    SameBut v t w (onInstance v f w).2 :=
  ⟨fun _ hu => onInstance_of_ne f w hu, fun _ _ => rfl⟩

theorem sameBut_onTarget (f : B → α × B) (w : Places A B) : SameBut v t w (onTarget t f w).2 :=
  ⟨fun _ _ => rfl, fun _ ht' => onTarget_of_ne f w ht'⟩

/-- What becomes of an instance and a target is all that becomes of the world. -/
theorem SameBut.eq_update {w w' : Places A B} {a : A} {b : B} (h : SameBut v t w w')
    (ha : w'.instances v = a) (hb : w'.targets t = b) :
    w' = ⟨Function.update w.instances v a, Function.update w.targets t b⟩ := by
  have hinstances : w'.instances = Function.update w.instances v a := by
    funext u
    by_cases hu : u = v
    · rw [hu, ha, Function.update_self]
    · rw [Function.update_of_ne hu, h.instances u hu]
  have htargets : w'.targets = Function.update w.targets t b := by
    funext t'
    by_cases ht' : t' = t
    · rw [ht', hb, Function.update_self]
    · rw [Function.update_of_ne ht', h.targets t' ht']
  rw [← hinstances, ← htargets]

/-- A target that is left as it was leaves the world as it was. -/
theorem onTarget_eq_self {f : B → α × B} (hf : ∀ b, (f b).2 = b) (w : Places A B) :
    (onTarget t f w).2 = w := by
  unfold onTarget
  rw [hf, Function.update_eq_self]

/-- What is done to a target, given what it is found in. -/
theorem onTarget_of_eq {f : B → α × B} {a : α} {b : B} {w : Places A B}
    (h : f (w.targets t) = (a, b)) :
    onTarget t f w = (a, ⟨w.instances, Function.update w.targets t b⟩) := by
  unfold onTarget
  rw [h]

/-- **What is done to the instance of a volume is local to it.** -/
theorem local_onInstance (f : A → α × A) :
    Local (SameFor requests) v (onInstance v f : Places A B → α × Places A B) where
  congr {w w'} h := by
    refine ⟨congrArg (fun a => (f a).1) h.1, ?_, h.2⟩
    rw [onInstance_self, onInstance_self, h.1]
  frame {u} w huv := ⟨(onInstance_of_ne f w huv).symm, fun _ _ => rfl⟩

/-- **What is done to the target of a call is local to its volume.** -/
theorem local_onTarget (h : Apart requests) (hi : place? (requests i) = some (v, t))
    (f : B → α × B) : Local (SameFor requests) v (onTarget t f : Places A B → α × Places A B) where
  congr {w w'} hw := by
    refine ⟨congrArg (fun b => (f b).1) (hw.target h hi), hw.1, fun t' ht' => ?_⟩
    by_cases htt : t' = t
    · subst htt
      rw [onTarget_self, onTarget_self, hw.target h hi]
    · rw [onTarget_of_ne f w htt, onTarget_of_ne f w' htt]
      exact hw.2 t' ht'
  frame {u} w huv := by
    refine ⟨rfl, fun t' ht' => (onTarget_of_ne f w ?_).symm⟩
    rintro rfl
    exact huv (ht' i v hi).symm

end Places

/-- The instance that a run of the tool is about. -/
def namedInstance? (command : Command) : Option String :=
  match command.arguments with
  | ["from", "--name", v, "--pull", _] => some v
  | ["mount", v] => some v
  | ["delete", v] => some v
  | _ => none

@[simp] theorem namedInstance?_createCommand (c : Config) (v image : String) :
    namedInstance? (Image.createCommand c v image) = some v := rfl

@[simp] theorem namedInstance?_mountCommand (c : Config) (v : String) :
    namedInstance? (Image.mountCommand c v) = some v := rfl

@[simp] theorem namedInstance?_deleteCommand (c : Config) (v : String) :
    namedInstance? (Image.deleteCommand c v) = some v := rfl

end VolumeNode.Node
