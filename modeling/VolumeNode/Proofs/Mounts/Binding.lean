import Mathlib.Data.Nat.Bitwise
import VolumeNode.Proofs.Mounts.Conditions

/-!
# What becomes of a bind

The root of an image is mounted in up to two system calls, a bind and a remount for the flags that the
kernel does not heed on the bind; a remount that fails is followed by an unmount. Each of them may fail.

* `holds_readOnly_mountedFlags`: a root that is mounted read-only is so unless the client says `rw`.
* `yields_bindRoot`: the root is mounted with its flags, or not at all, or is left mounted without them
  because the unmount has failed too.
-/

namespace VolumeNode

/-- A single flag is held if its bit is set. -/
theorem MountFlags.holds_shiftLeft (f : MountFlags) (n : ℕ) :
    f.holds ⟨1 <<< n⟩ = f.bits.testBit n := by
  unfold MountFlags.holds
  simp only [Nat.one_shiftLeft, Nat.and_two_pow]
  cases f.bits.testBit n with
  | false => simpa using (Nat.two_pow_pos n).ne
  | true => simp

namespace MountOptions

/-- Only `rw` drops a flag. -/
theorem eq_of_drop {word : String} {f : MountFlags} (h : effect? word = some (.drop f)) :
    word = "rw" ∧ f = .readOnly := by
  unfold effect? at h
  split at h <;> simp_all

/-- A flag stays, but for `rw`. -/
theorem testBit_foldl_step {n : ℕ} {words : List String} {p : Parsed}
    (h : p.flags.bits.testBit n = true) (hn : n ≠ 0 ∨ "rw" ∉ words) :
    (words.foldl step p).flags.bits.testBit n = true := by
  induction words generalizing p with
  | nil => exact h
  | cons word words ih =>
    refine ih ?_ (hn.imp id fun hw => fun hmem => hw (List.mem_cons_of_mem word hmem))
    unfold step
    cases he : effect? word with
    | none => exact h
    | some eff =>
      cases eff with
      | add f => exact (MountFlags.testBit_union ..).trans (by rw [h]; rfl)
      | drop f =>
        obtain ⟨rfl, rfl⟩ := eq_of_drop he
        rcases hn with hn | hn
        · have hbit : MountFlags.readOnly.bits.testBit n = false := by
            change (2 ^ 0).testBit n = false
            rw [Nat.testBit_two_pow]
            simpa using Ne.symm hn
          refine (MountFlags.testBit_diff ..).trans ?_
          rw [h, hbit]
          rfl
        · exact (hn List.mem_cons_self).elim
      | nothing => exact h

end MountOptions

namespace Node

open MountOptions

/-- The flags that the words for mounting a root ask for. -/
def rootFlags (readOnly : Bool) (extra : List String) : MountFlags :=
  (parse (forBind readOnly extra)).flags

/-- Those of them that need a remount. -/
def laterFlags (readOnly : Bool) (extra : List String) : MountFlags :=
  (splitBind (rootFlags readOnly extra)).2

/-- The flags in force on a root that is mounted. -/
def mountedFlags (readOnly : Bool) (extra : List String) : MountFlags :=
  if (laterFlags readOnly extra).isEmpty then .empty
  else (.remount ∪ .bind ∪ laterFlags readOnly extra) \ .remount

/-- The system calls that mount a root, if none of them fails. -/
def rootCalls (t root : String) (readOnly : Bool) (extra : List String) : List SystemCall :=
  .mount (some root) t none (splitBind (rootFlags readOnly extra)).1 none ::
    if (laterFlags readOnly extra).isEmpty then []
    else [.mount none t none (.remount ∪ .bind ∪ laterFlags readOnly extra) none]

/-- A root is mounted by a bind. -/
theorem holds_bind_rootFlags (readOnly : Bool) (extra : List String) :
    (rootFlags readOnly extra).holds .bind = true := by
  have hwords : (((if readOnly then ["ro"] else []) ++ extra).foldl step
      ⟨.bind, []⟩).flags.bits.testBit 12 = true :=
    testBit_foldl_step (by decide) (Or.inl (by decide))
  exact (MountFlags.holds_shiftLeft _ 12).trans hwords

/-- **A root that is mounted read-only is so**, unless the client says `rw`. -/
theorem holds_readOnly_mountedFlags {extra : List String} (h : "rw" ∉ extra) :
    (mountedFlags true extra).holds .readOnly = true := by
  have hroot : (extra.foldl step ⟨.bind ∪ .readOnly, []⟩).flags.bits.testBit 0 = true :=
    testBit_foldl_step (by decide) (Or.inr h)
  change (rootFlags true extra).bits.testBit 0 = true at hroot
  -- a bind does not heed the flag, so that it is put off to the remount
  have hlater : (laterFlags true extra).bits.testBit 0 = true := by
    refine (MountFlags.testBit_diff ..).trans ?_
    rw [hroot, MountFlags.testBit_union, MountFlags.testBit_inter]
    simp [MountFlags.bind, MountFlags.recursive]
  have hsome : (laterFlags true extra).isEmpty = false := by
    unfold MountFlags.isEmpty
    rw [beq_eq_false_iff_ne]
    intro h0
    rw [h0] at hlater
    simp at hlater
  unfold mountedFlags
  rw [if_neg (by simp [hsome])]
  refine (MountFlags.holds_shiftLeft _ 0).trans ?_
  rw [MountFlags.testBit_diff, MountFlags.testBit_union, hlater]
  simp [MountFlags.remount]

/-- The bind itself is no remount. -/
theorem holds_splitBind_fst (f : MountFlags) :
    (splitBind f).1.holds .bind = true ∧ (splitBind f).1.holds .remount = false := by
  have hbind : MountFlags.bind.bits.testBit 12 = true ∧ MountFlags.bind.bits.testBit 5 = false := by
    decide
  have hrecursive : MountFlags.recursive.bits.testBit 5 = false := by decide
  constructor
  · refine (MountFlags.holds_shiftLeft _ 12).trans ((MountFlags.testBit_union ..).trans ?_)
    rw [hbind.1]
    rfl
  · refine (MountFlags.holds_shiftLeft _ 5).trans ((MountFlags.testBit_union ..).trans ?_)
    rw [hbind.2, MountFlags.testBit_inter, hrecursive, Bool.and_false]
    rfl

namespace Fate

variable {f : Fate} {mounts mounts' : List Mounted} {source fsType data : Option String} {t : String}
  {flags : MountFlags}

/-- A system call that fails changes nothing. -/
theorem system_of_error {call : SystemCall} {x : Errno}
    (h : (.error x, mounts') = f.system call mounts) : mounts' = mounts := by
  unfold system at h
  split at h
  · cases h
    rfl
  · split at h
    · split at h <;> cases h
      rfl
    · cases h
  · cases h
    rfl
  · cases h

theorem refusal_of_ok {call : SystemCall} (h : (.ok (), mounts') = f.system call mounts) :
    f.refusal = none := by
  cases hr : f.refusal with
  | none => rfl
  | some x => simp [system, hr] at h

theorem system_bind (hf : f.refusal = none) (hbind : flags.holds .bind = true)
    (hremount : flags.holds .remount = false) :
    f.system (.mount source t fsType flags data) mounts =
      (.ok (), ⟨source.getD "", .empty⟩ :: mounts) := by
  simp [system, hf, hbind, hremount]

theorem system_remount {m : Mounted} (hf : f.refusal = none) (hremount : flags.holds .remount = true) :
    f.system (.mount source t fsType flags data) (m :: mounts) =
      (.ok (), { m with flags := flags \ .remount } :: mounts) := by
  simp [system, hf, hremount]

theorem system_unmount {m : Mounted} (hf : f.refusal = none) :
    f.system (.unmount t) (m :: mounts) = (.ok (), mounts) := by
  simp [system, hf]

end Fate

variable {A : Type} {e : Conditions A} {k : ℕ} {w : Site A} {t root : String} {readOnly : Bool}
  {extra : List String} {calls : List (SystemCall × Except Errno Unit)}

/-- Whether the host does what it is asked to. A target that is not there may be said not to be. -/
structure Conditions.HostWorks (e : Conditions A) (t : String) : Prop where
  seen : ∀ {k x}, (e.fates k).unseen = some x → x.isNotFound = true
  created : ∀ k, (e.fates k).uncreated = none
  performed : ∀ k, (e.fates k).refusal = none
  named : SystemCall.hasNul t = false

/-- Whether something keeps the host from mounting a root. -/
def Hindered (e : Conditions A) (t root : String) : Prop :=
  SystemCall.hasNul root = true ∨ ¬ e.HostWorks t

/-- Whether a remount and the unmount after it have failed. -/
def UndoFailed (t : String) (calls : List (SystemCall × Except Errno Unit)) : Prop :=
  (∃ flags x, (.mount none t none flags none, .error x) ∈ calls) ∧
    ∃ x, (.unmount t, .error x) ∈ calls

/-- **What becomes of a root that is to be mounted on a target**, of which nothing is mounted: the
result, the mounts, and the system calls. -/
inductive Bound (e : Conditions A) (t root : String) (readOnly : Bool) (extra : List String) :
    Except VolumeError Unit → List Mounted → List (SystemCall × Except Errno Unit) → Prop where
  | mounted : Bound e t root readOnly extra (.ok ()) [⟨root, mountedFlags readOnly extra⟩]
      ((rootCalls t root readOnly extra).map (·, .ok ()))
  | failed {x calls} (h : Hindered e t root) : Bound e t root readOnly extra (.error x) [] calls
  | stuck {x calls} (h : Hindered e t root) (hundo : UndoFailed t calls) :
      Bound e t root readOnly extra (.error (.mount x)) [⟨root, .empty⟩] calls

theorem hindered_of_refusal {x : Errno} (h : (e.fates k).refusal = some x) : Hindered e t root := by
  refine Or.inr fun hworks => ?_
  rw [hworks.performed] at h
  cases h

/-- A failed remount is followed by an unmount; what it answers makes no difference to the result. -/
theorem yields_undo {m : Mounted} {x : Errno} (ht : w.targets t = [m])
    (hnul : SystemCall.hasNul t = false) :
    Yields e.reading (fun (y : Except Errno Unit) w' l => y = .error x ∧ w'.instances = w.instances ∧
      toolRuns l = [] ∧
      (w'.targets t = [] ∨ w'.targets t = [m] ∧ ∃ z, (.unmount t, .error z) ∈ kernelCalls l))
      k (Host.systemCalls ((SystemCall.perform (.unmount t)).bind fun _ => .done (.error x))) w := by
  rw [systemCalls_bind]
  refine Yields.map ((yields_perform (.unmount t)).mono ?_)
  rintro y w' l ⟨hinstances, hruns, ⟨hnul', -⟩ | ⟨-, hcalls, hsystem⟩⟩
  · simp [SystemCall.names, hnul] at hnul'
  · refine ⟨rfl, hinstances, hruns, ?_⟩
    change (y, w'.targets t) = (e.fates k).system (.unmount t) (w.targets t) at hsystem
    cases y with
    | ok _ =>
      rw [ht, Fate.system_unmount (Fate.refusal_of_ok hsystem)] at hsystem
      exact Or.inl (Prod.ext_iff.1 hsystem).2
    | error z =>
      refine Or.inr ⟨(Fate.system_of_error hsystem).trans ht, z, ?_⟩
      rw [hcalls]
      exact List.mem_singleton_self _

/-- What comes of a root that is to be mounted. -/
abbrev RootBound (e : Conditions A) (t root : String) (readOnly : Bool) (extra : List String)
    (w : Site A) (x : Except VolumeError Unit) (w' : Site A)
    (l : List (Asked Host.Step.interface)) : Prop :=
  w'.instances = w.instances ∧ toolRuns l = [] ∧
    Bound e t root readOnly extra x (w'.targets t) (kernelCalls l)

/-- The system call that binds a root. -/
abbrev bindCall (t root : String) (readOnly : Bool) (extra : List String) : SystemCall :=
  .mount (some root) t none (splitBind (rootFlags readOnly extra)).1 none

/-- A root is bound on a target, or something has kept the kernel from it. -/
theorem yields_bind (ht : w.targets t = []) :
    Yields e.reading (fun (x : Except Errno Unit) w' l => w'.instances = w.instances ∧
      toolRuns l = [] ∧
      (x = .ok () ∧ SystemCall.hasNul t = false ∧ w'.targets t = [⟨root, .empty⟩] ∧
          kernelCalls l = [(bindCall t root readOnly extra, .ok ())] ∨
        (∃ y, x = .error y) ∧ Hindered e t root ∧ w'.targets t = []))
      k (Host.systemCalls (SystemCall.perform (bindCall t root readOnly extra))) w := by
  obtain ⟨hbind, hremount⟩ := holds_splitBind_fst (rootFlags readOnly extra)
  refine (yields_perform (bindCall t root readOnly extra)).mono ?_
  rintro x w' l ⟨hinstances, hruns, ⟨hnul, rfl, rfl, -⟩ | ⟨hnul, hcalls, hsystem⟩⟩
  · -- the call has not been made for a NUL in the name of the root or of the target
    refine ⟨hinstances, hruns, Or.inr ⟨⟨_, rfl⟩, ?_, ht⟩⟩
    simp only [SystemCall.names, Option.toList, List.singleton_append, List.append_nil, List.any_cons,
      List.any_nil, Bool.or_false, Bool.or_eq_true] at hnul
    exact hnul.imp id fun hnul hworks => by simp [hworks.named] at hnul
  · change (x, w'.targets t) = (e.fates k).system (bindCall t root readOnly extra) (w.targets t)
      at hsystem
    refine ⟨hinstances, hruns, ?_⟩
    cases x with
    | ok _ =>
      have hnul : SystemCall.hasNul t = false := by
        simp [SystemCall.names] at hnul
        exact hnul.2
      rw [ht, Fate.system_bind (Fate.refusal_of_ok hsystem) hbind hremount] at hsystem
      exact Or.inl ⟨rfl, hnul, (Prod.ext_iff.1 hsystem).2, hcalls⟩
    | error y =>
      refine Or.inr ⟨⟨y, rfl⟩, ?_, (Fate.system_of_error hsystem).trans ht⟩
      cases hr : (e.fates k).refusal with
      | none =>
        rw [ht, Fate.system_bind hr hbind hremount] at hsystem
        cases hsystem
      | some z => exact hindered_of_refusal hr

/-- The remount of a root that has been bound. -/
theorem yields_remount {w₁ : Site A} {l₁ : List (Asked Host.Step.interface)}
    (hinstances : w₁.instances = w.instances) (hruns : toolRuns l₁ = [])
    (hcalls : kernelCalls l₁ = [(bindCall t root readOnly extra, .ok ())])
    (ht : w₁.targets t = [⟨root, .empty⟩]) (hnul : SystemCall.hasNul t = false)
    (hlater : ¬ (laterFlags readOnly extra).isEmpty = true) :
    Yields e.reading (fun (x : Except Errno Unit) w' l =>
        RootBound e t root readOnly extra w (x.mapError .mount) w' (l₁ ++ l)) k
      (Host.systemCalls ((SystemCall.perform
        (.mount none t none (.remount ∪ .bind ∪ laterFlags readOnly extra) none)).bind fun
          | .ok () => .done (.ok ())
          | .error x => (SystemCall.perform (.unmount t)).bind fun _ => .done (.error x))) w₁ := by
  have hremount : (.remount ∪ .bind ∪ laterFlags readOnly extra : MountFlags).holds .remount = true :=
    holds_remount ..
  rw [systemCalls_bind]
  refine (yields_perform _).bind ?_
  rintro k₂ x w₂ l₂ ⟨hinstances₂, hruns₂, ⟨hnul', -⟩ | ⟨-, hcalls₂, hsystem⟩⟩
  · simp [SystemCall.names, hnul] at hnul'
  · change (x, w₂.targets t) = (e.fates k).system _ (w₁.targets t) at hsystem
    cases x with
    | ok _ =>
      rw [ht, Fate.system_remount (Fate.refusal_of_ok hsystem) hremount] at hsystem
      refine yields_done ⟨hinstances₂.trans hinstances, by simp [hruns, hruns₂], ?_⟩
      have ht₂ : w₂.targets t = [⟨root, mountedFlags readOnly extra⟩] := by
        rw [show mountedFlags readOnly extra = _ from if_neg hlater]
        exact (Prod.ext_iff.1 hsystem).2
      have hall : rootCalls t root readOnly extra = [_, _] := congrArg (_ :: ·) (if_neg hlater)
      have hbound : Bound e t root readOnly extra _ _ _ := .mounted
      rw [hall] at hbound
      rw [ht₂, kernelCalls_append, List.append_nil, hcalls, hcalls₂]
      exact hbound
    | error x =>
      -- the root has been bound, so a remount that fails has been refused
      have hhindered : Hindered e t root := by
        cases hr : (e.fates k).refusal with
        | none =>
          rw [ht, Fate.system_remount hr hremount] at hsystem
          cases hsystem
        | some y => exact hindered_of_refusal hr
      have ht₂ : w₂.targets t = [⟨root, .empty⟩] := (Fate.system_of_error hsystem).trans ht
      refine (yields_undo ht₂ hnul).mono ?_
      rintro y w₃ l₃ ⟨rfl, hinstances₃, hruns₃, hmounts⟩
      refine ⟨(hinstances₃.trans hinstances₂).trans hinstances, by simp [hruns, hruns₂, hruns₃], ?_⟩
      rcases hmounts with hmounts | ⟨hmounts, z, hz⟩
      · rw [hmounts]
        exact .failed hhindered
      · rw [hmounts]
        refine .stuck hhindered ⟨⟨.remount ∪ .bind ∪ laterFlags readOnly extra, x, ?_⟩, z, ?_⟩
        · simp [hcalls₂]
        · simp [hz]

/-- **A root is mounted with its flags, or not at all, or left mounted without them.** -/
theorem yields_bindRoot (ht : w.targets t = []) :
    Yields e.reading (RootBound e t root readOnly extra w) k
      (Host.onHost (Target.bindRoot t root readOnly extra)) w := by
  have hbind : (parse (forBind readOnly extra)).flags.holds .bind = true :=
    holds_bind_rootFlags readOnly extra
  rw [onHost_bindRoot]
  unfold SystemCall.mounting SystemCall.lift
  dsimp only
  rw [if_pos hbind, systemCalls_bind]
  refine Yields.map ?_
  rw [systemCalls_andThen]
  refine (yields_bind ht).andThen ?_ ?_
  · rintro k₁ _ w₁ l₁ ⟨hinstances, hruns, ⟨-, hnul, ht₁, hcalls⟩ | ⟨⟨y, hy⟩, -⟩⟩
    · split
      · rename_i hlater
        refine yields_done ⟨hinstances, by simp [hruns], ?_⟩
        rw [List.append_nil, hcalls, ht₁,
          show (.empty : MountFlags) = mountedFlags readOnly extra from (if_pos hlater).symm]
        have hall : rootCalls t root readOnly extra = [_] := congrArg (_ :: ·) (if_pos hlater)
        have hbound : Bound e t root readOnly extra _ _ _ := .mounted
        rwa [hall] at hbound
      · rename_i hlater
        exact yields_remount hinstances hruns hcalls ht₁ hnul hlater
    · cases hy
  · rintro x w₁ l₁ ⟨hinstances, hruns, ⟨hx, -⟩ | ⟨-, hhindered, ht₁⟩⟩
    · cases hx
    · refine ⟨hinstances, hruns, ?_⟩
      rw [ht₁]
      exact .failed hhindered

end Node

end VolumeNode
