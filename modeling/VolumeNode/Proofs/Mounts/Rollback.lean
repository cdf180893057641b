import VolumeNode.Proofs.Mounts.KernelCalls

/-!
# A bind is made as a whole or not at all

A mount with the option `bind` or `rbind` is a bind, a remount for the other flags that are asked for, and
an unmount if the remount fails. The kernel may refuse any of these calls. Whatever was mounted on the
target before stays below.

* `bindEnds_mounting`: how such a mount ends, on any stack of mounts.
* `mounting_all_or_nothing`: the result, the system calls and the mounts that are left.
-/

namespace VolumeNode.Node

open MountOptions
open Program (World reading)

/-- What has been asked of a kernel, and what is mounted on each target, the topmost first. -/
structure MountStacks where
  asked : List (SystemCall × Except Errno Unit)
  mounts : String → List Mounted

/-- A kernel that may refuse any call, given what has been asked of it before. -/
def refusing (refusal? : List (SystemCall × Except Errno Unit) → SystemCall → Option Errno) :
    World SystemCall.interface MountStacks :=
  fun (call : SystemCall) k =>
    let r := Fate.system { refusal := refusal? k.asked call } call (k.mounts (mountedPath call))
    (r.1, ⟨k.asked ++ [(call, r.1)], Function.update k.mounts (mountedPath call) r.2⟩)

/-- How a mount with the option `bind` or `rbind` ends: the result, the system calls, and what is mounted
on the target. -/
inductive BindEnds (source target : String) (first later flags : MountFlags) (before : List Mounted) :
    Except VolumeError Unit → List (SystemCall × Except Errno Unit) → List Mounted → Prop where
  | refused (e : Errno) : BindEnds source target first later flags before (.error (.mount e))
      [(.mount (some source) target none first none, .error e)] before
  | bound (h : later.isEmpty = true) : BindEnds source target first later flags before (.ok ())
      [(.mount (some source) target none first none, .ok ())] (⟨source, flags⟩ :: before)
  | remounted (h : later.isEmpty = false) : BindEnds source target first later flags before (.ok ())
      [(.mount (some source) target none first none, .ok ()),
        (.mount none target none (.remount ∪ .bind ∪ later) none, .ok ())] (⟨source, flags⟩ :: before)
  | undone (h : later.isEmpty = false) (e : Errno) :
      BindEnds source target first later flags before (.error (.mount e))
        [(.mount (some source) target none first none, .ok ()),
          (.mount none target none (.remount ∪ .bind ∪ later) none, .error e),
          (.unmount target, .ok ())] before
  | left (h : later.isEmpty = false) (e x : Errno) :
      BindEnds source target first later flags before (.error (.mount e))
        [(.mount (some source) target none first none, .ok ()),
          (.mount none target none (.remount ∪ .bind ∪ later) none, .error e),
          (.unmount target, .error x)] (⟨source, .empty⟩ :: before)

/-- How the mounts among some system calls have been answered. -/
def mountAnswers (calls : List (SystemCall × Except Errno Unit)) : List (Except Errno Unit) :=
  calls.filterMap fun
    | (.mount .., x) => some x
    | (.unmount _, _) => none

section

variable {refusal? : List (SystemCall × Except Errno Unit) → SystemCall → Option Errno} {k : MountStacks}
  {source target : String} {fsType : Option String} {options : List String} {call : SystemCall} {n : ℕ}

/-- How a bind ends is told by its system calls: as the first mount that fails, or well. -/
theorem BindEnds.told {first later flags : MountFlags} {before mounts : List Mounted}
    {x : Except VolumeError Unit} {calls : List (SystemCall × Except Errno Unit)}
    (h : BindEnds source target first later flags before x calls mounts) :
    BindCalls source target first later calls ∧
      (x = .ok () ↔ ∀ y ∈ mountAnswers calls, y = .ok ()) ∧
      (x = .ok () → mounts = ⟨source, flags⟩ :: before) ∧
      ∀ e, x = .error e →
        (∃ errno, .error errno ∈ mountAnswers calls ∧ e = .mount errno) ∧
        ((∀ y, (.unmount target, .error y) ∉ calls) → mounts = before) ∧
        ∀ y, (.unmount target, .error y) ∈ calls → mounts = ⟨source, .empty⟩ :: before := by
  cases h with
  | refused e => exact ⟨.refused e, by simp [mountAnswers]⟩
  | bound hlater => exact ⟨.bound hlater, by simp [mountAnswers]⟩
  | remounted hlater => exact ⟨.remounted hlater, by simp [mountAnswers]⟩
  | undone hlater e => exact ⟨.undone hlater e (.ok ()), by simp [mountAnswers]⟩
  | left hlater e x => exact ⟨.undone hlater e (.error x), by simp [mountAnswers]⟩

/-- A call that can be made is made, or it is refused and changes nothing. -/
theorem yields_refusing {mounts : List Mounted} (hnul : call.names.any SystemCall.hasNul = false)
    (h : Fate.system {} call (k.mounts (mountedPath call)) = (.ok (), mounts)) :
    Yields (reading (refusing refusal?)) (fun (x : Except Errno Unit) k' _ =>
      k'.asked = k.asked ++ [(call, x)] ∧
        (x = .ok () ∧ k'.mounts = Function.update k.mounts (mountedPath call) mounts ∨
          (∃ e, x = .error e) ∧ k'.mounts = k.mounts)) n (SystemCall.perform call) k := by
  rw [show SystemCall.perform call = .single (I := SystemCall.interface) call from
    if_neg (by simp [hnul])]
  refine yields_single (reading (refusing refusal?)) n call rfl ⟨rfl, ?_⟩
  unfold refusing
  cases refusal? k.asked call with
  | some e => exact Or.inr ⟨⟨e, rfl⟩, Function.update_eq_self ..⟩
  | none =>
    rw [h]
    exact Or.inl ⟨rfl, rfl⟩

/-- Options that ask for a bind anyway leave the flags of a bind. -/
theorem flags_parse_of_bind (h : "bind" ∈ options ∨ "rbind" ∈ options) :
    (parse options).flags = rootFlags false options := by
  refine MountFlags.ext_testBit fun n => Bool.eq_iff_iff.2 ?_
  rw [testBit_parse, testBit_rootFlags]
  constructor
  · rintro ⟨front, word, back, hwords, hadds⟩
    exact ⟨"bind" :: front, word, back, congrArg ("bind" :: ·) hwords, hadds⟩
  · rintro ⟨front, word, back, hwords, ⟨f, he, hf⟩, hspares⟩
    cases front with
    | nil =>
      -- the bit of the bind is also added by the word that is there
      obtain ⟨rfl, -⟩ := List.cons.inj hwords
      cases he
      obtain rfl := MountFlags.eq_of_testBit 12 hf
      rcases h with h | h <;> obtain ⟨front, back, hwords⟩ := List.append_of_mem h
      · exact ⟨front, "bind", back, hwords, ⟨_, rfl, by decide⟩, Or.inl (by decide)⟩
      · exact ⟨front, "rbind", back, hwords, ⟨_, rfl, by decide⟩, Or.inl (by decide)⟩
    | cons _ front => exact ⟨front, word, back, (List.cons.inj hwords).2, ⟨f, he, hf⟩, hspares⟩

/-- Of a bind neither the type of the file system nor the words for data matter. -/
theorem mounting_of_bind (h : "bind" ∈ options ∨ "rbind" ∈ options) :
    SystemCall.mounting source target fsType options =
      SystemCall.mounting source target none (forBind false options) := by
  have hflags : (parse (forBind false options)).flags = (parse options).flags :=
    (flags_parse_of_bind h).symm
  have hbind : (parse (forBind false options)).flags.holds .bind = true :=
    holds_bind_rootFlags false options
  unfold SystemCall.mounting
  dsimp only
  rw [← hflags, if_pos hbind, if_pos hbind]

/-- The remount of a source that has been bound, and the unmount if it is refused. -/
theorem yields_remounting {before : String → List Mounted}
    (hlater : ¬ (laterFlags false options).isEmpty = true) (ht : SystemCall.hasNul target = false)
    (hasked : k.asked = [(bindCall target source false options, .ok ())])
    (hmounts : k.mounts = Function.update before target (⟨source, .empty⟩ :: before target)) :
    Yields (reading (refusing refusal?)) (fun (x : Except Errno Unit) k' _ => ∃ mounts,
      BindEnds source target (splitBind (rootFlags false options)).1 (laterFlags false options)
        (mountedFlags false options) (before target) (x.mapError .mount) k'.asked mounts ∧
      k'.mounts = Function.update before target mounts) n
      ((SystemCall.perform
        (.mount none target none (.remount ∪ .bind ∪ laterFlags false options) none)).bind fun
          | .ok () => .done (.ok ())
          | .error x => (SystemCall.perform (.unmount target)).bind fun _ => .done (.error x)) k := by
  have hlater' : (laterFlags false options).isEmpty = false := Bool.eq_false_iff.2 hlater
  have hremount : (.remount ∪ .bind ∪ laterFlags false options : MountFlags).holds .remount = true :=
    holds_remount ..
  have htop : k.mounts target = ⟨source, .empty⟩ :: before target := by
    rw [hmounts, Function.update_self]
  have hanswer : Fate.system {} (.mount none target none (.remount ∪ .bind ∪ laterFlags false options)
      none) (k.mounts target) = (.ok (), ⟨source, mountedFlags false options⟩ :: before target) := by
    rw [htop, Fate.system_remount rfl hremount, mountedFlags, if_neg hlater]
  refine (yields_refusing (by simp [SystemCall.names, ht]) hanswer).bind ?_
  rintro n x k₁ - ⟨hasked₁, ⟨rfl, hmounts₁⟩ | ⟨⟨e, rfl⟩, hmounts₁⟩⟩
  · refine yields_done ⟨⟨source, mountedFlags false options⟩ :: before target, ?_, ?_⟩
    · rw [hasked₁, hasked]
      exact .remounted hlater'
    · rw [hmounts₁, hmounts]
      exact Function.update_idem ..
  · -- the bind is still on top, so that an unmount takes it away
    have hundo : Fate.system {} (.unmount target) (k₁.mounts target) = (.ok (), before target) := by
      rw [hmounts₁, htop, Fate.system_unmount rfl]
    refine Yields.map ((yields_refusing (by simp [SystemCall.names, ht]) hundo).mono ?_)
    rintro y k₂ - ⟨hasked₂, ⟨rfl, hmounts₂⟩ | ⟨⟨e', rfl⟩, hmounts₂⟩⟩
    · refine ⟨before target, ?_, ?_⟩
      · rw [hasked₂, hasked₁, hasked]
        exact .undone hlater' e
      · rw [hmounts₂, hmounts₁, hmounts]
        exact Function.update_idem ..
    · refine ⟨_, ?_, hmounts₂.trans (hmounts₁.trans hmounts)⟩
      rw [hasked₂, hasked₁, hasked]
      exact .left hlater' e e'

/-- **How a bind ends**, on any stack of mounts. -/
theorem bindEnds_mounting
    (refusal? : List (SystemCall × Except Errno Unit) → SystemCall → Option Errno)
    (options : List String) (before : String → List Mounted)
    (hsource : SystemCall.hasNul source = false) (ht : SystemCall.hasNul target = false) :
    Yields (reading (refusing refusal?)) (fun x k' _ => ∃ mounts,
      BindEnds source target (splitBind (rootFlags false options)).1 (laterFlags false options)
        (mountedFlags false options) (before target) x k'.asked mounts ∧
      k'.mounts = Function.update before target mounts) n
      (SystemCall.mounting source target none (forBind false options)) ⟨[], before⟩ := by
  have hbind : (parse (forBind false options)).flags.holds .bind = true :=
    holds_bind_rootFlags false options
  obtain ⟨hfirst, hfirst'⟩ := holds_splitBind_fst (rootFlags false options)
  unfold SystemCall.mounting SystemCall.lift
  dsimp only
  rw [if_pos hbind]
  refine Yields.map ((yields_refusing (by simp [SystemCall.names, hsource, ht])
    (Fate.system_bind rfl hfirst hfirst')).andThen ?_ ?_)
  · rintro n _ k₁ - ⟨hasked₁, ⟨-, hmounts₁⟩ | ⟨⟨e, he⟩, -⟩⟩
    · change k₁.mounts = Function.update before target (⟨source, .empty⟩ :: before target) at hmounts₁
      split
      · rename_i hlater
        change (laterFlags false options).isEmpty = true at hlater
        refine yields_done ⟨_, ?_, hmounts₁⟩
        rw [hasked₁, mountedFlags, if_pos hlater]
        exact .bound hlater
      · rename_i hlater
        change ¬ (laterFlags false options).isEmpty = true at hlater
        exact yields_remounting hlater ht hasked₁ hmounts₁
    · cases he
  · rintro e k₁ - ⟨hasked₁, ⟨he, -⟩ | ⟨-, hmounts₁⟩⟩
    · cases he
    · refine ⟨_, ?_, hmounts₁.trans (Function.update_eq_self ..).symm⟩
      rw [hasked₁]
      exact .refused e

/-- A name that holds NUL keeps a bind from being made. -/
theorem mounting_of_nul {σ : Type} {w : World SystemCall.interface σ} {s : σ}
    (h : (SystemCall.hasNul source || SystemCall.hasNul target) = true) :
    (SystemCall.mounting source target none (forBind false options)).run w s =
      (.error (.mount .invalid), s) := by
  have hbind : (parse (forBind false options)).flags.holds .bind = true :=
    holds_bind_rootFlags false options
  unfold SystemCall.mounting SystemCall.lift
  dsimp only
  rw [if_pos hbind, SystemCall.perform_of_nul (by simpa [SystemCall.names] using h)]
  rfl

end

/-- **A bind is made as a whole or not at all**, whatever the kernel refuses and whatever is mounted. The
calls are the bind, a remount for the flags that are asked for besides, and an unmount if that fails. The
mount succeeds if both calls do, with one mount more on its target, and otherwise fails as the first of
them that fails; then nothing has changed, unless the unmount fails too. -/
theorem mounting_all_or_nothing
    (refusal? : List (SystemCall × Except Errno Unit) → SystemCall → Option Errno)
    (source target : String) (fsType : Option String) (options : List String)
    (before : String → List Mounted) (h : "bind" ∈ options ∨ "rbind" ∈ options) :
    let outcome := (SystemCall.mounting source target fsType options).run (refusing refusal?)
      ⟨[], before⟩
    let calls := outcome.2.asked
    if SystemCall.hasNul source || SystemCall.hasNul target then
      outcome = (.error (.mount .invalid), ⟨[], before⟩)
    else
      Requested false options (laterFlags false options) ∧
        BindCalls source target (if "rbind" ∈ options then .bind ∪ .recursive else .bind)
          (laterFlags false options) calls ∧
        (outcome.1 = .ok () ↔ ∀ x ∈ mountAnswers calls, x = .ok ()) ∧
        (outcome.1 = .ok () → outcome.2.mounts =
          Function.update before target (⟨source, mountedFlags false options⟩ :: before target)) ∧
        ∀ e, outcome.1 = .error e →
          (∃ errno, .error errno ∈ mountAnswers calls ∧ e = .mount errno) ∧
          ((∀ x, (.unmount target, .error x) ∉ calls) → outcome.2.mounts = before) ∧
          ∀ x, (.unmount target, .error x) ∈ calls → outcome.2.mounts =
            Function.update before target (⟨source, .empty⟩ :: before target) := by
  rw [mounting_of_bind h]
  intro outcome calls
  split
  · rename_i hnul
    exact mounting_of_nul hnul
  · rename_i hnul
    obtain ⟨hsource, ht⟩ := Bool.or_eq_false_iff.1 (Bool.eq_false_iff.2 hnul)
    obtain ⟨mounts, hends, hmounts⟩ :=
      Program.yields_transcript (bindEnds_mounting (n := 0) refusal? options before hsource ht)
    refine ⟨requested_laterFlags _ _, ?_⟩
    rw [← splitBind_fst false options]
    change outcome.2.mounts = _ at hmounts
    change BindEnds _ _ _ _ _ _ outcome.1 calls mounts at hends
    obtain ⟨hcalls, hok, hmounted, hfailed⟩ := hends.told
    rw [hmounts]
    refine ⟨hcalls, hok, fun hx => congrArg _ (hmounted hx), fun e hx => ?_⟩
    obtain ⟨herrno, hundone, hleft⟩ := hfailed e hx
    refine ⟨herrno, fun hnone => ?_, fun x hx => congrArg _ (hleft x hx)⟩
    rw [hundone hnone, Function.update_eq_self]

/-- A kernel refuses a remount. The bind is undone, and the mount below it is there as before. -/
theorem mounting_all_or_nothing_undone :
    let before : String → List Mounted := fun t => if t = "/t" then [⟨"/old", .empty⟩] else []
    let outcome := (SystemCall.mounting "/r" "/t" none ["rbind", "ro"]).run
      (refusing fun asked _ => if asked.length = 1 then some .notPermitted else none) ⟨[], before⟩
    "rbind" ∈ ["rbind", "ro"] ∧ outcome.1 = .error (.mount .notPermitted) ∧
      outcome.2.asked.length = 3 ∧ outcome.2.mounts = before := by
  intro before outcome
  have herror : outcome.1 = .error (.mount .notPermitted) := by decide +kernel
  have hundone : (outcome.2.asked.all fun y => y.1 != .unmount "/t" || y.2.isOk) = true := by
    decide +kernel
  have hall := mounting_all_or_nothing
    (fun asked _ => if asked.length = 1 then some .notPermitted else none) "/r" "/t" none
    ["rbind", "ro"] before (Or.inr List.mem_cons_self)
  dsimp only at hall
  rw [if_neg (by decide)] at hall
  obtain ⟨-, -, -, -, hfailed⟩ := hall
  refine ⟨List.mem_cons_self, herror, by decide +kernel, (hfailed _ herror).2.1 fun x hx => ?_⟩
  cases List.all_eq_true.1 hundone _ hx

end VolumeNode.Node
