import VolumeNode.Proofs.Concurrent.Record
import VolumeNode.Proofs.Mounts.FaultyHost

/-!
# Calls made one at a time on a host

An `attempt` is a call made by itself under given `Conditions`: any image tool, and a host on which
anything may fail. It has a result, leaves a world, and has run the tool and called the kernel.

* `attempt_spec`: an attempt is what its work makes of the world.
* `attempt_elsewhere`, `attempt_congr`: an attempt changes its instance and its target alone, and depends
  on them alone.
-/

namespace VolumeNode.Node

/-- What a call meets with: what the image tool makes of an instance, and how each step on the host
ends, given how many steps the call has taken. -/
structure Conditions (A : Type) where
  tool : ℕ → Command → Option A → Except VolumeError Output × Option A
  fates : ℕ → Fate

/-- The instances of some tool and the mounts of a kernel. -/
abbrev Site (A : Type) :=
  Places (Option A) (List Mounted)

/-- What the steps of a call do. -/
def Conditions.reading {A : Type} (e : Conditions A) : Reading Host.Step.interface (Site A)
  | _, .enter v => .enter v
  | _, .acquire m => .acquire m
  | _, .release m => .release m
  | _, .discard v => .discard v
  | k, .inspect t => .outside (Places.onTarget t (e.fates k).inspect)
  | k, .create t _ => .outside (Places.onTarget t (e.fates k).create)
  | k, .runTool command =>
    match namedInstance? command with
    | some v => .outside (Places.onInstance v (e.tool k command))
    | none => .outside fun w => (.error (.invalid command.line), w)
  | k, .system call => .outside (Places.onTarget (mountedPath call) ((e.fates k).system call))

/-- The tool and the host of which each step ends as its fate says. -/
def Conditions.ofFates (fates : ℕ → Fate) : Conditions Instance :=
  ⟨fun k command => (fates k).runTool command.arguments, fates⟩

/-- The runs of the tool in a record. -/
def toolRuns (l : List (Asked Host.Step.interface)) : List Command :=
  l.filterMap fun
    | ⟨.runTool command, _⟩ => some command
    | _ => none

/-- The system calls in a record, with their results. -/
def kernelCalls (l : List (Asked Host.Step.interface)) : List (SystemCall × Except Errno Unit) :=
  l.filterMap fun
    | ⟨.system call, r⟩ => some (call, r)
    | _ => none

@[simp] theorem toolRuns_append (l l' : List (Asked Host.Step.interface)) :
    toolRuns (l ++ l') = toolRuns l ++ toolRuns l' :=
  List.filterMap_append

@[simp] theorem kernelCalls_append (l l' : List (Asked Host.Step.interface)) :
    kernelCalls (l ++ l') = kernelCalls l ++ kernelCalls l' :=
  List.filterMap_append

/-- A call made by itself: its result, the world it leaves, what it has run the tool for, and what it has
asked the kernel. -/
structure Outcome (A : Type) where
  result : Except VolumeError Unit
  world : Site A
  runs : List Command
  calls : List (SystemCall × Except Errno Unit)

variable {A : Type} {c : Config} {r : Request} {v t : String} {e : Conditions A} {k : ℕ} {w : Site A}

/-- A request, acted upon while nothing else goes on. -/
def attempt (c : Config) (r : Request) (e : Conditions A) (w : Site A) : Outcome A :=
  let p := Host.onHost (call c r)
  ⟨(alone e.reading 0 p w).1, (alone e.reading 0 p w).2, toolRuns (record e.reading 0 p w),
    kernelCalls (record e.reading 0 p w)⟩

/-- **An attempt is what its work makes of the world.** -/
theorem attempt_spec {work : Call Unit}
    {Q : Except VolumeError Unit → Site A → List Command → List (SystemCall × Except Errno Unit) →
      Prop}
    (hplan : plan c r = .inl (v, work))
    (h : Yields e.reading (fun x w l => Q x w (toolRuns l) (kernelCalls l)) 2 (Host.onHost work) w) :
    Q (attempt c r e w).result (attempt c r e w).world (attempt c r e w).runs
      (attempt c r e w).calls := by
  have hcall : Yields e.reading (fun x w l => Q x w (toolRuns l) (kernelCalls l)) 0
      (Host.onHost (call c r)) w := by
    rw [call_eq, hplan]
    dsimp only
    rw [onHost_underLock]
    change Yields e.reading (fun x w l => Q x w (toolRuns l) (kernelCalls l)) 2 (Program.bind _ _) w
    refine h.bind fun k x w l hl => ?_
    change Q x w (toolRuns (l ++ [_, _])) (kernelCalls (l ++ [_, _]))
    rw [toolRuns_append, kernelCalls_append]
    simpa [toolRuns, kernelCalls] using hl
  exact hcall

theorem Conditions.reading_runTool {command : Command} (h : namedInstance? command = some v) :
    e.reading k (.runTool command) = .outside (Places.onInstance v (e.tool k command)) := by
  simp only [Conditions.reading, h]

/-- **A step of a call is done to its target or to its instance.** -/
theorem Conditions.reading_cases {q : Host.Step} (hq : StepAbout c v t q) :
    (∃ f, e.reading k q = .outside (Places.onTarget t f)) ∨
      ∃ f, e.reading k q = .outside (Places.onInstance v f) := by
  cases hq with
  | inspect => exact Or.inl ⟨_, rfl⟩
  | create mode => exact Or.inl ⟨_, rfl⟩
  | system h =>
    subst h
    exact Or.inl ⟨_, rfl⟩
  | createInstance image => exact Or.inr ⟨_, rfl⟩
  | mountInstance => exact Or.inr ⟨_, rfl⟩
  | deleteInstance => exact Or.inr ⟨_, rfl⟩

/-- **An attempt changes its instance and its target alone.** -/
theorem attempt_elsewhere (hi : place? r = some (v, t)) :
    Places.SameBut v t w (attempt c r e w).world := by
  rcases plan_cases c r with ⟨v', t', work, hplace, hwork, hplan⟩ | ⟨x, hplace, -⟩
  · rw [hi] at hplace
    cases hplace
    refine attempt_spec (Q := fun _ w' _ _ => Places.SameBut v t w w') hplan ?_
    refine alone_rel hwork.isStepAbout Places.sameBut_refl Places.SameBut.trans ?_
    intro k q w hq
    rcases e.reading_cases hq with ⟨f, hf⟩ | ⟨f, hf⟩ <;> rw [hf]
    · exact Places.sameBut_onTarget f w
    · exact Places.sameBut_onInstance f w
  · rw [hi] at hplace
    cases hplace

/-- Whether two worlds are the same for a volume with a target. -/
def SameAt (v t u : String) (w w' : Site A) : Prop :=
  u = v → w.instances v = w'.instances v ∧ w.targets t = w'.targets t

/-- A step of a call depends on its instance and its target alone. -/
theorem Conditions.reading_local {q : Host.Step} (hq : StepAbout c v t q) :
    ∃ f, e.reading k q = .outside f ∧ Local (SameAt v t) v f := by
  -- what other volumes have is not compared
  rcases e.reading_cases hq with ⟨f, hf⟩ | ⟨f, hf⟩
  · refine ⟨_, hf, fun {w w'} hw => ?_, fun {u} w hu hu' => (hu hu').elim⟩
    obtain ⟨hv, ht⟩ := hw rfl
    refine ⟨congrArg (fun b => (f b).1) ht, fun _ => ⟨hv, ?_⟩⟩
    rw [Places.onTarget_self, Places.onTarget_self, ht]
  · refine ⟨_, hf, fun {w w'} hw => ?_, fun {u} w hu hu' => (hu hu').elim⟩
    obtain ⟨hv, ht⟩ := hw rfl
    refine ⟨congrArg (fun a => (f a).1) hv, fun _ => ⟨?_, ht⟩⟩
    rw [Places.onInstance_self, Places.onInstance_self, hv]

/-- **An attempt depends on its instance and its target alone.** -/
theorem attempt_congr {w' : Site A} (hi : place? r = some (v, t))
    (hv : w.instances v = w'.instances v) (ht : w.targets t = w'.targets t) :
    (attempt c r e w).result = (attempt c r e w').result ∧
      (attempt c r e w).runs = (attempt c r e w').runs ∧
      (attempt c r e w).calls = (attempt c r e w').calls := by
  rcases plan_cases c r with ⟨v', t', work, hplace, hwork, hplan⟩ | ⟨x, hplace, -⟩
  · rw [hi] at hplace
    cases hplace
    have hspec : ∀ w : Site A,
        (attempt c r e w).result = (alone e.reading 2 (Host.onHost work) w).1 ∧
          (attempt c r e w).runs = toolRuns (record e.reading 2 (Host.onHost work) w) ∧
          (attempt c r e w).calls = kernelCalls (record e.reading 2 (Host.onHost work) w) :=
      fun w => attempt_spec (Q := fun x _ runs calls =>
        x = (alone e.reading 2 (Host.onHost work) w).1 ∧
          runs = toolRuns (record e.reading 2 (Host.onHost work) w) ∧
          calls = kernelCalls (record e.reading 2 (Host.onHost work) w)) hplan ⟨rfl, rfl, rfl⟩
    have hconfined : Confined e.reading (SameAt v t) v 2 (Host.onHost work) :=
      .of_asks hwork.isStepAbout fun k q hq => e.reading_local hq
    have hsame : SameAt v t v w w' := fun _ => ⟨hv, ht⟩
    obtain ⟨hresult, hruns, hcalls⟩ := hspec w
    obtain ⟨hresult', hruns', hcalls'⟩ := hspec w'
    rw [hresult, hruns, hcalls, hresult', hruns', hcalls', hconfined.record_congr hsame]
    exact ⟨(hconfined.alone_congr hsame).1, rfl, rfl⟩
  · rw [hi] at hplace
    cases hplace

/-- Whether neither the tool nor the kernel has been asked anything. -/
def Quiet (l : List (Asked Host.Step.interface)) : Prop :=
  toolRuns l = [] ∧ kernelCalls l = []

theorem quiet_nil : Quiet [] :=
  ⟨rfl, rfl⟩

theorem Quiet.append {l l' : List (Asked Host.Step.interface)} (h : Quiet l) (h' : Quiet l') :
    Quiet (l ++ l') :=
  ⟨by rw [toolRuns_append, h.1, h'.1]; rfl, by rw [kernelCalls_append, h.2, h'.2]; rfl⟩

/-- An inspection says what the host says of the target. -/
theorem yields_inspect :
    Yields e.reading (fun x w' l => x = ((e.fates k).inspect (w.targets t)).1 ∧ w' = w ∧ Quiet l)
      k (Host.onHost (Action.inspect t).take) w :=
  yields_single e.reading k (.inspect t) rfl
    ⟨rfl, Places.onTarget_eq_self (Fate.inspect_snd (e.fates k)) w, rfl, rfl⟩

/-- A target that is created is as mounted as before. -/
theorem yields_create {mode : ℕ} :
    Yields e.reading (fun x w' l => (x = .ok () ↔ (e.fates k).uncreated = none) ∧ w' = w ∧ Quiet l)
      k (Host.onHost (Target.create t mode)) w := by
  unfold Target.create
  rw [onHost_bind]
  have hstep : Yields e.reading (fun x w' l => x = ((e.fates k).create (w.targets t)).1 ∧ w' = w ∧
      Quiet l) k (Host.onHost (Action.create t mode).take) w :=
    yields_single e.reading k (.create t mode) rfl
      ⟨rfl, Places.onTarget_eq_self (Fate.create_snd (e.fates k)) w, rfl, rfl⟩
  refine (hstep.mono fun x w' l h => ⟨?_, h.2⟩).map
  rw [h.1]
  unfold Fate.create
  cases (e.fates k).uncreated <;> simp [Except.mapError]

/-- A run of the tool is for one instance, and recorded. -/
theorem yields_runTool {command : Command} (h : namedInstance? command = some v) :
    Yields e.reading (fun x w' l => (x, w'.instances v) = e.tool k command (w.instances v) ∧
      w'.targets = w.targets ∧ toolRuns l = [command] ∧ kernelCalls l = [])
      k (Host.onHost (Action.runTool command).take) w :=
  yields_single e.reading k (.runTool command) (e.reading_runTool h)
    ⟨Places.onInstance_run v _ w, rfl, rfl, rfl⟩

/-- A system call is refused for a name that holds NUL, and made and recorded otherwise. -/
theorem yields_perform (call : SystemCall) :
    Yields e.reading (fun x w' l => w'.instances = w.instances ∧ toolRuns l = [] ∧
      ((call.names.any SystemCall.hasNul = true ∧ x = .error .invalid ∧ w' = w ∧ kernelCalls l = []) ∨
        call.names.any SystemCall.hasNul = false ∧ kernelCalls l = [(call, x)] ∧
          (x, w'.targets (mountedPath call)) =
            (e.fates k).system call (w.targets (mountedPath call))))
      k (Host.systemCalls (SystemCall.perform call)) w := by
  cases hnul : call.names.any SystemCall.hasNul with
  | true =>
    rw [SystemCall.perform_of_nul hnul]
    exact ⟨rfl, rfl, Or.inl ⟨rfl, rfl, rfl, rfl⟩⟩
  | false =>
    have hsingle : SystemCall.perform call = .single (I := SystemCall.interface) call :=
      if_neg (by simp [hnul])
    rw [hsingle]
    exact yields_single e.reading k (.system call) rfl
      ⟨rfl, rfl, Or.inr ⟨rfl, rfl, Places.onTarget_run (mountedPath call) _ w⟩⟩

end VolumeNode.Node
