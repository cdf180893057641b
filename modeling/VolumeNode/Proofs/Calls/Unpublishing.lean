import VolumeNode.Proofs.Calls.Failures
import VolumeNode.Proofs.Calls.Procedure

/-!
# The steps of taking a volume down

A volume is taken down by looking at its target, unmounting the target if it looks mounted, and deleting
the instance. The instance is deleted only when the target is known to be down, since a root that is still
mounted is still in use.

* `takenDown_unpublishBody`: how taking a volume down may go.
* `TakenDown.told`: when the target is unmounted and the instance is deleted.
* `unpublish_in_turn`: which steps an unpublish request does, and when it succeeds.
-/

namespace VolumeNode.Node

open Program (World reading)

/-- How taking a volume down ends, and by which steps. -/
inductive TakenDown (c : Config) (v t : String) :
    Except VolumeError Unit → List (Asked Action.interface) → Prop where
  | unseen (e : FileError) (h : e.isNotFound = false) :
      TakenDown c v t (.error (.inspection t e)) [⟨.inspect t, .error e⟩]
  | stuck (e : VolumeError) :
      TakenDown c v t (.error (.unmounting t e)) [⟨.inspect t, .ok true⟩, ⟨.unmount t, .error e⟩]
  | unmounted (x : Except VolumeError Output) :
      TakenDown c v t (Image.absorb x) [⟨.inspect t, .ok true⟩, ⟨.unmount t, .ok ()⟩,
        ⟨.runTool (Image.deleteCommand c v), x⟩]
  | bare (y : Except FileError Bool) (h : Target.understood t y = .ok false)
      (x : Except VolumeError Output) :
      TakenDown c v t (Image.absorb x) [⟨.inspect t, y⟩, ⟨.runTool (Image.deleteCommand c v), x⟩]

section

variable {σ : Type} {w : World Action.interface σ} {c : Config} {v t : String} {k : ℕ} {s : σ}

/-- Only an inspection that says so makes a target look mounted. -/
theorem eq_of_understood {y : Except FileError Bool} (h : Target.understood t y = .ok true) :
    y = .ok true := by
  unfold Target.understood at h
  cases y with
  | ok mounted =>
    cases h
    rfl
  | error e =>
    dsimp only at h
    split at h <;> cases h

/-- A target that is taken down leaves the instance to be deleted; one that is not ends the call. -/
theorem takenDown_unpublish :
    Yields (reading w) (fun x _ l => (∀ e, x = .error e → TakenDown c v t x l) ∧
      (x = .ok () → ∀ y, TakenDown c v t (Image.absorb y)
        (l ++ [⟨.runTool (Image.deleteCommand c v), y⟩]))) k (Target.unpublish t) s := by
  refine Yields.andThen (yields_take_map (.inspect t) (Target.understood t)) ?_ ?_
  · rintro k mounted s _ ⟨y, hy, rfl⟩
    cases mounted with
    | true =>
      obtain rfl := eq_of_understood hy.symm
      refine (yields_take_map (.unmount t) _).mono ?_
      rintro x s _ ⟨z, rfl, rfl⟩
      cases z with
      | ok => exact ⟨nofun, fun _ x => .unmounted x⟩
      | error e => exact ⟨fun _ _ => .stuck e, nofun⟩
    | false => exact yields_done ⟨nofun, fun _ x => .bare y hy.symm x⟩
  · rintro e s _ ⟨y, hy, rfl⟩
    obtain ⟨f, rfl, hf, rfl⟩ := Target.understood_eq_error_iff.1 hy.symm
    exact ⟨fun _ _ => .unseen f hf, nofun⟩

/-- **How taking a volume down may go**, under the lock of the volume. -/
theorem takenDown_unpublishBody :
    Yields (reading w) (fun x _ l => TakenDown c v t x l) k (unpublishBody c v t) s := by
  refine takenDown_unpublish.andThen (fun k _ s l hl => ?_) fun e s l hl => hl.1 e rfl
  refine (yields_take_map (.runTool (Image.deleteCommand c v)) Image.absorb).mono ?_
  rintro x s _ ⟨y, rfl, rfl⟩
  exact hl.2 rfl y

end

/-- Whether the tool has deleted an instance, or has found nothing to delete. -/
def Deleted (x : Except VolumeError Output) : Prop :=
  (∃ output, x = .ok output) ∨
    ∃ line status output, x = .error (.processFailure line status output) ∧
      Image.isNotFound output = true

theorem absorb_eq_ok_iff {x : Except VolumeError Output} : Image.absorb x = .ok () ↔ Deleted x := by
  cases x with
  | ok output => exact ⟨fun _ => Or.inl ⟨output, rfl⟩, fun _ => rfl⟩
  | error e =>
    cases e with
    | processFailure line status output =>
      rw [absorb_processFailure]
      cases h : Image.isNotFound output <;> simp [Deleted, h]
    | _ => simp [Image.absorb, Deleted]

/-- A deletion that has failed is what the call fails with. -/
theorem absorb_error (e : VolumeError) :
    Image.absorb (.error e) = .ok () ∨ Image.absorb (.error e) = .error e := by
  cases e with
  | processFailure line status output =>
    rw [absorb_processFailure]
    cases Image.isNotFound output
    · exact Or.inr rfl
    · exact Or.inl rfl
  | _ => exact Or.inr rfl

/-- How the unmounts in a record have been answered. -/
def unmounts (l : List (Asked Action.interface)) : List (Except VolumeError Unit) :=
  l.filterMap fun
    | ⟨.unmount _, x⟩ => some x
    | _ => none

/-- The runs of the tool in a record, with their answers. -/
def runs (l : List (Asked Action.interface)) : List (Command × Except VolumeError Output) :=
  l.filterMap fun
    | ⟨.runTool command, x⟩ => some (command, x)
    | _ => none

/-- Whether an inspection says that a target is not mounted, or not there. -/
def SaysDown (y : Except FileError Bool) : Prop :=
  y = .ok false ∨ ∃ e : FileError, y = .error e ∧ e.isNotFound = true

section

variable {c : Config} {v t : String} {x : Except VolumeError Unit} {l : List (Asked Action.interface)}

/-- A target that is not understood to be mounted has been said to be down. -/
theorem saysDown_iff {y : Except FileError Bool} :
    SaysDown y ↔ Target.understood t y = .ok false := by
  cases y with
  | ok mounted => simp [SaysDown, Target.understood]
  | error e => cases h : e.isNotFound <;> simp [SaysDown, Target.understood, h]

/-- The steps are done in order, each at most once. -/
theorem TakenDown.order (h : TakenDown c v t x l) :
    (l.map (·.1)).Sublist (α := Action)
      [.inspect t, .unmount t, .runTool ⟨c.toolPath, ["delete", v], c.timeout⟩] := by
  cases h with
  | unseen e h => exact .cons_cons _ (.cons _ (.cons _ .slnil))
  | stuck e => exact .cons_cons _ (.cons_cons _ (.cons _ .slnil))
  | unmounted x => exact .refl _
  | bare y h x => exact .cons_cons _ (.cons _ (.refl _))

/-- The target is unmounted if it is said to be mounted, and the instance is deleted if the target is known
to be down. -/
theorem TakenDown.told (h : TakenDown c v t x l) :
    ∃ said, inspections l = [said] ∧ ((∃ z, unmounts l = [z]) ↔ said = .ok true) ∧
      ((∃ y, runs l = [(⟨c.toolPath, ["delete", v], c.timeout⟩, y)]) ↔
        said = .ok true ∧ unmounts l = [.ok ()] ∨ SaysDown said) := by
  cases h with
  | unseen e h => exact ⟨_, rfl, by simp [unmounts], by simp [unmounts, runs, SaysDown, h]⟩
  | stuck e => exact ⟨_, rfl, by simp [unmounts], by simp [unmounts, runs, SaysDown]⟩
  | unmounted x => exact ⟨_, rfl, by simp [unmounts], fun _ => Or.inl ⟨rfl, rfl⟩, fun _ => ⟨x, rfl⟩⟩
  | bare y h x =>
    have hnot : y ≠ .ok true := by
      rintro rfl
      cases h
    refine ⟨y, rfl, ⟨?_, fun hy => absurd hy hnot⟩, fun _ => Or.inr (saysDown_iff.2 h), fun _ => ⟨x, rfl⟩⟩
    rintro ⟨z, ⟨⟩⟩

/-- A target that is not known to be down ends the call, and the tool is not run. -/
theorem TakenDown.failed (h : TakenDown c v t x l)
    (hfailed : (∃ e : FileError, inspections l = [.error e] ∧ e.isNotFound = false) ∨
      ∃ e, unmounts l = [.error e]) :
    (∃ e, x = .error e ∧ e.kind = .internal) ∧ runs l = [] := by
  cases h with
  | unseen e h => exact ⟨⟨_, rfl, rfl⟩, rfl⟩
  | stuck e => exact ⟨⟨_, rfl, rfl⟩, rfl⟩
  | unmounted x => simp [inspections, unmounts] at hfailed
  | bare y h x =>
    obtain ⟨e, he, hf⟩ : ∃ e : FileError, y = .error e ∧ e.isNotFound = false := by
      simpa [inspections, unmounts] using hfailed
    rw [he] at h
    simp [Target.understood, hf] at h

/-- A call that has run the tool once ends as the run has. -/
theorem result_of_runs {command : Command} {y : Except VolumeError Output} (h : runs l = [(command, y)]) :
    (Image.absorb y = .ok () ↔ ∃ y', runs l = [(command, y')] ∧ Deleted y') ∧
      ∀ e, runs l = [(command, .error e)] → Image.absorb y = .ok () ∨ Image.absorb y = .error e := by
  rw [h]
  constructor
  · rw [absorb_eq_ok_iff]
    simp
  · intro e he
    obtain rfl : y = .error e := by simpa using he
    exact absorb_error e

/-- **The call succeeds if the instance has been deleted or was not there**, and fails as the deletion
does. -/
theorem TakenDown.result (h : TakenDown c v t x l) :
    (x = .ok () ↔ ∃ y, runs l = [(⟨c.toolPath, ["delete", v], c.timeout⟩, y)] ∧ Deleted y) ∧
      ∀ e, runs l = [(⟨c.toolPath, ["delete", v], c.timeout⟩, .error e)] →
        x = .ok () ∨ x = .error e := by
  cases h with
  | unseen e h => exact ⟨by simp [runs], by simp [runs]⟩
  | stuck e => exact ⟨by simp [runs], by simp [runs]⟩
  | unmounted x => exact result_of_runs rfl
  | bare y h x => exact result_of_runs rfl

end

/-- What only the runs of the tool change is left as it is by a call that does not run the tool. -/
theorem unchanged_of_runs {σ ι α : Type} {w : World Action.interface σ} {p : Program Action.interface α}
    {s : σ} (hruns : runs (external (p.transcript w s)) = []) {instances : σ → ι}
    (hinstances : ∀ a s, (∀ command, a ≠ .runTool command) → instances (w a s).2 = instances s) :
    instances (p.run w s).2 = instances s := by
  refine Program.run_unchanged (I := Action.interface) hinstances ?_
  rintro ⟨q, y⟩ hy command rfl
  have hmem : (⟨.runTool command, y⟩ : Asked Action.interface) ∈ external (p.transcript w s) :=
    List.mem_filter.2 ⟨hy, rfl⟩
  have hrun : (command, y) ∈ runs (external (p.transcript w s)) :=
    List.mem_filterMap.2 ⟨_, hmem, rfl⟩
  rw [hruns] at hrun
  cases hrun

/-- **An instance is deleted only when its target is known to be down**, whatever the collaborators answer.
An unpublish request looks at its target once, unmounts it if it is said to be mounted, and deletes the
instance if the target has been unmounted or is not mounted. -/
theorem unpublish_in_turn {σ ι : Type} (c : Config) (r : UnpublishRequest)
    (w : World Action.interface σ) (s : σ) (hvolume : r.volumeId ≠ "") (htarget : r.targetPath ≠ "") :
    let deletion : Command := ⟨c.toolPath, ["delete", r.volumeId], c.timeout⟩
    let outcome := (unpublishVolume c r).run w s
    let actions := external ((unpublishVolume c r).transcript w s)
    ((actions.map (·.1)).Sublist (α := Action)
        [.inspect r.targetPath, .unmount r.targetPath, .runTool deletion]) ∧
      (∃ said, inspections actions = [said] ∧ ((∃ z, unmounts actions = [z]) ↔ said = .ok true) ∧
        ((∃ y, runs actions = [(deletion, y)]) ↔
          said = .ok true ∧ unmounts actions = [.ok ()] ∨ SaysDown said)) ∧
      ((∃ e : FileError, inspections actions = [.error e] ∧ e.isNotFound = false) ∨
          (∃ e, unmounts actions = [.error e]) →
        (∃ e, outcome.1 = .error e ∧ e.kind = .internal) ∧ runs actions = [] ∧
          ∀ instances : σ → ι,
            (∀ a s, (∀ command, a ≠ .runTool command) → instances (w a s).2 = instances s) →
            instances outcome.2 = instances s) ∧
      (outcome.1 = .ok () ↔ ∃ y, runs actions = [(deletion, y)] ∧ Deleted y) ∧
      ∀ e, runs actions = [(deletion, .error e)] → outcome.1 = .ok () ∨ outcome.1 = .error e := by
  intro deletion outcome actions
  have hcheck : checkUnpublish r = .ok () := by
    simp [checkUnpublish, hvolume, htarget]
  have hcall : unpublishVolume c r = underLock r.volumeId (unpublishBody c r.volumeId r.targetPath) := by
    simp only [unpublishVolume, hcheck]
  have hdown : TakenDown c r.volumeId r.targetPath outcome.1 actions := by
    obtain ⟨s', hactions, hresult⟩ :=
      (Work.unpublish (c := c) r.volumeId r.targetPath).external_underLock w s
    rw [← hcall] at hactions hresult
    rw [show actions = _ from hactions, show outcome.1 = _ from hresult]
    exact Program.yields_transcript (k := 0) takenDown_unpublishBody
  refine ⟨hdown.order, hdown.told, fun hfailed => ?_, hdown.result⟩
  -- without a run of the tool the instances are as they were
  obtain ⟨hinternal, hnone⟩ := hdown.failed hfailed
  exact ⟨hinternal, hnone, fun instances => unchanged_of_runs hnone⟩

/-- The target is mounted, and the instance has gone. -/
def bereft : World Action.interface Unit
  | .enter _, s => ((0 : Ticket), s)
  | .acquire _, s | .release _, s | .discard _, s => ((), s)
  | .inspect _, s => (.ok true, s)
  | .runTool command, s => (.error (.processFailure command.line "exit status: 125" "v: not known"), s)
  | .create .., s | .mount .., s | .unmount _, s => (.ok (), s)

/-- A volume of which the instance has gone is taken down all the same. -/
theorem unpublish_in_turn_bereft :
    let r : UnpublishRequest := ⟨"v", "/t"⟩
    let actions := external ((unpublishVolume {} r).transcript bereft ())
    r.volumeId ≠ "" ∧ r.targetPath ≠ "" ∧ unmounts actions = [.ok ()] ∧
      ((unpublishVolume {} r).run bereft ()).1 = .ok () := by
  intro r actions
  have hruns : runs actions = [(⟨"/bin/buildah", ["delete", "v"], none⟩,
      .error (.processFailure "/bin/buildah delete v" "exit status: 125" "v: not known"))] := by
    decide +kernel
  obtain ⟨-, -, -, hok, -⟩ :=
    unpublish_in_turn (ι := Unit) {} r bereft () (by decide) (by decide)
  exact ⟨by decide, by decide, by decide +kernel,
    hok.2 ⟨_, hruns, Or.inr ⟨_, _, _, rfl, by decide +kernel⟩⟩⟩

end VolumeNode.Node
