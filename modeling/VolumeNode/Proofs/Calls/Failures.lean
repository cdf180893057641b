import VolumeNode.Proofs.Calls.Machine
import VolumeNode.Proofs.Mounts.Binding

/-!
# Failures of the steps of a call

A call that has come under its lock fails if one of its steps fails, and what it reports is of the kind
of the first failure. It fails without a failed step only if it comes to a system call that cannot be
made, because a name in it holds NUL.

* `Faithful.andThen`: a call reports the failures of its steps if its parts do.
* `reports_mounting`: a mount reports the first of its system calls that fails.
* `Work.reports`: what is done under the lock of a volume reports the failures of its steps.
-/

namespace VolumeNode.Node

open Execution (Ending)
open Program (World reading)

variable {σ α β : Type} {c : Config} {m : World Machine.interface σ} {k : ℕ} {s : σ} {v t : String}

/-- Whether the root of an instance is taken from the output of a command. -/
def printsRoot (c : Config) (command : Command) : Bool :=
  command.arguments.head? == some (if c.resolveRoot then "mount" else "from")

/-- Whether a command deletes an instance. -/
def deletes (command : Command) : Bool :=
  command.arguments.head? == some "delete"

/-- What kind of failure the end of a run of the tool is, if it is one. A run that prints no root fails if
a root is taken from it, and one that finds nothing to delete does not fail. -/
def runFailure? (c : Config) (command : Command) : Ending → Option Kind
  | .notStarted _ => some .processFailure
  | .lost _ => some .internal
  | .ran .overdue => some .timeout
  | .ran (.finished status output) =>
    if status.success then
      if printsRoot c command && (Image.root? output).isNone then some .internal else none
    else if deletes command && Image.isNotFound (Text.Utf8.decodeLossy output) then none
    else some .processFailure

/-- What kind of failure an answer to a step is, if it is one. That a target is not there is none. -/
def failure? (c : Config) : (q : Host.Step) → Machine.Answer q → Option Kind
  | .inspect _, .error e => if e.isNotFound then none else some .internal
  | .runTool command, e => runFailure? c command e
  | .create _ _, .error _ => some .internal
  | .system _, .error _ => some .internal
  | _, _ => none

/-- The failures among some steps, in order. -/
def failures (c : Config) (l : List (Asked Machine.interface)) : List Kind :=
  l.filterMap fun y => failure? c y.1 y.2

@[simp] theorem failures_append (l l' : List (Asked Machine.interface)) :
    failures c (l ++ l') = failures c l ++ failures c l' :=
  List.filterMap_append

/-- Whether a result reports the first failure among some steps. A failure without a failed step is
internal, and there is `N` for it. -/
inductive Reports (c : Config) (N : Prop) :
    Except VolumeError α → List (Asked Machine.interface) → Prop where
  | ok {a : α} {l : List (Asked Machine.interface)} (h : failures c l = []) : Reports c N (.ok a) l
  | failed {e : VolumeError} {l : List (Asked Machine.interface)} (hcode : e.kind.code = .internal)
      (h : (failures c l).head? = some e.kind) : Reports c N (.error e) l
  | unmade {e : VolumeError} {l : List (Asked Machine.interface)} (hkind : e.kind = .internal)
      (h : failures c l = []) (hnul : N) : Reports c N (.error e) l

variable {N N' : Prop}

theorem Reports.prepend {r : Except VolumeError α} {l l' : List (Asked Machine.interface)}
    (hl : failures c l = []) (h : Reports c N r l') : Reports c N r (l ++ l') := by
  have hsame : failures c (l ++ l') = failures c l' := by rw [failures_append, hl, List.nil_append]
  cases h with
  | ok h => exact .ok (hsame.trans h)
  | failed hcode h => exact .failed hcode (by rw [hsame, h])
  | unmade hkind h hnul => exact .unmade hkind (hsame.trans h) hnul

theorem Reports.append {r : Except VolumeError α} {l l' : List (Asked Machine.interface)}
    (h : Reports c N r l) (hl : failures c l' = []) : Reports c N r (l ++ l') := by
  have hsame : failures c (l ++ l') = failures c l := by rw [failures_append, hl, List.append_nil]
  cases h with
  | ok h => exact .ok (hsame.trans h)
  | failed hcode h => exact .failed hcode (by rw [hsame, h])
  | unmade hkind h hnul => exact .unmade hkind (hsame.trans h) hnul

theorem Reports.mono {r : Except VolumeError α} {l : List (Asked Machine.interface)}
    (h : Reports c N r l) (hn : N → N') : Reports c N' r l := by
  cases h with
  | ok h => exact .ok h
  | failed hcode h => exact .failed hcode h
  | unmade hkind h hnul => exact .unmade hkind h (hn hnul)

/-- A failure is reported as one of the same value in another result. -/
theorem Reports.error {e : VolumeError} {l : List (Asked Machine.interface)}
    (h : Reports (α := α) c N (.error e) l) : Reports (α := β) c N (.error e) l := by
  cases h with
  | failed hcode h => exact .failed hcode h
  | unmade hkind h hnul => exact .unmade hkind h hnul

/-- Whether part of a call reports the failures of its steps on a machine. -/
def Faithful (m : World Machine.interface σ) (c : Config) (N : Prop) (p : Call α) : Prop :=
  ∀ k s, Yields (reading m) (fun r _ l => Reports c N r l) k (onMachine p) s

theorem faithful_done {a : α} : Faithful m c N (.done (.ok a)) :=
  fun _ _ => yields_done (.ok rfl)

/-- **A call reports the failures of its steps if its parts do.** -/
theorem Faithful.andThen {p : Call α} {f : α → Call β} (h : Faithful m c N p)
    (hf : ∀ a, Faithful m c N (f a)) : Faithful m c N (p.andThen f) := by
  intro k s
  rw [onMachine_andThen]
  refine (h k s).andThen ?_ fun e s l hl => hl.error
  intro k a s l hl
  cases hl with
  | ok hl => exact (hf a k s).mono fun r s' l' hl' => hl'.prepend hl

/-- One step on a machine is recorded with its answer. -/
theorem yields_step (q : Host.Step) :
    Yields (reading m) (fun x _ l => l = [⟨q, x⟩]) k (Machine.single q) s :=
  yields_single (reading m) k q rfl rfl

/-- On a machine, an inspection is one step. -/
theorem recorded_inspect :
    Yields (reading m) (fun (x : Except FileError Bool) _ l => l = [⟨.inspect t, x⟩]) k
      (onMachine (Action.inspect t).take) s :=
  yields_step (.inspect t)

/-- On a machine, the creation of a target is one step. -/
theorem recorded_create {mode : ℕ} :
    Yields (reading m) (fun (x : Except FileError Unit) _ l => l = [⟨.create t mode, x⟩]) k
      (onMachine (Action.create t mode).take) s :=
  yields_step (.create t mode)

/-- On a machine, a call learns of a run of the tool how it has ended. -/
theorem recorded_runTool (command : Command) :
    Yields (reading m) (fun (x : Except VolumeError Output) _ l =>
      ∃ e : Ending, x = e.result command ∧ l = [⟨.runTool command, e⟩]) k
      (onMachine (Action.runTool command).take) s := by
  change Yields (reading m) _ k ((Machine.single (.runTool command)).bind fun e =>
    .done (e.result command)) s
  refine Yields.map ((yields_step (.runTool command)).mono ?_)
  rintro e s' l rfl
  exact ⟨e, rfl, rfl⟩

theorem reports_understood {x : Except FileError Bool} :
    Reports c N (Target.understood t x) [⟨.inspect t, x⟩] := by
  cases x with
  | ok b => exact .ok rfl
  | error e =>
    change Reports c N (if e.isNotFound then .ok false else .error (.inspection t e)) _
    cases h : e.isNotFound with
    | true =>
      rw [if_pos rfl]
      exact .ok (by simp [failures, failure?, h])
    | false =>
      rw [if_neg Bool.false_ne_true]
      exact .failed rfl (by simp [failures, failure?, h, VolumeError.kind])

theorem faithful_isMounted : Faithful m c N (Target.isMounted t) := by
  intro k s
  unfold Target.isMounted
  rw [onMachine_bind]
  refine (recorded_inspect.mono ?_).map
  rintro x s' l rfl
  exact reports_understood

theorem faithful_create {mode : ℕ} : Faithful m c N (Target.create t mode) := by
  intro k s
  unfold Target.create
  rw [onMachine_bind]
  refine (recorded_create.mono ?_).map
  rintro x s' l rfl
  cases x with
  | ok _ => exact .ok rfl
  | error e => exact .failed rfl rfl

/-- What becomes of a run that does not delete anything: if it succeeds, its output counts. -/
theorem reports_run {command : Command} (hcommand : deletes command = false) (e : Ending) :
    (∃ status output, status.success = true ∧ e = .ran (.finished status output) ∧
        e.result command = .ok output) ∨
      ∃ f, e.result command = .error f ∧
        Reports (α := α) c N (.error f) [⟨.runTool command, e⟩] := by
  cases e with
  | notStarted reason => exact Or.inr ⟨_, rfl, .failed rfl rfl⟩
  | lost e => exact Or.inr ⟨_, rfl, .failed rfl rfl⟩
  | ran verdict =>
    cases verdict with
    | overdue => exact Or.inr ⟨_, rfl, .failed rfl rfl⟩
    | finished status output =>
      cases hs : status.success with
      | true => exact Or.inl ⟨status, output, hs, rfl, Ending.result_of_success hs⟩
      | false =>
        refine Or.inr ⟨_, Ending.result_of_not_success hs, .failed rfl ?_⟩
        simp [failures, failure?, runFailure?, hs, hcommand, VolumeError.kind]

/-- A run that succeeds is no failure, unless a root is to be taken from its output. -/
theorem failures_run {command : Command} {status : Execution.ExitStatus} {output : Output}
    (hs : status.success = true)
    (hroot : printsRoot c command = false ∨ ∃ root, Image.root? output = some root) :
    failures c [⟨.runTool command, .ran (.finished status output)⟩] = [] := by
  rcases hroot with hroot | ⟨root, hroot⟩ <;> simp [failures, failure?, runFailure?, hs, hroot]

/-- The run that creates an instance, if the root is asked for with a run of its own. -/
theorem faithful_createCommand {image : String} (hc : c.resolveRoot = true) :
    Faithful m c N (Action.runTool (Image.createCommand c v image)).take := by
  intro k s
  refine (recorded_runTool _).mono ?_
  rintro x s' l ⟨e, rfl, rfl⟩
  have hroot : printsRoot c (Image.createCommand c v image) = false := by
    simp [printsRoot, hc, Image.createCommand, Image.command]
  have hcommand : deletes (Image.createCommand c v image) = false := rfl
  rcases reports_run (α := Output) (c := c) (N := N) hcommand e with
    ⟨status, output, hs, rfl, hok⟩ | ⟨f, herror, hreports⟩
  · rw [hok]
    exact .ok (failures_run hs (Or.inl hroot))
  · rw [herror]
    exact hreports

/-- Whether a root has been taken from the output of one of some runs of the tool. -/
def ToldRoot (c : Config) (root : String) (l : List (Asked Machine.interface)) : Prop :=
  ∃ command status output,
    (⟨.runTool command, .ran (.finished status output)⟩ : Asked Machine.interface) ∈ l ∧
      status.success = true ∧ printsRoot c command = true ∧ Image.root? output = some root

theorem ToldRoot.mono {root : String} {l l' : List (Asked Machine.interface)}
    (h : ToldRoot c root l) (hl : l ⊆ l') : ToldRoot c root l' := by
  obtain ⟨command, status, output, hmem, htold⟩ := h
  exact ⟨command, status, output, hl hmem, htold⟩

/-- The run that prints the root of an instance. -/
theorem reports_rootOf {command : Command} (hroot : printsRoot c command = true)
    (hcommand : deletes command = false) :
    Yields (reading m)
      (fun r _ l => Reports c N r l ∧ ∀ root, r = .ok root → ToldRoot c root l) k
      (onMachine ((Action.runTool command).take.andThen fun o => .done (Image.rootOf v o))) s := by
  rw [onMachine_andThen (Action.runTool command).take]
  refine (recorded_runTool command).andThen ?_ ?_
  · rintro k' o s' l ⟨e, he, rfl⟩
    refine yields_done ?_
    rw [List.append_nil]
    rcases reports_run (α := String) (c := c) (N := N) hcommand e with
      ⟨status, output, hs, rfl, hok⟩ | ⟨f, herror, -⟩
    · rw [hok] at he
      cases he
      unfold Image.rootOf
      cases hr : Image.root? o with
      | some root =>
        refine ⟨.ok (failures_run hs (Or.inr ⟨root, hr⟩)), ?_⟩
        rintro _ ⟨⟩
        exact ⟨command, status, o, List.mem_singleton_self _, hs, hroot, hr⟩
      | none =>
        refine ⟨.failed rfl ?_, fun _ hroot => by cases hroot⟩
        simp [failures, failure?, runFailure?, hs, hr, hroot, VolumeError.kind]
    · rw [herror] at he
      cases he
  · rintro f s' l ⟨e, he, rfl⟩
    rcases reports_run (α := String) (c := c) (N := N) hcommand e with
      ⟨status, output, hs, rfl, hok⟩ | ⟨f', herror, hreports⟩
    · rw [hok] at he
      cases he
    · rw [herror] at he
      cases he
      exact ⟨hreports, fun _ hroot => by cases hroot⟩

/-- **A root that is provided for a volume has been printed.** -/
theorem reports_provision {image : String} :
    Yields (reading m)
      (fun r _ l => Reports c N r l ∧ ∀ root, r = .ok root → ToldRoot c root l) k
      (onMachine (Image.provision c v image)) s := by
  unfold Image.provision
  cases hc : c.resolveRoot with
  | true =>
    rw [onMachine_andThen (Action.runTool (Image.createCommand c v image)).take]
    refine (faithful_createCommand (N := N) hc k s).andThen ?_ ?_
    · intro k created s l hl
      cases hl with
      | ok hl =>
        have hroot : printsRoot c (Image.mountCommand c v) = true := by
          simp [printsRoot, hc, Image.mountCommand, Image.command]
        refine (reports_rootOf (N := N) hroot rfl).mono ?_
        rintro r s' l' ⟨hl', htold⟩
        exact ⟨hl'.prepend hl, fun root hr => (htold root hr).mono (List.subset_append_right ..)⟩
    · intro e s l hl
      exact ⟨hl.error, fun _ hroot => by cases hroot⟩
  | false =>
    exact reports_rootOf (by simp [printsRoot, hc, Image.createCommand, Image.command]) rfl

/-- A run that fails is absorbed if it says that there is no such instance. -/
theorem absorb_processFailure (command status output : String) :
    Image.absorb (.error (.processFailure command status output)) =
      if Image.isNotFound output then .ok () else .error (.processFailure command status output) :=
  rfl

/-- **Only a run that has found nothing to delete is absorbed.** -/
theorem faithful_release : Faithful m c N (Image.release c v) := by
  intro k s
  unfold Image.release
  rw [onMachine_bind]
  refine ((recorded_runTool _).mono ?_).map
  rintro x s' l ⟨e, rfl, rfl⟩
  have hroot : printsRoot c (Image.deleteCommand c v) = false := by
    cases hc : c.resolveRoot <;> simp [printsRoot, hc, Image.deleteCommand, Image.command]
  have hdeletes : deletes (Image.deleteCommand c v) = true := rfl
  have hsilent : Image.isNotFound "" = false := by decide +kernel
  cases e with
  | notStarted reason =>
    change Reports c N
      (Image.absorb (.error (.processFailure _ ("failed to start: " ++ reason) ""))) _
    rw [absorb_processFailure, hsilent, if_neg Bool.false_ne_true]
    exact .failed rfl rfl
  | lost e => exact .failed rfl rfl
  | ran verdict =>
    cases verdict with
    | overdue => exact .failed rfl rfl
    | finished status output =>
      cases hs : status.success with
      | true =>
        rw [Ending.result_of_success hs]
        exact .ok (failures_run hs (Or.inl hroot))
      | false =>
        rw [Ending.result_of_not_success hs, absorb_processFailure]
        cases hn : Image.isNotFound (Text.Utf8.decodeLossy output) with
        | true =>
          rw [if_pos rfl]
          exact .ok (by simp [failures, failure?, runFailure?, hs, hn, hdeletes])
        | false =>
          rw [if_neg Bool.false_ne_true]
          exact .failed rfl (by simp [failures, failure?, runFailure?, hs, hn, VolumeError.kind])

/-- A system call reports its failure; one that is not made fails too. -/
theorem reports_perform (call : SystemCall) :
    Yields (reading m) (fun (x : Except Errno Unit) _ l =>
      Reports c (call.names.any SystemCall.hasNul = true) (x.mapError .mount) l) k
      (Machine.systemCalls (SystemCall.perform call)) s := by
  by_cases hnul : call.names.any SystemCall.hasNul = true
  · rw [SystemCall.perform_of_nul hnul]
    exact yields_done (.unmade rfl rfl hnul)
  · rw [SystemCall.perform_of_not_nul hnul]
    refine (yields_step (.system call)).mono ?_
    rintro x s' l rfl
    cases x with
    | ok _ => exact .ok rfl
    | error e => exact .failed rfl rfl

/-- What is done after a failure of the kernel does not show. -/
theorem Reports.append_internal {e : Errno} {r : Except Errno Unit}
    {l l' : List (Asked Machine.interface)} (h : Reports (α := Unit) c N (.error (.mount e)) l)
    (h' : Reports c N (r.mapError .mount) l') :
    Reports (α := Unit) c N (.error (.mount e)) (l ++ l') := by
  cases h with
  | failed hcode h => exact .failed hcode (by rw [failures_append, List.head?_append, h]; rfl)
  | unmade hkind h hnul =>
    cases r with
    | ok _ =>
      cases h' with
      | ok h' => exact .unmade hkind (by rw [failures_append, h, h']; rfl) hnul
    | error f =>
      cases h' with
      | failed hcode h' => exact .failed hcode (by rw [failures_append, h]; exact h')
      | unmade _ h' _ => exact .unmade hkind (by rw [failures_append, h, h']; rfl) hnul

/-- **A mount reports the first of its system calls that fails**, and not that an undo has failed. -/
theorem reports_mounting {source : String} {fsType : Option String} {options : List String}
    (hbind : (MountOptions.parse options).flags.holds .bind = true) :
    Yields (reading m) (fun x _ l =>
      Reports c (SystemCall.hasNul source = true ∨ SystemCall.hasNul t = true) x l) k
      (Machine.systemCalls (SystemCall.mounting source t fsType options)) s := by
  -- the names in the calls are the source and the target
  have hone : ∀ call : SystemCall, (call.names.any SystemCall.hasNul = true →
        SystemCall.hasNul source = true ∨ SystemCall.hasNul t = true) → ∀ k s,
      Yields (reading m) (fun (x : Except Errno Unit) _ l =>
        Reports c (SystemCall.hasNul source = true ∨ SystemCall.hasNul t = true)
          (x.mapError .mount) l) k (Machine.systemCalls (SystemCall.perform call)) s :=
    fun call hcall k s => (reports_perform call).mono fun _ _ _ h => h.mono hcall
  unfold SystemCall.mounting SystemCall.lift
  dsimp only
  rw [if_pos hbind, Machine.systemCalls_bind]
  refine Yields.map ?_
  rw [Machine.systemCalls_andThen]
  refine (hone _ (by simp [SystemCall.names]) k s).andThen ?_ fun e s l h => h.error
  rintro k _ s l (hl | - | -)
  split
  · refine yields_done ?_
    rw [List.append_nil]
    exact .ok hl
  · rw [Machine.systemCalls_bind]
    refine (hone _ (by simp +contextual [SystemCall.names]) k s).bind fun k x s l' h => ?_
    cases x with
    | ok _ =>
      refine yields_done ?_
      rw [List.append_nil]
      exact h.prepend hl
    | error e =>
      rw [Machine.systemCalls_bind]
      refine Yields.map ((hone _ (by simp +contextual [SystemCall.names]) k s).mono
        fun y s l'' h' => ?_)
      exact (h.append_internal h').prepend hl

theorem faithful_bindRoot {root : String} {readOnly : Bool} {extra : List String} :
    Faithful m c (SystemCall.hasNul root = true ∨ SystemCall.hasNul t = true)
      (Target.bindRoot t root readOnly extra) := by
  intro k s
  rw [onMachine_bindRoot]
  exact reports_mounting (holds_bind_rootFlags readOnly extra)

theorem faithful_publish {mode : ℕ} {root : String} {readOnly : Bool} {extra : List String} :
    Faithful m c (SystemCall.hasNul root = true ∨ SystemCall.hasNul t = true)
      (Target.publish mode t root readOnly extra) := by
  intro k s
  unfold Target.publish
  rw [onMachine_bind]
  refine recorded_inspect.bind ?_
  rintro k x s l rfl
  cases x with
  | ok mounted =>
    cases mounted with
    | true => exact yields_done (.ok rfl)
    | false => exact (faithful_bindRoot (c := c) k s).mono fun r s' l h => h.prepend rfl
  | error e =>
    have hreports : Reports c (SystemCall.hasNul root = true ∨ SystemCall.hasNul t = true)
        (Target.understood t (.error e)) [⟨.inspect t, .error e⟩] := reports_understood
    unfold Target.understood at hreports
    dsimp only at hreports ⊢
    split at hreports
    · rename_i he
      rw [if_pos he]
      cases hreports with
      | ok hl =>
        have hcreate : Faithful m c (SystemCall.hasNul root = true ∨ SystemCall.hasNul t = true)
            ((Target.create t mode).andThen fun _ => Target.bindRoot t root readOnly extra) :=
          faithful_create.andThen fun _ => faithful_bindRoot
        exact (hcreate k s).mono fun r s' l h => h.prepend hl
    · rename_i he
      rw [if_neg he]
      exact yields_done hreports.error

theorem reports_unmounting :
    Yields (reading m) (fun (x : Except VolumeError Unit) _ l =>
      Reports c (SystemCall.hasNul t = true) (x.mapError (.unmounting t)) l) k
      (Machine.systemCalls (SystemCall.unmounting t)) s := by
  unfold SystemCall.unmounting SystemCall.lift
  rw [Machine.systemCalls_bind]
  refine ((reports_perform (c := c) _).mono fun x s' l h => ?_).map
  replace h : Reports c (SystemCall.hasNul t = true) (x.mapError .mount) l :=
    h.mono (by simp [SystemCall.names])
  cases x with
  | ok _ =>
    cases h with
    | ok hl => exact .ok hl
  | error e =>
    cases h with
    | failed hcode h => exact .failed rfl h
    | unmade hkind h hnul => exact .unmade rfl h hnul

theorem faithful_unpublish : Faithful m c (SystemCall.hasNul t = true) (Target.unpublish t) := by
  refine faithful_isMounted.andThen fun mounted => ?_
  split
  · intro k s
    rw [onMachine_bind, onMachine_unmount]
    exact reports_unmounting.map
  · exact faithful_done

/-- Whether a target, or a root that has been printed for it, holds NUL. -/
def HoldsNul (c : Config) (t : String) (l : List (Asked Machine.interface)) : Prop :=
  SystemCall.hasNul t = true ∨ ∃ root, ToldRoot c root l ∧ SystemCall.hasNul root = true

theorem HoldsNul.mono {l l' : List (Asked Machine.interface)} (h : HoldsNul c t l) (hl : l ⊆ l') :
    HoldsNul c t l' :=
  h.imp_right fun ⟨root, htold, hnul⟩ => ⟨root, htold.mono hl, hnul⟩

/-- What is provided is exposed, and a failure without a failed step is due to a name. -/
theorem reports_exposing {image : String} {mode : ℕ} {readOnly : Bool} {extra : List String} :
    Yields (reading m) (fun r _ l => Reports c (HoldsNul c t l) r l) k
      (onMachine ((Image.provision c v image).andThen fun root =>
        Target.publish mode t root readOnly extra)) s := by
  rw [onMachine_andThen]
  refine (reports_provision (N := False)).andThen ?_ fun e s l h => h.1.error.mono False.elim
  rintro k root s l ⟨hl, htold⟩
  cases hl with
  | ok hl =>
    refine (faithful_publish k s).mono fun r s' l' hl' => (hl'.mono ?_).prepend hl
    rintro (hnul | hnul)
    · exact Or.inr ⟨root, (htold root rfl).mono (List.subset_append_left ..), hnul⟩
    · exact Or.inl hnul

/-- **What is done under the lock of a volume reports the failures of its steps.** -/
theorem Work.reports {work : Call Unit} (h : Work c v t work) :
    Yields (reading m) (fun r _ l => Reports c (HoldsNul c t l) r l) k (onMachine work) s := by
  cases h with
  | publish p =>
    unfold publishBody
    rw [onMachine_andThen]
    refine (faithful_isMounted (N := False) k s).andThen ?_
      fun e s l h => h.error.mono False.elim
    intro k mounted s l hl
    cases hl with
    | ok hl =>
      split
      · exact yields_done (.ok (by rw [List.append_nil]; exact hl))
      · refine reports_exposing.mono fun r s' l' hl' => (hl'.mono fun hnul => ?_).prepend hl
        exact hnul.mono (List.subset_append_right ..)
  | unpublish v t =>
    have hwork : Faithful m c (SystemCall.hasNul t = true) (unpublishBody c v t) :=
      faithful_unpublish.andThen fun _ => faithful_release
    exact (hwork k s).mono fun r s' l hl => hl.mono Or.inl

end VolumeNode.Node
