import Mathlib.Data.List.TakeWhile
import VolumeNode.Execution.Supervision
import VolumeNode.Proofs.Calls.Transcript

/-!
# The verdict on a course

Whether a command has finished in time is a matter of order: it has if it has ended and its output is
closed before its time is over, and it does not matter which of the two came first. What it has written is
then all that will ever be written, since nobody holds its output any more.

* `Watch.verdict?_eq`: the verdict depends on what is seen before the deadline.
* `verdict?_eq_finished_iff`, `verdict?_eq_overdue_iff`, `verdict?_eq_none_iff`: which verdict there is.
* `supervise_classified`: the result of a command, and who is killed for it.
-/

namespace VolumeNode.Execution

open Node (Asked Yields yields_single yields_done)
open Program (World reading)

/-- What is written in a course, in order. -/
def written (es : List Event) : Output :=
  es.flatMap fun
    | .wrote octets => octets
    | _ => []

/-- Whether an event may come before another: nothing is written when nobody holds the output, and a
command ends once. -/
def mayPrecede : Event → Event → Bool
  | .closed, .wrote _ => false
  | .exited _, .exited _ => false
  | _, _ => true

/-- Whether each event may come before those after it. -/
def Ordered (es : List Event) : Prop :=
  es.Pairwise fun e later => mayPrecede e later = true

instance : DecidablePred Ordered :=
  fun _ => inferInstanceAs (Decidable (List.Pairwise _ _))

/-- What can happen to a command that has started. Its time is over only if it is limited. -/
structure IsCourse (c : Command) (es : List Event) : Prop where
  ordered : Ordered es
  limited : .deadline ∈ es → c.limit ≠ none

/-- What happens before the time of a command is over. -/
def early (es : List Event) : List Event :=
  es.takeWhile (· != .deadline)

/-- Whether a command has ended and its output is closed. -/
def Over (es : List Event) (s : ExitStatus) : Prop :=
  .closed ∈ es ∧ .exited s ∈ es

namespace Watch

/-- Whether an event may come after what has been seen. -/
def admits (w : Watch) : Event → Bool
  | .wrote _ => !w.closed
  | .exited _ => w.status.isNone
  | _ => true

variable {w : Watch} {e later : Event} {es : List Event} {v : Verdict}

/-- A command is done when its output is closed and it has ended. -/
theorem done?_eq_some_iff :
    w.done? = some v ↔ w.closed = true ∧ ∃ s, w.status = some s ∧ v = .finished s w.output := by
  unfold done?
  cases w.closed <;> cases w.status <;> simp [eq_comm]

/-- Whether a course may go on like this after what has been seen. -/
structure Expects (w : Watch) (es : List Event) : Prop where
  ordered : Ordered es
  admits : ∀ e ∈ es, w.admits e = true

theorem expects_start (h : Ordered es) : ({} : Watch).Expects es :=
  ⟨h, fun e _ => by cases e <;> rfl⟩

theorem Expects.sublist {es' : List Event} (h : w.Expects es) (hsub : es'.Sublist es) :
    w.Expects es' :=
  ⟨h.ordered.sublist hsub, fun e he => h.admits e (hsub.subset he)⟩

/-- A course goes on as is expected after each event of it. -/
theorem Expects.see (h : w.Expects (e :: es)) : w.admits e = true ∧ (w.see e).Expects es := by
  obtain ⟨hfirst, hrest⟩ := List.pairwise_cons.1 h.ordered
  obtain ⟨he, hothers⟩ := List.forall_mem_cons.1 h.admits
  refine ⟨he, hrest, fun later hlater => ?_⟩
  have hadmits := hothers later hlater
  have hmay := hfirst later hlater
  cases e <;> cases later <;> simp_all [Watch.admits, Watch.see, mayPrecede]

/-- What is done stays done. -/
theorem done?_see (hd : w.done? = some v) (he : w.admits e = true) : (w.see e).done? = some v := by
  obtain ⟨hclosed, s, hs, rfl⟩ := done?_eq_some_iff.1 hd
  refine done?_eq_some_iff.2 ?_
  cases e with
  | wrote octets => simp [admits, hclosed] at he
  | closed => exact ⟨rfl, s, hs, rfl⟩
  | exited s => simp [admits, hs] at he
  | deadline => exact ⟨hclosed, s, hs, rfl⟩

theorem done?_foldl_see (hd : w.done? = some v) (h : w.Expects es) :
    (es.foldl see w).done? = some v := by
  induction es generalizing w with
  | nil => exact hd
  | cons e rest ih =>
    obtain ⟨he, hrest⟩ := h.see
    exact ih (done?_see hd he) hrest

/-- **The verdict depends on what is seen before the deadline.** -/
theorem verdict?_eq (h : w.Expects es) :
    w.verdict? es =
      ((early es).foldl see w).done?.or (if .deadline ∈ es then some .overdue else none) := by
  induction es generalizing w with
  | nil => simp [verdict?, early]
  | cons e rest ih =>
    cases hd : w.done? with
    | some v =>
      -- the command is done, and what is still seen of it changes nothing
      have hearly : w.Expects (early (e :: rest)) := h.sublist (List.takeWhile_sublist _)
      rw [verdict?_of_done hd, done?_foldl_see hd hearly]
      rfl
    | none =>
      rw [verdict?, hd]
      dsimp only
      by_cases hdeadline : e = .deadline
      · simp [hdeadline, early, hd]
      · rw [if_neg hdeadline, ih h.see.2]
        simp [early, hdeadline, Ne.symm hdeadline]

theorem closed_foldl_see : (es.foldl see w).closed = true ↔ w.closed = true ∨ .closed ∈ es := by
  induction es generalizing w with
  | nil => simp
  | cons e rest ih =>
    rw [List.foldl_cons, ih]
    cases e <;> simp [see]

/-- Everything that is seen to be written is kept in order. -/
theorem output_foldl_see : (es.foldl see w).output = w.output ++ written es := by
  induction es generalizing w with
  | nil => simp [written]
  | cons e rest ih =>
    rw [List.foldl_cons, ih]
    cases e <;> simp [see, output, written]

theorem status_foldl_see {s : ExitStatus} (h : w.Expects es) :
    (es.foldl see w).status = some s ↔ w.status = some s ∨ .exited s ∈ es := by
  induction es generalizing w with
  | nil => simp
  | cons e rest ih =>
    obtain ⟨he, hrest⟩ := h.see
    rw [List.foldl_cons, ih hrest]
    cases e with
    | exited s' =>
      -- a command ends once, so that it has not ended before
      have hnone : w.status = none := by simpa [Watch.admits] using he
      simp [Watch.see, hnone, eq_comm]
    | _ => simp [Watch.see]

end Watch

section

variable {es : List Event} {s : ExitStatus} {output : Output}

theorem early_sublist : (early es).Sublist es :=
  List.takeWhile_sublist _

/-- Nothing is written after the output is closed. -/
theorem written_early (h : Ordered es) (hclosed : .closed ∈ early es) :
    written (early es) = written es := by
  have hes : early es ++ es.dropWhile (· != .deadline) = es := List.takeWhile_append_dropWhile
  rw [← hes] at h
  have hlate : written (es.dropWhile (· != .deadline)) = [] := by
    refine List.flatMap_eq_nil_iff.2 fun e he => ?_
    have hmay := (List.pairwise_append.1 h).2.2 _ hclosed e he
    cases e with
    | wrote octets => simp [mayPrecede] at hmay
    | _ => rfl
  calc written (early es) = written (early es) ++ written (es.dropWhile (· != .deadline)) := by
        rw [hlate, List.append_nil]
    _ = written (early es ++ es.dropWhile (· != .deadline)) := List.flatMap_append.symm
    _ = written es := by rw [hes]

/-- A course without a deadline is early as a whole. -/
theorem early_eq_self (h : .deadline ∉ es) : early es = es := by
  refine List.takeWhile_eq_self_iff.2 fun e he => ?_
  have hne : e ≠ .deadline := fun heq => h (heq ▸ he)
  simpa using hne

/-- What has been done when the time is over. -/
theorem done?_early (h : Ordered es) :
    ((early es).foldl Watch.see {}).done? = some (.finished s output) ↔
      Over (early es) s ∧ output = written es := by
  have hstatus (s : ExitStatus) :
      ((early es).foldl Watch.see {}).status = some s ↔ .exited s ∈ early es := by
    rw [Watch.status_foldl_see (Watch.expects_start (h.sublist early_sublist))]
    simp
  rw [Watch.done?_eq_some_iff, Watch.closed_foldl_see, Watch.output_foldl_see]
  constructor
  · rintro ⟨hclosed | hclosed, s', hs', heq⟩
    · cases hclosed
    · obtain ⟨rfl, rfl⟩ := Verdict.finished.inj heq
      exact ⟨⟨hclosed, (hstatus s).1 hs'⟩, written_early h hclosed⟩
  · rintro ⟨⟨hclosed, hs⟩, rfl⟩
    refine ⟨Or.inr hclosed, s, (hstatus s).2 hs, ?_⟩
    rw [written_early h hclosed]
    rfl

theorem done?_early_eq_none_iff (h : Ordered es) :
    ((early es).foldl Watch.see {}).done? = none ↔ ¬ ∃ s, Over (early es) s := by
  constructor
  · rintro hnone ⟨s, hs⟩
    cases hnone.symm.trans ((done?_early h).2 ⟨hs, rfl⟩)
  · intro hnot
    cases hd : ((early es).foldl Watch.see {}).done? with
    | none => rfl
    | some v =>
      obtain ⟨-, s, -, rfl⟩ := Watch.done?_eq_some_iff.1 hd
      exact absurd ⟨s, ((done?_early h).1 hd).1⟩ hnot

/-- **A command has finished if it has ended and its output is closed before its time is over.** -/
theorem verdict?_eq_finished_iff (h : Ordered es) :
    ({} : Watch).verdict? es = some (.finished s output) ↔
      Over (early es) s ∧ output = written es := by
  rw [Watch.verdict?_eq (Watch.expects_start h), ← done?_early h]
  cases ((early es).foldl Watch.see {}).done? with
  | some v => rfl
  | none =>
    rw [Option.none_or]
    split <;> simp

/-- **A command is overdue if its time is over before that.** -/
theorem verdict?_eq_overdue_iff (h : Ordered es) :
    ({} : Watch).verdict? es = some .overdue ↔ .deadline ∈ es ∧ ¬ ∃ s, Over (early es) s := by
  rw [Watch.verdict?_eq (Watch.expects_start h), ← done?_early_eq_none_iff h]
  cases hd : ((early es).foldl Watch.see {}).done? with
  | some v =>
    obtain ⟨-, s, -, rfl⟩ := Watch.done?_eq_some_iff.1 hd
    simp
  | none => simp

/-- **Otherwise it goes on.** -/
theorem verdict?_eq_none_iff (h : Ordered es) :
    ({} : Watch).verdict? es = none ↔ .deadline ∉ es ∧ ¬ ∃ s, Over es s := by
  rw [Watch.verdict?_eq (Watch.expects_start h), Option.or_eq_none_iff,
    done?_early_eq_none_iff h, and_comm]
  refine (and_congr_left' (by simp)).trans (and_congr_right fun hdeadline => ?_)
  rw [early_eq_self hdeadline]

end

/-- How a command is killed, with the answers of the kernel: with its group, or by itself if that fails. -/
inductive Killed : List (Asked Supervision.interface) → Prop where
  | group : Killed [⟨.killGroup, .ok ()⟩]
  | command (e : Errno) (x : Except Errno Unit) : Killed [⟨.killGroup, .error e⟩, ⟨.killCommand, x⟩]

/-- How an overdue command is brought to its end: it is killed and waited for, and killed once more when it
is given up because it has not ended even then. -/
inductive Terminated : List (Asked Supervision.interface) → Prop where
  | ended {l} (h : Killed l) : Terminated (l ++ [⟨.reap Supervision.killGrace, true⟩])
  | lingering {l} (h : Killed l) (x : Except Errno Unit) :
      Terminated (l ++ [⟨.reap Supervision.killGrace, false⟩, ⟨.killCommand, x⟩])

section

variable {σ : Type} {w : World Supervision.interface σ} {k : ℕ} {s : σ} {c : Command}

/-- A question is recorded with its answer. -/
theorem yields_take (q : Supervision) :
    Yields (reading w) (fun x _ l => l = [(⟨q, x⟩ : Asked Supervision.interface)]) k q.take s :=
  yields_single (reading w) k q rfl rfl

/-- A command is killed by itself if that is still to be done. -/
theorem yields_killUnless (done : Bool) :
    Yields (reading w) (fun _ _ l => done = true ∧ l = [] ∨
      done = false ∧ ∃ x, l = [(⟨.killCommand, x⟩ : Asked Supervision.interface)]) k
      (Supervision.killUnless done) s := by
  cases done with
  | true => exact yields_done (Or.inl ⟨rfl, rfl⟩)
  | false =>
    refine Yields.bind (yields_take .killCommand) ?_
    rintro k x s _ rfl
    exact yields_done (Or.inr ⟨rfl, x, rfl⟩)

/-- **A command is killed with its group**, or by itself if that fails, and waited for. -/
theorem terminated_terminate :
    Yields (reading w) (fun _ _ l => Terminated l) k Supervision.terminate s := by
  refine (yields_take .killGroup).bind ?_
  rintro k killed s _ rfl
  refine (yields_killUnless killed.isOk).bind ?_
  rintro k - s l hl
  have hkilled : Killed (⟨.killGroup, killed⟩ :: l) := by
    match killed, hl with
    | .ok (), Or.inl ⟨_, hl⟩ => exact hl ▸ .group
    | .error e, Or.inr ⟨_, x, hl⟩ => exact hl ▸ .command e x
  refine (yields_take (.reap Supervision.killGrace)).bind ?_
  rintro k ended s _ rfl
  refine (yields_killUnless ended).mono ?_
  rintro - s l' (⟨rfl, rfl⟩ | ⟨rfl, x, rfl⟩)
  · exact .ended hkilled
  · exact .lingering hkilled x

/-- A command is killed when it is overdue. -/
theorem terminated_supervise {es : List Event} (h : ({} : Watch).verdict? es = some .overdue) (s : σ) :
    Terminated ((supervise c es).transcript w s) := by
  refine Program.yields_transcript (k := 0) (Q := fun _ _ l => Terminated l) ?_
  unfold supervise
  rw [h]
  exact Yields.map (Yields.map terminated_terminate)

/-- And nobody is killed otherwise. -/
theorem transcript_supervise {es : List Event} (h : ({} : Watch).verdict? es ≠ some .overdue) (s : σ) :
    (supervise c es).transcript w s = [] := by
  unfold supervise
  cases hv : ({} : Watch).verdict? es with
  | none => rfl
  | some v =>
    cases v with
    | finished => rfl
    | overdue => exact absurd hv h

end

namespace Verdict

variable {c : Command} {v : Verdict} {output : Output}

theorem result_eq_ok_iff :
    v.result c = .ok output ↔ ∃ s, v = .finished s output ∧ s.success = true := by
  cases v with
  | finished s o => cases h : s.success <;> simp [result, h]
  | overdue => simp [result]

theorem result_eq_processFailure_iff {line text output : String} :
    v.result c = .error (.processFailure line text output) ↔
      ∃ s octets, v = .finished s octets ∧ s.success = false ∧ line = c.line ∧ text = s.text ∧
        output = Text.Utf8.decodeLossy octets := by
  cases v with
  | finished s o =>
    cases h : s.success with
    | true => simp [result, h]
    | false =>
      simp only [result, h]
      constructor
      · rintro ⟨⟩
        exact ⟨s, o, rfl, h, rfl, rfl, rfl⟩
      · rintro ⟨_, _, heq, -, rfl, rfl, rfl⟩
        obtain ⟨rfl, rfl⟩ := finished.inj heq
        rfl
  | overdue => simp [result]

theorem result_eq_timeout_iff {line : String} {limit : Duration} :
    v.result c = .error (.timeout line limit) ↔
      v = .overdue ∧ line = c.line ∧ limit = c.limit.getD .zero := by
  cases v with
  | finished s o => cases h : s.success <;> simp [result, h]
  | overdue => simp [result, eq_comm]

end Verdict

section

variable {σ : Type} {w : World Supervision.interface σ} {s : σ} {c : Command} {es : List Event}

/-- A command succeeds if it has finished in time with success. -/
theorem supervise_eq_ok_iff (h : Ordered es) {output : Output} :
    ((supervise c es).run w s).1 = some (.ok output) ↔
      ∃ status, Over (early es) status ∧ status.success = true ∧ output = written es := by
  rw [run_supervise, Option.map_eq_some_iff]
  simp only [Verdict.result_eq_ok_iff]
  constructor
  · rintro ⟨_, hv, status, rfl, hsuccess⟩
    obtain ⟨hover, houtput⟩ := (verdict?_eq_finished_iff h).1 hv
    exact ⟨status, hover, hsuccess, houtput⟩
  · rintro ⟨status, hover, hsuccess, houtput⟩
    exact ⟨_, (verdict?_eq_finished_iff h).2 ⟨hover, houtput⟩, status, rfl, hsuccess⟩

/-- It fails if it has finished in time without. -/
theorem supervise_eq_processFailure_iff (h : Ordered es) {line text output : String} :
    ((supervise c es).run w s).1 = some (.error (.processFailure line text output)) ↔
      ∃ status, Over (early es) status ∧ status.success = false ∧ line = c.line ∧
        text = status.text ∧ output = Text.Utf8.decodeLossy (written es) := by
  rw [run_supervise, Option.map_eq_some_iff]
  simp only [Verdict.result_eq_processFailure_iff]
  constructor
  · rintro ⟨_, hv, status, octets, rfl, hfails, hline, htext, houtput⟩
    obtain ⟨hover, rfl⟩ := (verdict?_eq_finished_iff h).1 hv
    exact ⟨status, hover, hfails, hline, htext, houtput⟩
  · rintro ⟨status, hover, hfails, hline, htext, houtput⟩
    exact ⟨_, (verdict?_eq_finished_iff h).2 ⟨hover, rfl⟩, status, _, rfl, hfails, hline, htext,
      houtput⟩

/-- It runs past its limit if it is overdue. -/
theorem supervise_eq_timeout_iff {line : String} {limit : Duration} :
    ((supervise c es).run w s).1 = some (.error (.timeout line limit)) ↔
      ({} : Watch).verdict? es = some .overdue ∧ line = c.line ∧ limit = c.limit.getD .zero := by
  rw [run_supervise, Option.map_eq_some_iff]
  simp only [Verdict.result_eq_timeout_iff]
  constructor
  · rintro ⟨_, hv, rfl, hrest⟩
    exact ⟨hv, hrest⟩
  · rintro ⟨hv, hrest⟩
    exact ⟨_, hv, rfl, hrest⟩

/-- Only a command with a limit is overdue. -/
theorem IsCourse.limit_eq (h : IsCourse c es) (hv : ({} : Watch).verdict? es = some .overdue)
    {limit : Duration} : limit = c.limit.getD .zero ↔ c.limit = some limit := by
  obtain ⟨hdeadline, -⟩ := (verdict?_eq_overdue_iff h.ordered).1 hv
  obtain ⟨l, hl⟩ := Option.ne_none_iff_exists'.1 (h.limited hdeadline)
  rw [hl, Option.getD_some, Option.some_inj, eq_comm]

end

/-- **How a command ends**, whatever the order of what happens to it. It has finished if it has ended and its
output is closed before its time is over, and then its status says whether that is a success. If its time
is over before that it is killed, and nobody is killed otherwise. Without a limit it is waited for. -/
theorem supervise_classified {σ : Type} (c : Command) {es : List Event} (h : IsCourse c es)
    (w : World Supervision.interface σ) (s : σ) :
    let outcome := ((supervise c es).run w s).1
    let asked := (supervise c es).transcript w s
    (∀ output, outcome = some (.ok output) ↔
        ∃ status, Over (early es) status ∧ status.success = true ∧ output = written es) ∧
      (∀ line text output, outcome = some (.error (.processFailure line text output)) ↔
        ∃ status, Over (early es) status ∧ status.success = false ∧ line = c.line ∧
          text = status.text ∧ output = Text.Utf8.decodeLossy (written es)) ∧
      (∀ line limit, outcome = some (.error (.timeout line limit)) ↔
        (.deadline ∈ es ∧ ¬ ∃ status, Over (early es) status) ∧ line = c.line ∧
          c.limit = some limit) ∧
      (outcome = none ↔ .deadline ∉ es ∧ ¬ ∃ status, Over es status) ∧
      (∀ line limit, outcome = some (.error (.timeout line limit)) → Terminated asked) ∧
      ((∀ line limit, outcome ≠ some (.error (.timeout line limit))) → asked = []) := by
  intro outcome asked
  refine ⟨fun _ => supervise_eq_ok_iff h.ordered, fun _ _ _ => supervise_eq_processFailure_iff h.ordered,
    fun line limit => ?_, ?_, fun line limit hout => ?_, fun hnot => ?_⟩
  · rw [← verdict?_eq_overdue_iff h.ordered]
    exact supervise_eq_timeout_iff.trans
      (and_congr_right fun hv => and_congr_right fun _ => h.limit_eq hv)
  · rw [← verdict?_eq_none_iff h.ordered, show outcome = _ from run_supervise w c es s,
      Option.map_eq_none_iff]
  · exact terminated_supervise (supervise_eq_timeout_iff.1 hout).1 s
  · refine transcript_supervise (fun hv => ?_) s
    exact hnot _ _ (supervise_eq_timeout_iff.2 ⟨hv, rfl, rfl⟩)

/-- The kernel kills what it is told to. -/
def obedient : World Supervision.interface Unit
  | .killGroup, s | .killCommand, s => (.ok (), s)
  | .reap _, s => (true, s)

/-- A command that has ended is overdue nevertheless while a child of it holds its output. -/
theorem supervise_classified_held :
    let c : Command := ⟨"/bin/sh", ["-c", "sleep 41 & exit 0"], some ⟨0, 500000000⟩⟩
    let es : List Event := [.wrote [0x61], .exited (.code 0), .deadline, .closed]
    IsCourse c es ∧
      ((supervise c es).run obedient ()).1 = some (.error (.timeout c.line ⟨0, 500000000⟩)) ∧
      Terminated ((supervise c es).transcript obedient ()) := by
  intro c es
  have hcourse : IsCourse c es := ⟨by decide, fun _ => nofun⟩
  obtain ⟨-, -, htimeout, -, hkilled, -⟩ :=
    supervise_classified c hcourse obedient ()
  have hout := (htimeout c.line ⟨0, 500000000⟩).2
    ⟨⟨by decide, fun ⟨_, hclosed, _⟩ => absurd hclosed (by decide)⟩, rfl, rfl⟩
  exact ⟨hcourse, hout, hkilled _ _ hout⟩

end VolumeNode.Execution
