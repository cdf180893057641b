import VolumeNode.Proofs.Concurrent.Contention
import VolumeNode.Proofs.Locks.Upkeep

/-!
# The lock table between calls

Calls of a server use the lock table as tasks do that are never dropped while they wait: a call that
waits has a step to take as soon as its mutex is free. So the table has entries only while calls go on.

* `Course.Step.patient`: a step of a call is a step of a task that is not dropped.
* `locks_eq_nil_of_quiet`: the table is empty when each call has ended or has not begun.
-/

namespace VolumeNode.Node

variable {I : Interface} {σ α ι : Type} [DecidableEq ι]

namespace Course

variable {view : ι → Reading I σ} {c c' : Course I σ α ι} {i : ι} {stage : ι → Stage I α} {w : σ}

/-- A step of a call is a step of a task that is not dropped, or none of its use of the lock. -/
theorem Step.patient (h : Step view c i c') :
    Contest.PatientStep c.contest c'.contest ∨ c'.contest = c.contest := by
  refine h.contest.imp_left fun hs => ⟨hs, ?_⟩
  intro j v m hj
  change (c.stage j).phase = _ at hj
  change (c'.stage j).phase ≠ _
  by_cases hji : j = i
  · subst hji
    cases h with
    | enter hi | acquire hi | ask hi | release hi =>
      rw [stage_move_self]
      exact Phase.noConfusion
    | discard hi =>
      rw [hi] at hj
      cases hj
  · have hstage : c'.stage j = c.stage j := by
      cases h with
      | enter | acquire | ask | release | discard => exact stage_move_of_ne hji
    rw [hstage, hj]
    exact Phase.noConfusion

/-- A call that has not begun uses no lock. -/
theorem Step.idle_of_taken (h : Step view c i c')
    (hc : ∀ j, c.taken j = 0 → (c.stage j).phase = .idle) {j : ι} (hj : c'.taken j = 0) :
    (c'.stage j).phase = .idle := by
  by_cases hji : j = i
  · subst hji
    cases h with
    | enter | acquire | ask | release | discard => simp at hj
  · cases h with
    | enter | acquire | ask | release | discard =>
      rw [stage_move_of_ne hji]
      exact hc j (by rwa [taken_move_of_ne hji] at hj)

/-- **Calls use the lock table as tasks that are not dropped**, and a call that has not begun does not
use it. -/
theorem Reaches.patient (h0 : ∀ i, (stage i).phase = .idle) (h : Reaches view (start w stage) c) :
    Contest.ReachablePatiently c.contest ∧ ∀ i, c.taken i = 0 → (c.stage i).phase = .idle := by
  unfold Reaches at h
  induction h with
  | refl =>
    have hcontest : (start w stage : Course I σ α ι).contest = Contest.start ι :=
      congrArg (Contest.mk LockTable.empty) (funext h0)
    refine ⟨?_, fun i _ => h0 i⟩
    rw [hcontest]
    exact .refl
  | tail _ hs ih =>
    obtain ⟨i, hs⟩ := hs
    refine ⟨?_, fun j hj => hs.idle_of_taken ih.2 hj⟩
    rcases hs.patient with hp | hp
    · exact ih.1.tail hp
    · rw [hp]
      exact ih.1

end Course

variable {A B : Type} {e : Surroundings A B ι} {order : List ι}
  {s : Scene Action.interface (Places A B) (Except VolumeError Unit) ι}

/-- **The lock table is empty between calls.** Let calls go on in any order, whatever volumes and
targets they name. At every point at which each call has ended or has not begun, the table has no
entry. -/
theorem locks_eq_nil_of_quiet (c : Config) (requests : ι → Request) (w₀ : Places A B)
    (h : Scene.run? e.reading (Scene.start w₀ fun i => call c (requests i)) order = some s)
    (hquiet : ∀ i, (s.calls i).taken = 0 ∨ (s.result? i).isSome) : s.locks.entries = [] := by
  obtain ⟨course, hreaches, hshows⟩ := (shows_start (follows_opening e c requests)).reaches h
  obtain ⟨hpatient, hbegun⟩ := hreaches.patient fun _ => opening_idle
  rw [hshows.locks]
  refine List.eq_nil_iff_forall_not_mem.2 fun entry hentry => ?_
  obtain ⟨m, hm⟩ := LockTable.find?_of_mem hentry
  -- the call that looks after the entry has begun and has not ended
  obtain ⟨i, hi⟩ := hpatient.attended entry.1 m hm
  have hidle : (course.stage i).phase = .idle := by
    rcases hquiet i with h0 | hend
    · exact hbegun i (hshows.taken i ▸ h0)
    · obtain ⟨r, hr⟩ := Option.isSome_iff_exists.1 hend
      unfold Scene.result? at hr
      split at hr
      · rename_i r' hrest
        rw [hshows.ended_iff.2 hrest]
        rfl
      · cases hr
  change (course.stage i).phase.volume? = _ at hi
  rw [hidle] at hi
  cases hi

end VolumeNode.Node
