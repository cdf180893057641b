import VolumeNode.Proofs.Concurrent.Scene
import VolumeNode.Proofs.Locks.Exclusion

/-!
# Stages of a call under a lock

A call that does its work under the lock of a volume goes through stages: it looks its mutex up, waits
for it, works, frees it, and looks after the entry. A `Course` is a scene seen this way: instead of
what is left of each call it has the stage of each, with what is left of its work. `Follows` ties a
program to its stage, and `Shows` a scene to its course.

* `Shows.step`, `Shows.lift`: scene and course go step by step.
* `Course.Reaches.contest`: the lock table is used as tasks use it, so no two calls of one volume work
  at the same time (`Course.worker_eq`), and calls do not wait for ever (`Shows.ended_of_still`).
-/

namespace VolumeNode.Node

/-- Where a call is, with what is left of its work. -/
inductive Stage (I : Interface) (α : Type) where
  | entering (volume : String) (work : Program I α)
  | waiting (volume : String) (m : Ticket) (work : Program I α)
  | working (volume : String) (m : Ticket) (work : Program I α)
  | leaving (volume : String) (result : α)
  | ended (result : α)

/-- The phase of the lock in which a call is. -/
def Stage.phase {I : Interface} {α : Type} : Stage I α → Phase
  | entering .. | ended _ => .idle
  | waiting v m _ => .waiting v m
  | working v m _ => .holding v m
  | leaving v _ => .leaving v

namespace Effect

variable {I : Interface} {σ α β : Type}

/-- What a step does to the stage of its call; `ask` puts the step in front of what follows it. -/
def Leads (e : Effect σ α) (ask : (α → Program I β) → Program I β)
    (follows : α → Stage I β → Prop) (st : Stage I β) : Prop :=
  match e, ask, follows with
  | enter v, _, follows => ∃ p, st = .entering v p ∧ ∀ m, follows m (.waiting v m p)
  | acquire m, _, follows => ∃ v p, st = .waiting v m p ∧ follows () (.working v m p)
  | release m, _, follows => ∃ v r, st = .working v m (.done r) ∧ follows () (.leaving v r)
  | discard v, _, follows => ∃ r, st = .leaving v r ∧ follows () (.ended r)
  | outside _, ask, follows =>
    ∃ v m next, st = .working v m (ask next) ∧ ∀ a, follows a (.working v m (next a))

variable {e : Effect σ α} {ask : (α → Program I β) → Program I β}
  {follows : α → Stage I β → Prop} {v : String} {m : Ticket} {p : Program I β} {r : β}

theorem leads_entering (h : e.Leads ask follows (.entering v p)) (t : LockTable) (w : σ) :
    e.grants = false ∧ ∃ a, e.perform t w = some (a, (t.enter v).2, w) ∧
      follows a (.waiting v (t.enter v).1 p) := by
  cases e with
  | enter u =>
    obtain ⟨q, hq, hf⟩ := h
    cases hq
    exact ⟨rfl, _, rfl, hf _⟩
  | acquire | release | discard | outside => simp [Leads] at h

theorem leads_waiting (h : e.Leads ask follows (.waiting v m p)) (t : LockTable) (w : σ) :
    e.grants = true ∧ (t.isFree m = false → e.perform t w = none) ∧
      (t.isFree m = true → ∃ a, e.perform t w = some (a, t.acquire m, w) ∧
        follows a (.working v m p)) := by
  cases e with
  | acquire n =>
    obtain ⟨u, q, hq, hf⟩ := h
    cases hq
    refine ⟨rfl, ?_, ?_⟩
    · intro hm
      exact if_neg (by simp [hm])
    · intro hm
      exact ⟨(), if_pos hm, hf⟩
  | enter | release | discard | outside => simp [Leads] at h

theorem leads_working (h : e.Leads ask follows (.working v m p)) (t : LockTable) (w : σ) :
    e.grants = false ∧
      ((∃ r a, p = .done r ∧ e.perform t w = some (a, t.release m, w) ∧ follows a (.leaving v r)) ∨
        ∃ f next, e = .outside f ∧ p = ask next ∧ follows (f w).1 (.working v m (next (f w).1))) := by
  cases e with
  | release n =>
    obtain ⟨u, r, hq, hf⟩ := h
    cases hq
    exact ⟨rfl, Or.inl ⟨r, (), rfl, rfl, hf⟩⟩
  | outside f =>
    obtain ⟨u, n, next, hq, hf⟩ := h
    cases hq
    exact ⟨rfl, Or.inr ⟨f, next, rfl, rfl, hf _⟩⟩
  | enter | acquire | discard => simp [Leads] at h

theorem leads_leaving (h : e.Leads ask follows (.leaving v r)) (t : LockTable) (w : σ) :
    e.grants = false ∧ ∃ a, e.perform t w = some (a, t.discard v, w) ∧ follows a (.ended r) := by
  cases e with
  | discard u =>
    obtain ⟨q, hq, hf⟩ := h
    cases hq
    exact ⟨rfl, (), rfl, hf⟩
  | enter | acquire | release | outside => simp [Leads] at h

theorem not_leads_ended : ¬ e.Leads ask follows (.ended r) := by
  cases e <;> simp [Leads]

end Effect

variable {I : Interface} {σ α ι : Type}

/-- Whether a call that has taken so many steps is at a stage: each of its steps is one that the stage
allows, to the end. -/
def Follows (view : Reading I σ) : ℕ → Program I α → Stage I α → Prop
  | _, .done r, st => st = .ended r
  | k, .ask q next, st => (view k q).Leads (.ask q) (fun a => Follows view (k + 1) (next a)) st

/-- A scene with the stage of each call. -/
structure Course (I : Interface) (σ α ι : Type) where
  locks : LockTable
  world : σ
  taken : ι → ℕ
  stage : ι → Stage I α
  granted : List ι

namespace Course

/-- No call has taken a step. -/
def start (w : σ) (stage : ι → Stage I α) : Course I σ α ι :=
  ⟨.empty, w, fun _ => 0, stage, []⟩

/-- How the calls use the lock table. -/
def contest (c : Course I σ α ι) : Contest ι :=
  ⟨c.locks, fun i => (c.stage i).phase⟩

variable [DecidableEq ι]

/-- One call is a step further. -/
def move (c : Course I σ α ι) (i : ι) (st : Stage I α) (t : LockTable) (w : σ) (granted : List ι) :
    Course I σ α ι :=
  ⟨t, w, Function.update c.taken i (c.taken i + 1), Function.update c.stage i st, granted⟩

/-- One step of one call. -/
inductive Step (view : ι → Reading I σ) (c : Course I σ α ι) (i : ι) : Course I σ α ι → Prop where
  | enter {v p} (hi : c.stage i = .entering v p) :
      Step view c i
        (c.move i (.waiting v (c.locks.enter v).1 p) (c.locks.enter v).2 c.world c.granted)
  | acquire {v m p} (hi : c.stage i = .waiting v m p) (hm : c.locks.isFree m = true) :
      Step view c i
        (c.move i (.working v m p) (c.locks.acquire m) c.world (c.granted ++ [i]))
  | ask {v m q next f} (hi : c.stage i = .working v m (.ask q next))
      (hf : view i (c.taken i) q = .outside f) :
      Step view c i
        (c.move i (.working v m (next (f c.world).1)) c.locks (f c.world).2 c.granted)
  | release {v m r} (hi : c.stage i = .working v m (.done r)) :
      Step view c i (c.move i (.leaving v r) (c.locks.release m) c.world c.granted)
  | discard {v r} (hi : c.stage i = .leaving v r) :
      Step view c i (c.move i (.ended r) (c.locks.discard v) c.world c.granted)

/-- A course that steps lead to. -/
def Reaches (view : ι → Reading I σ) (c c' : Course I σ α ι) : Prop :=
  Relation.ReflTransGen (fun c c' => ∃ i, Step view c i c') c c'

variable {view : ι → Reading I σ} {c c' : Course I σ α ι} {i j : ι} {st : Stage I α} {v : String}
  {m n : Ticket} {p q : Program I α} {t : LockTable} {w : σ} {g : List ι}

@[simp] theorem stage_move_self : (c.move i st t w g).stage i = st := Function.update_self ..

theorem stage_move_of_ne (h : j ≠ i) : (c.move i st t w g).stage j = c.stage j :=
  Function.update_of_ne h ..

@[simp] theorem taken_move_self : (c.move i st t w g).taken i = c.taken i + 1 :=
  Function.update_self ..

theorem taken_move_of_ne (h : j ≠ i) : (c.move i st t w g).taken j = c.taken j :=
  Function.update_of_ne h ..

theorem contest_move : (c.move i st t w g).contest = c.contest.move i st.phase t := by
  unfold contest Contest.move
  congr 1
  funext j
  by_cases hj : j = i
  · subst hj
    simp
  · rw [stage_move_of_ne hj, Function.update_of_ne hj]

/-- A step of a call is a step of its use of the lock, or none. -/
theorem Step.contest (h : Step view c i c') :
    Contest.Step c.contest c'.contest ∨ c'.contest = c.contest := by
  cases h with
  | enter hi =>
    rw [contest_move]
    exact Or.inl (.enter _ (congrArg Stage.phase hi))
  | acquire hi hm =>
    rw [contest_move]
    exact Or.inl (.acquire (congrArg Stage.phase hi) hm)
  | @ask v m q next f hi hf =>
    -- work asks the world outside, and goes on holding the mutex
    right
    rw [contest_move]
    unfold Contest.move
    congr 1
    exact (congrArg _ (congrArg Stage.phase hi).symm).trans (Function.update_eq_self i _)
  | release hi =>
    rw [contest_move]
    exact Or.inl (.release (congrArg Stage.phase hi))
  | discard hi =>
    rw [contest_move]
    exact Or.inl (.discard (congrArg Stage.phase hi))

/-- What a call does next is determined. -/
theorem Step.unique {c'' : Course I σ α ι} (h : Step view c i c') (h' : Step view c i c'') :
    c' = c'' := by
  cases h with
  | enter hi | acquire hi | release hi | discard hi =>
    cases h' with
    | enter hi' | acquire hi' | ask hi' | release hi' | discard hi' =>
      rw [hi] at hi'
      cases hi' <;> rfl
  | ask hi hf =>
    cases h' with
    | ask hi' hf' =>
      rw [hi] at hi'
      cases hi'
      rw [hf] at hf'
      cases hf'
      rfl
    | enter hi' | acquire hi' | release hi' | discard hi' =>
      rw [hi] at hi'
      cases hi'

theorem Step.not_ended {r : α} (h : Step view c i c') : c.stage i ≠ .ended r := by
  intro hr
  cases h with
  | enter hi | acquire hi | ask hi | release hi | discard hi =>
    rw [hi] at hr
    cases hr

/-- A call that waits goes on when the mutex is free. -/
theorem Step.isFree (h : Step view c i c') (hi : c.stage i = .waiting v m p) :
    c.locks.isFree m = true := by
  cases h with
  | acquire hi' hm =>
    rw [hi] at hi'
    cases hi'
    exact hm
  | enter hi' | ask hi' | release hi' | discard hi' =>
    rw [hi] at hi'
    cases hi'

/-- **The lock table is used as tasks use it.** -/
theorem Reaches.contest {stage : ι → Stage I α}
    (h0 : ∀ i, (stage i).phase = .idle) (h : Reaches view (start w stage) c) :
    Contest.Reachable c.contest := by
  unfold Reaches at h
  induction h with
  | refl =>
    have : (start w stage : Course I σ α ι).contest = Contest.start ι :=
      congrArg (Contest.mk LockTable.empty) (funext h0)
    rw [this]
    exact .refl
  | tail _ hs ih =>
    obtain ⟨i, hs⟩ := hs
    rcases hs.contest with hs | hs
    · exact ih.tail hs
    · rwa [hs]

/-- No two calls of one volume work at the same time. -/
theorem worker_eq (h : Contest.Reachable c.contest) (hi : c.stage i = .working v m p)
    (hj : c.stage j = .working v n q) : i = j := by
  obtain ⟨users, hs⟩ := h.sound
  exact hs.holder_eq (congrArg Stage.phase hi) (congrArg Stage.phase hj)

/-- A call that waits for a mutex that is held waits for a call that works. -/
theorem exists_worker (h : Contest.Reachable c.contest) (hi : c.stage i = .waiting v m p)
    (hm : c.locks.isFree m = false) : ∃ j q, c.stage j = .working v m q := by
  obtain ⟨users, hs⟩ := h.sound
  -- the entry of the volume has the mutex, so one that is held is held by a call
  have hphase : c.contest.phase i = .waiting v m := congrArg Stage.phase hi
  have hl := hs.listed (show (c.contest.phase i).uses? = some (v, m) by rw [hphase]; rfl)
  obtain ⟨j, hj⟩ := (hs.held hl).1 (by simpa [LockTable.isFree, Course.contest] using hm)
  refine ⟨j, ?_⟩
  change (c.stage j).phase = _ at hj
  cases hst : c.stage j with
  | working u n q =>
    rw [hst] at hj
    cases hj
    exact ⟨q, rfl⟩
  | entering | waiting | leaving | ended =>
    rw [hst] at hj
    cases hj

end Course

/-- A scene and a course of the same run. -/
structure Shows (view : ι → Reading I σ) (s : Scene I σ α ι) (c : Course I σ α ι) : Prop where
  locks : s.locks = c.locks
  world : s.world = c.world
  granted : s.granted = c.granted
  taken : ∀ i, (s.calls i).taken = c.taken i
  follows : ∀ i, Follows (view i) (c.taken i) (s.calls i).rest (c.stage i)

section

variable {view : ι → Reading I σ} {s s' : Scene I σ α ι} {c c' : Course I σ α ι} {i j : ι}

theorem shows_start {w : σ} {p : ι → Program I α} {stage : ι → Stage I α}
    (h : ∀ i, Follows (view i) 0 (p i) (stage i)) :
    Shows view (Scene.start w p) (Course.start w stage) :=
  ⟨rfl, rfl, rfl, fun _ => rfl, h⟩

/-- What has ended at its stage has ended, and the other way round. -/
theorem Shows.ended_iff (h : Shows view s c) {r : α} :
    c.stage i = .ended r ↔ (s.calls i).rest = .done r := by
  have hf := h.follows i
  cases hr : (s.calls i).rest with
  | done r' =>
    rw [hr] at hf
    unfold Follows at hf
    rw [hf]
    simp
  | ask q next =>
    rw [hr] at hf
    constructor
    · intro hst
      rw [hst] at hf
      exact (Effect.not_leads_ended hf).elim
    · intro he
      cases he

theorem Shows.result?_of_ended (h : Shows view s c) {r : α} (hi : c.stage i = .ended r) :
    s.result? i = some r := by
  unfold Scene.result?
  rw [h.ended_iff.1 hi]

variable [DecidableEq ι]

/-- A step seen at its stage: with the same answer, the scene goes where the course goes. -/
theorem Shows.move (h : Shows view s c) {q : I.Question} {next : I.Answer q → Program I α}
    {a : I.Answer q} {t : LockTable} {w : σ} {st : Stage I α} {g : List ι}
    (hr : (s.calls i).rest = .ask q next)
    (hp : (view i (c.taken i) q).perform c.locks c.world = some (a, t, w))
    (hg : (if (view i (c.taken i) q).grants then c.granted ++ [i] else c.granted) = g)
    (hf : Follows (view i) (c.taken i + 1) (next a) st) :
    ∃ s', Scene.turn? view s i = some s' ∧ Shows view s' (c.move i st t w g) := by
  refine ⟨⟨t, w, Function.update s.calls i ⟨c.taken i + 1, next a⟩, g⟩, ?_, ?_⟩
  · unfold Scene.turn?
    rw [hr]
    dsimp only
    rw [h.taken, h.locks, h.world, h.granted, hp, Option.map_some, hg]
  · refine ⟨rfl, rfl, rfl, ?_, ?_⟩ <;> intro j <;> by_cases hj : j = i
    · subst hj
      simp
    · rw [Course.taken_move_of_ne hj]
      simpa [hj] using h.taken j
    · subst hj
      simpa using hf
    · rw [Course.taken_move_of_ne hj, Course.stage_move_of_ne hj]
      simpa [hj] using h.follows j

/-- What a call does next is told by its stage: it has ended, it waits for a mutex that is held, or it
takes the step of its stage. -/
theorem Shows.turn_cases (h : Shows view s c) (i : ι) :
    (∃ r, c.stage i = .ended r ∧ Scene.turn? view s i = none) ∨
      (∃ v m p, c.stage i = .waiting v m p ∧ c.locks.isFree m = false ∧
        Scene.turn? view s i = none) ∨
      ∃ s' c', Scene.turn? view s i = some s' ∧ Course.Step view c i c' ∧ Shows view s' c' := by
  have hf := h.follows i
  cases hr : (s.calls i).rest with
  | done r =>
    refine Or.inl ⟨r, h.ended_iff.2 hr, ?_⟩
    unfold Scene.turn?
    rw [hr]
  | ask q next =>
    rw [hr] at hf
    unfold Follows at hf
    cases hst : c.stage i with
    | entering v p =>
      rw [hst] at hf
      obtain ⟨hg, a, hp, hf⟩ := Effect.leads_entering hf c.locks c.world
      obtain ⟨s', ht, hs⟩ := h.move hr hp (if_neg (by simp [hg])) hf
      exact Or.inr (Or.inr ⟨s', _, ht, .enter hst, hs⟩)
    | waiting v m p =>
      rw [hst] at hf
      obtain ⟨hg, hwait, htake⟩ := Effect.leads_waiting hf c.locks c.world
      cases hm : c.locks.isFree m with
      | false =>
        refine Or.inr (Or.inl ⟨v, m, p, rfl, hm, ?_⟩)
        unfold Scene.turn?
        rw [hr]
        dsimp only
        rw [h.taken, h.locks, h.world, hwait hm, Option.map_none]
      | true =>
        obtain ⟨a, hp, hf⟩ := htake hm
        obtain ⟨s', ht, hs⟩ := h.move hr hp (if_pos hg) hf
        exact Or.inr (Or.inr ⟨s', _, ht, .acquire hst hm, hs⟩)
    | working v m p =>
      rw [hst] at hf
      obtain ⟨hg, ⟨r, a, rfl, hp, hf'⟩ | ⟨f, next', he, rfl, hf'⟩⟩ :=
        Effect.leads_working hf c.locks c.world
      · obtain ⟨s', ht, hs⟩ := h.move hr hp (if_neg (by simp [hg])) hf'
        exact Or.inr (Or.inr ⟨s', _, ht, .release hst, hs⟩)
      · have hp : (view i (c.taken i) q).perform c.locks c.world =
            some ((f c.world).1, c.locks, (f c.world).2) := by
          rw [he]
          rfl
        obtain ⟨s', ht, hs⟩ := h.move hr hp (if_neg (by simp [hg])) hf'
        exact Or.inr (Or.inr ⟨s', _, ht, .ask hst he, hs⟩)
    | leaving v r =>
      rw [hst] at hf
      obtain ⟨hg, a, hp, hf⟩ := Effect.leads_leaving hf c.locks c.world
      obtain ⟨s', ht, hs⟩ := h.move hr hp (if_neg (by simp [hg])) hf
      exact Or.inr (Or.inr ⟨s', _, ht, .discard hst, hs⟩)
    | ended r =>
      rw [hst] at hf
      exact (Effect.not_leads_ended hf).elim

/-- **A step of the scene is a step of the course.** -/
theorem Shows.step (h : Shows view s c) (hs : Scene.turn? view s i = some s') :
    ∃ c', Course.Step view c i c' ∧ Shows view s' c' := by
  obtain ⟨r, -, hn⟩ | ⟨v, m, p, -, -, hn⟩ | ⟨s'', c', ht, hc, hsh⟩ := h.turn_cases i
  · rw [hs] at hn
    cases hn
  · rw [hs] at hn
    cases hn
  · rw [hs] at ht
    cases ht
    exact ⟨c', hc, hsh⟩

/-- **A step of the course is a step of the scene.** -/
theorem Shows.lift (h : Shows view s c) (hc : Course.Step view c i c') :
    ∃ s', Scene.turn? view s i = some s' ∧ Shows view s' c' := by
  obtain ⟨r, hst, -⟩ | ⟨v, m, p, hst, hm, -⟩ | ⟨s', c'', ht, hc', hs⟩ := h.turn_cases i
  · exact (hc.not_ended hst).elim
  · rw [hc.isFree hst] at hm
    cases hm
  · exact ⟨s', ht, hc.unique hc' ▸ hs⟩

/-- **A run of the scene is a run of the course.** -/
theorem Shows.reaches {c₀ : Course I σ α ι} {s₀ : Scene I σ α ι} {order : List ι}
    (h : Shows view s₀ c₀) (hr : Scene.run? view s₀ order = some s) :
    ∃ c, Course.Reaches view c₀ c ∧ Shows view s c := by
  refine Scene.run?_induction (J := fun s => ∃ c, Course.Reaches view c₀ c ∧ Shows view s c) hr
    ⟨c₀, .refl, h⟩ ?_
  intro s i s' hs ht
  obtain ⟨c, hc, hs⟩ := hs
  obtain ⟨c', hstep, hs'⟩ := hs.step ht
  exact ⟨c', hc.tail ⟨i, hstep⟩, hs'⟩

/-- **Calls do not wait for ever**: when no call can go on, each has ended. -/
theorem Shows.ended_of_still (h : Shows view s c) (hc : Contest.Reachable c.contest)
    (hs : Scene.Still view s) (i : ι) : ∃ r, c.stage i = .ended r := by
  obtain ⟨r, hr, -⟩ | ⟨v, m, p, hst, hm, -⟩ | ⟨s', c', ht, -⟩ := h.turn_cases i
  · exact ⟨r, hr⟩
  · -- the one that holds the mutex could go on
    obtain ⟨j, q, hj⟩ := Course.exists_worker hc hst hm
    obtain ⟨r, hr, -⟩ | ⟨v', m', p', hst', -⟩ | ⟨s', c', ht, -⟩ := h.turn_cases j
    · rw [hj] at hr
      cases hr
    · rw [hj] at hst'
      cases hst'
    · rw [hs j] at ht
      cases ht
  · rw [hs i] at ht
    cases ht

end

end VolumeNode.Node
