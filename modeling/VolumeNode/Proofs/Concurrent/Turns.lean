import VolumeNode.Host.Tasks
import VolumeNode.Proofs.Concurrent.Calls

/-!
# Requests that are handled at the same time

The turns in which a host takes calls that go on at the same time make up one of the runs that calls
can have there.

* `Plays.turn`: a turn is steps of one call.
* `Kept.advance`: after each turn every call that has not ended can go on, or waits for a run of the
  tool or for a mutex that is taken.
* `handleAll_eq`: requests that are handled at the same time have the responses, and leave the host, of
  a run in which all their calls end.
-/

namespace VolumeNode.Host

open Node

/-- The host with another lock table. -/
def withLocks (h : Host) (t : LockTable) : Host :=
  { h with locks := t }

/-- What the steps of a call do on a host whose lock table is kept apart. -/
def hostReading : Reading Step.interface Host
  | _, .enter v => .enter v
  | _, .acquire m => .acquire m
  | _, .release m => .release m
  | _, .discard v => .discard v
  | _, .inspect t => .outside (·.inspect t)
  | _, .create t mode => .outside (answer (.create t mode))
  | _, .system c => .outside (·.system c)
  | _, .runTool c => .outside (·.runTool c)

theorem readsHostLocks_host : ReadsHostLocks hostReading where
  enter _ _ := rfl
  acquire _ _ := rfl
  release _ _ := rfl
  discard _ _ := rfl

theorem inspect_withLocks (h : Host) (t : LockTable) (target : String) :
    (h.withLocks t).inspect target =
      ((h.inspect target).1, (h.inspect target).2.withLocks t) := by
  unfold inspect withLocks
  dsimp only
  cases h.script.inspections with
  | nil => rfl
  | cons i rest => cases i <;> rfl

theorem runTool_withLocks (h : Host) (t : LockTable) (c : Command) :
    (h.withLocks t).runTool c = ((h.runTool c).1, (h.runTool c).2.withLocks t) := by
  unfold runTool withLocks
  dsimp only
  cases h.runner with
  | processes => rfl
  | rehearsed => cases h.script.replies <;> rfl

/-- Whether a step does not wait for a mutex. -/
def Free (h : Host) (q : Step) : Prop :=
  ∀ m, q = .acquire m → h.locks.isFree m = true

/-- A host answers a step as it does when its lock table is kept apart. -/
theorem perform_hostReading {q : Step} {t : LockTable} {w : Host} (hq : (w.withLocks t).Free q)
    (k : ℕ) :
    ∃ t' w', (hostReading k q).perform t w = some ((answer q (w.withLocks t)).1, t', w') ∧
      (answer q (w.withLocks t)).2 = w'.withLocks t' := by
  cases q with
  | enter v => exact ⟨(t.enter v).2, w, rfl, rfl⟩
  | acquire m => exact ⟨t.acquire m, w, if_pos (hq m rfl), rfl⟩
  | release m => exact ⟨t.release m, w, rfl, rfl⟩
  | discard v => exact ⟨t.discard v, w, rfl, rfl⟩
  | create target mode => exact ⟨t, _, rfl, rfl⟩
  | system c => exact ⟨t, _, rfl, rfl⟩
  | inspect target =>
    have ha : answer (.inspect target) (w.withLocks t) = _ := inspect_withLocks w t target
    rw [ha]
    exact ⟨t, _, rfl, rfl⟩
  | runTool c =>
    have ha : answer (.runTool c) (w.withLocks t) = _ := runTool_withLocks w t c
    rw [ha]
    exact ⟨t, _, rfl, rfl⟩

variable {n : ℕ} {α : Type} {h : Host} {i j : Fin n} {k : ℕ}
  {start : Scene Step.interface Host α (Fin n)} {calls : Fin n → Program Step.interface α}

/-- Whether `k` steps of some run lead to a host and to what is left of each call. -/
def Plays (start : Scene Step.interface Host α (Fin n)) (k : ℕ) (h : Host)
    (calls : Fin n → Program Step.interface α) : Prop :=
  ∃ order s, order.length = k ∧ Scene.run? (fun _ => hostReading) start order = some s ∧
    h = s.world.withLocks s.locks ∧ ∀ i, (s.calls i).rest = calls i

/-- **One step of one call.** -/
theorem Plays.step (hs : Plays start k h calls) {q : Step}
    {next : q.Answer → Program Step.interface α}
    (hi : calls i = .ask (I := Step.interface) q next) (hq : h.Free q) :
    Plays start (k + 1) (answer q h).2 (Function.update calls i (next (answer q h).1)) := by
  obtain ⟨order, s, hk, hrun, rfl, hcalls⟩ := hs
  obtain ⟨t, w, hp, hw⟩ := perform_hostReading hq (s.calls i).taken
  obtain ⟨s', hturn, hhost, hcalls'⟩ : ∃ s', Scene.turn? (fun _ => hostReading) s i = some s' ∧
      (answer q (s.world.withLocks s.locks)).2 = s'.world.withLocks s'.locks ∧
      s'.calls = Function.update s.calls i ⟨(s.calls i).taken + 1,
        next (answer q (s.world.withLocks s.locks)).1⟩ := by
    unfold Scene.turn?
    rw [hcalls i, hi]
    dsimp only
    rw [hp]
    exact ⟨_, rfl, hw, rfl⟩
  refine ⟨order ++ [i], s', by simp [hk], ?_, hhost, ?_⟩
  · rw [Scene.run?_append, hrun, Option.bind_some, Scene.run?, hturn]
    rfl
  · intro j
    rw [hcalls']
    by_cases hj : j = i
    · subst hj
      simp
    · simp [hj, hcalls j]

/-- A call that goes on takes steps. -/
theorem Plays.proceed {p : Program Step.interface α} (hs : Plays start k h calls)
    (hi : calls i = p) :
    ∃ k', k ≤ k' ∧
      Plays start k' (Host.proceed p h).2 (Function.update calls i (Host.proceed p h).1) := by
  induction p generalizing k h calls with
  | done a =>
    refine ⟨k, le_rfl, ?_⟩
    unfold Host.proceed
    rwa [← hi, Function.update_eq_self]
  | ask q next ih =>
    unfold Host.proceed
    by_cases hq : h.pauses q
    · rw [if_pos hq, ← hi, Function.update_eq_self]
      exact ⟨k, le_rfl, hs⟩
    · rw [if_neg hq]
      have hfree : h.Free q := by
        rintro m rfl
        simpa [pauses] using hq
      obtain ⟨k', hk, hs'⟩ := ih (answer q h).1 (hs.step hi hfree) (Function.update_self ..)
      rw [Function.update_idem] at hs'
      exact ⟨k', by omega, hs'⟩

/-- Whether a call waits for a mutex that is taken. -/
def Waits (h : Host) (p : Program Step.interface α) : Prop :=
  ∃ m next, p = .ask (I := Step.interface) (.acquire m) next ∧ h.locks.isFree m = false

/-- A call that has its turn has ended, waits, or takes a step and goes on from there. -/
theorem turn_cases (h : Host) (p : Program Step.interface α) :
    ((∃ a, p = .done a) ∨ h.Waits p) ∧ turn p h = (p, h) ∨
      ∃ q next, p = .ask q next ∧ h.Free q ∧
        turn p h = Host.proceed (next (answer q h).1) (answer q h).2 := by
  cases p with
  | done a => exact Or.inl ⟨Or.inl ⟨a, rfl⟩, rfl⟩
  | ask q next =>
    cases q with
    | acquire m =>
      cases hm : h.locks.isFree m with
      | false =>
        refine Or.inl ⟨Or.inr ⟨m, next, rfl, hm⟩, ?_⟩
        simp [turn, Host.proceed, pauses, hm]
      | true =>
        refine Or.inr ⟨_, next, rfl, ?_, ?_⟩
        · rintro m' hm'
          cases hm'
          exact hm
        · simp [turn, Host.proceed, pauses, hm]
    | enter | release | discard | inspect | runTool | create | system =>
      exact Or.inr ⟨_, next, rfl, nofun, rfl⟩

/-- **A turn is steps of one call**, at least one unless the call has ended or waits. -/
theorem Plays.turn (hs : Plays start k h calls) (i : Fin n) :
    ∃ k', k ≤ k' ∧
      Plays start k' (turn (calls i) h).2 (Function.update calls i (turn (calls i) h).1) ∧
      (k < k' ∨ (∃ a, (turn (calls i) h).1 = .done a) ∨ h.Waits (turn (calls i) h).1) := by
  rcases turn_cases h (calls i) with ⟨hi, hturn⟩ | ⟨q, next, hi, hq, hturn⟩
  · rw [hturn]
    exact ⟨k, le_rfl, by rwa [Function.update_eq_self], Or.inr hi⟩
  · obtain ⟨k', hk, hs'⟩ := (hs.step hi hq).proceed (Function.update_self ..)
    rw [Function.update_idem] at hs'
    rw [hturn]
    exact ⟨k', by omega, hs', Or.inl (by omega)⟩

namespace Tasks

variable {s : Tasks n α} {l : List (Fin n)}

/-- A call that is about to take a mutex. -/
def AtMutex (s : Tasks n α) (i : Fin n) : Prop :=
  ∃ m next, s.calls i = .ask (I := Step.interface) (.acquire m) next

/-- Where a call is, while those in `l` are still to be looked at. -/
inductive Placed (s : Tasks n α) (l : List (Fin n)) (i : Fin n) : Prop where
  | ended {a : α} (h : s.calls i = .done a)
  | ready (h : i ∈ s.ready)
  | running (h : i ∈ s.running)
  | blocked (h : i ∈ s.blocked)
  | unseen (h : i ∈ l) (hat : s.AtMutex i)

theorem Placed.of_cons (h : Placed s (i :: l) j) : j = i ∧ s.AtMutex i ∨ Placed s l j := by
  cases h with
  | ended h => exact Or.inr (.ended h)
  | ready h => exact Or.inr (.ready h)
  | running h => exact Or.inr (.running h)
  | blocked h => exact Or.inr (.blocked h)
  | unseen h hat =>
    rcases List.mem_cons.1 h with rfl | h
    · exact Or.inl ⟨rfl, hat⟩
    · exact Or.inr (.unseen h hat)

/-- A call that is as it was stays where it is. -/
theorem Placed.mono {s' : Tasks n α} (h : Placed s l i) (hcalls : s'.calls i = s.calls i)
    (hready : i ∈ s.ready → i ∈ s'.ready) (hrunning : s.running = s'.running)
    (hblocked : i ∈ s.blocked → i ∈ s'.blocked) : Placed s' l i := by
  cases h with
  | ended h => exact .ended (hcalls.trans h)
  | ready h => exact .ready (hready h)
  | running h => exact .running (hrunning ▸ h)
  | blocked h => exact .blocked (hblocked h)
  | unseen h hat =>
    obtain ⟨m, next, hat⟩ := hat
    exact .unseen h ⟨m, next, hcalls.trans hat⟩

/-- What turns keep, while the calls in `l` are still to be looked at: no call is lost, and one that
waits for a mutex does so because the mutex is taken. -/
structure Kept (start : Scene Step.interface Host α (Fin n)) (k : ℕ) (s : Tasks n α)
    (l : List (Fin n)) : Prop where
  plays : Plays start k s.host s.calls
  placed : ∀ i, Placed s l i
  waits : ∀ i ∈ s.blocked, s.host.Waits (s.calls i)

/-- What is left to be done that is not a step. A step is worth three: a call that has taken one may
have begun a run of the tool, from which it comes back to have a turn. -/
def debt (s : Tasks n α) : ℕ :=
  s.ready.length + 2 * s.running.length

theorem put_calls (i : Fin n) (x : Program Step.interface α × Host) :
    (s.put i x).calls = Function.update s.calls i x.1 := by
  funext j
  by_cases hj : j = i
  · subst hj
    simp [put]
  · simp [put, hj]

theorem put_calls_of_ne {x : Program Step.interface α × Host} (h : j ≠ i) :
    (s.put i x).calls j = s.calls j := by
  rw [put_calls, Function.update_of_ne h]

/-- A mutex that is taken stays so when another is. -/
theorem isFree_acquire {t : LockTable} {m m' : Ticket} (h : t.isFree m = false) :
    (t.acquire m').isFree m = false := by
  unfold LockTable.isFree LockTable.acquire LockTable.update at *
  dsimp only
  split <;> simp_all

/-- A call that waits gets the mutex that is free. -/
theorem Kept.take (hs : Kept start k s (i :: l)) {m : Ticket}
    {next : Unit → Program Step.interface α}
    (hi : s.calls i = .ask (I := Step.interface) (.acquire m) next)
    (hm : s.host.locks.isFree m = true) :
    Kept start (k + 1)
      { s.put i (next (), { s.host with locks := s.host.locks.acquire m }) with
        ready := s.ready ++ [i] } l where
  plays := by
    rw [show (_ : Tasks n α).calls = _ from put_calls i _]
    exact hs.plays.step hi (by rintro _ ⟨⟩; exact hm)
  placed j := by
    by_cases hj : j = i
    · exact .ready (by simp [hj])
    · rcases (hs.placed j).of_cons with ⟨hji, -⟩ | hplaced
      · exact absurd hji hj
      · exact hplaced.mono (put_calls_of_ne hj) (List.mem_append_left _) rfl id
  waits j hj := by
    obtain ⟨m', next', hc, hm'⟩ := hs.waits j hj
    have hji : j ≠ i := by
      rintro rfl
      rw [hi] at hc
      cases hc
      rw [hm] at hm'
      cases hm'
    exact ⟨m', next', (put_calls_of_ne hji).trans hc, isFree_acquire hm'⟩

/-- A call whose mutex is taken goes on waiting. -/
theorem Kept.block (hs : Kept start k s (i :: l)) (hi : s.host.Waits (s.calls i)) :
    Kept start k { s with blocked := s.blocked ++ [i] } l where
  plays := hs.plays
  placed j := by
    rcases (hs.placed j).of_cons with ⟨rfl, -⟩ | hplaced
    · exact .blocked (by simp)
    · exact hplaced.mono rfl id rfl (List.mem_append_left _)
  waits j hj := by
    rcases List.mem_append.1 hj with hj | hj
    · exact hs.waits j hj
    · cases List.mem_singleton.1 hj
      exact hi

/-- A call that is not at a mutex has a place already. -/
theorem Kept.skip (hs : Kept start k s (i :: l)) (hi : ¬ s.AtMutex i) : Kept start k s l where
  plays := hs.plays
  placed j := (hs.placed j).of_cons.resolve_left fun h => hi h.2
  waits := hs.waits

/-- A call that has been looked at has got its mutex, or goes on waiting. -/
theorem Kept.grant (hs : Kept start k s (i :: l)) :
    ∃ k', k ≤ k' ∧ Kept start k' (s.grant i) l ∧ (s.grant i).debt + 3 * k ≤ s.debt + 3 * k' := by
  unfold Tasks.grant
  split
  · rename_i m next hi
    split
    · rename_i hm
      refine ⟨k + 1, by omega, hs.take hi hm, ?_⟩
      simp only [debt, List.length_append, List.length_singleton, put]
      omega
    · rename_i hm
      exact ⟨k, le_rfl, hs.block ⟨m, next, hi, by simpa using hm⟩, le_rfl⟩
  · rename_i hi
    exact ⟨k, le_rfl, hs.skip fun ⟨m, next, hat⟩ => hi m next hat, le_rfl⟩

theorem Kept.foldl (hs : Kept start k s l) :
    ∃ k', k ≤ k' ∧ Kept start k' (l.foldl Tasks.grant s) [] ∧
      (l.foldl Tasks.grant s).debt + 3 * k ≤ s.debt + 3 * k' := by
  induction l generalizing s k with
  | nil => exact ⟨k, le_rfl, hs, le_rfl⟩
  | cons i l ih =>
    obtain ⟨k₁, hk₁, hs₁, hdebt₁⟩ := hs.grant
    obtain ⟨k₂, hk₂, hs₂, hdebt₂⟩ := ih hs₁
    exact ⟨k₂, by omega, hs₂, by rw [List.foldl_cons]; omega⟩

/-- After a turn the calls that wait for a mutex are to be looked at. -/
theorem Kept.of_turn {s' : Tasks n α} {k' : ℕ} (hs : Kept start k s [])
    (hplays : Plays start k' s'.host s'.calls) (hcalls : ∀ j ≠ i, s'.calls j = s.calls j)
    (hready : ∀ j ≠ i, j ∈ s.ready → j ∈ s'.ready) (hrunning : s.running ⊆ s'.running)
    (hblocked : s.blocked ⊆ s'.blocked)
    (hi : (∃ a, s'.calls i = .done a) ∨ i ∈ s'.running ∨ i ∈ s'.blocked ∧ s'.AtMutex i) :
    Kept start k' { s' with blocked := [] } s'.blocked where
  plays := hplays
  placed j := by
    by_cases hj : j = i
    · subst hj
      rcases hi with ⟨a, ha⟩ | hi | ⟨hi, hat⟩
      · exact .ended ha
      · exact .running hi
      · exact .unseen hi hat
    · cases hs.placed j with
      | ended h => exact .ended ((hcalls j hj).trans h)
      | ready h => exact .ready (hready j hj h)
      | running h => exact .running (hrunning h)
      | blocked h =>
        obtain ⟨m, next, hat, -⟩ := hs.waits j h
        exact .unseen (hblocked h) ⟨m, next, (hcalls j hj).trans hat⟩
      | unseen h hat => cases h
  waits j hj := absurd hj List.not_mem_nil

/-- **A call that has its turn** takes steps, or leaves the calls that have things to do. -/
theorem Kept.turn {rest : List (Fin n)} (hs : Kept start k s []) (hr : s.ready = i :: rest) :
    ∃ s' k', s' = ({ s with ready := rest }.put i (turn (s.calls i) s.host)).park i ∧ k ≤ k' ∧
      Kept start k' { s' with blocked := [] } s'.blocked ∧ s'.debt + 3 * k + 1 ≤ s.debt + 3 * k' := by
  obtain ⟨k', hk, hplays, hmoved⟩ := hs.plays.turn i
  set s₁ := ({ s with ready := rest } : Tasks n α).put i (Host.turn (s.calls i) s.host) with hs₁
  have hcalls : s₁.calls = Function.update s.calls i (Host.turn (s.calls i) s.host).1 := put_calls i _
  have hself : s₁.calls i = (Host.turn (s.calls i) s.host).1 := by rw [hcalls, Function.update_self]
  have hne : ∀ j ≠ i, s₁.calls j = s.calls j := fun j hj => by rw [hcalls, Function.update_of_ne hj]
  have hready : ∀ j ≠ i, j ∈ s.ready → j ∈ rest := by
    intro j hj hmem
    rw [hr] at hmem
    exact (List.mem_cons.1 hmem).resolve_left hj
  rw [← hcalls] at hplays
  have hlength : s.debt = rest.length + 1 + 2 * s.running.length := by
    rw [debt, hr, List.length_cons]
  refine ⟨_, k', rfl, hk, ?_⟩
  unfold park
  split
  · rename_i a ha
    refine ⟨hs.of_turn hplays hne hready (List.Subset.refl _) (List.Subset.refl _)
      (Or.inl ⟨a, ha⟩), ?_⟩
    rw [hlength]
    change rest.length + 2 * s.running.length + 3 * k + 1 ≤ _
    omega
  · rename_i m next ha
    refine ⟨hs.of_turn hplays hne hready (List.Subset.refl _) (List.subset_append_left ..)
      (Or.inr (Or.inr ⟨by simp, m, next, ha⟩)), ?_⟩
    rw [hlength]
    change rest.length + 2 * s.running.length + 3 * k + 1 ≤ _
    omega
  · rename_i q next hq ha
    -- a call that has begun a run of the tool has taken a step, which pays for the way back
    refine ⟨hs.of_turn hplays hne hready (List.subset_cons_self ..) (List.Subset.refl _)
      (Or.inr (Or.inl (by simp))), ?_⟩
    have hlt : k < k' := by
      rw [hself] at ha
      rcases hmoved with hlt | ⟨a, ha'⟩ | ⟨m, next', ha', -⟩
      · exact hlt
      · cases ha.symm.trans ha'
      · cases ha.symm.trans ha'
        exact (hq m next' rfl .rfl).elim
    rw [hlength]
    change rest.length + 2 * (s.running.length + 1) + 3 * k + 1 ≤ _
    omega

/-- No call can go on, and none has begun a run of the tool. -/
def Idle (s : Tasks n α) : Prop :=
  s.ready = [] ∧ s.running = []

/-- **What a turn keeps**, and that turns come to an end. -/
theorem Kept.advance (hs : Kept start k s []) :
    ∃ k', k ≤ k' ∧ Kept start k' s.advance [] ∧
      (s.Idle ∨ s.advance.debt + 3 * k + 1 ≤ s.debt + 3 * k') := by
  unfold Tasks.advance
  split
  · rename_i hr
    refine ⟨k, le_rfl, ⟨hs.plays, fun j => ?_, hs.waits⟩, ?_⟩
    · cases hs.placed j with
      | ended h => exact .ended h
      | ready h => rw [hr] at h; cases h
      | running h => exact .ready h
      | blocked h => exact .blocked h
      | unseen h hat => cases h
    · by_cases hrunning : s.running = []
      · exact Or.inl ⟨hr, hrunning⟩
      · have hpos := List.length_pos_iff.2 hrunning
        simp only [debt, hr, List.length_nil]
        omega
  · rename_i i rest hr
    obtain ⟨s', k₁, rfl, hk₁, hs₁, hdebt₁⟩ := hs.turn hr
    obtain ⟨k₂, hk₂, hs₂, hdebt₂⟩ := hs₁.foldl
    refine ⟨k₂, by omega, hs₂, Or.inr ?_⟩
    unfold grantAll
    have hsame : ∀ s : Tasks n α, debt { s with blocked := [] } = s.debt := fun _ => rfl
    rw [hsame] at hdebt₂
    omega

theorem advance_of_idle (h : s.Idle) : s.advance.Idle := by
  unfold Tasks.advance
  rw [h.1]
  exact ⟨h.2, rfl⟩

/-- **So many turns are enough** for calls that can take no more than `N` steps. -/
theorem Kept.run {N m : ℕ} (hN : ∀ {k h calls}, Plays start k h calls → k ≤ N)
    (hs : Kept start k s []) (hm : s.Idle ∨ s.debt + 3 * N ≤ m + 3 * k) :
    ∃ k', Kept start k' (s.run m) [] ∧ (s.run m).Idle := by
  induction m generalizing s k with
  | zero =>
    refine ⟨k, hs, hm.elim id fun hm => ?_⟩
    have hk := hN hs.plays
    unfold debt at hm
    have hready : s.ready.length = 0 := by omega
    have hrunning : s.running.length = 0 := by omega
    exact ⟨List.length_eq_zero_iff.1 hready, List.length_eq_zero_iff.1 hrunning⟩
  | succ m ih =>
    obtain ⟨k', hk, hs', hidle | hdebt⟩ := hs.advance
    · exact ih hs' (Or.inl (advance_of_idle hidle))
    · rcases hm with hm | hm
      · exact ih hs' (Or.inl (advance_of_idle hm))
      · exact ih hs' (Or.inr (by omega))

/-- **When turns have come to an end no call can take a step.** -/
theorem Kept.still (hs : Kept start k s []) (hidle : s.Idle) :
    ∃ order c, Scene.run? (fun _ => hostReading) start order = some c ∧
      Scene.Still (fun _ => hostReading) c ∧ s.host = c.world.withLocks c.locks ∧
      ∀ i, (c.calls i).rest = s.calls i := by
  obtain ⟨order, c, -, hrun, hhost, hcalls⟩ := hs.plays
  refine ⟨order, c, hrun, fun i => ?_, hhost, hcalls⟩
  unfold Scene.turn?
  rw [hcalls i]
  cases hs.placed i with
  | ended h => rw [h]
  | ready h => rw [hidle.1] at h; cases h
  | running h => rw [hidle.2] at h; cases h
  | blocked h =>
    obtain ⟨m, next, hi, hm⟩ := hs.waits i h
    rw [hhost] at hm
    have hwait : (hostReading (c.calls i).taken (.acquire m)).perform c.locks c.world = none :=
      if_neg (by rw [show c.locks.isFree m = false from hm]; exact Bool.false_ne_true)
    rw [hi]
    dsimp only
    rw [hwait]
    rfl
  | unseen h hat => cases h

end Tasks

theorem kept_start (h : Host) (hl : h.locks = .empty) (calls : Fin n → Program Step.interface α) :
    Tasks.Kept (Scene.start h calls) 0 (Tasks.start h calls) [] where
  plays := ⟨[], _, rfl, rfl, by unfold withLocks Scene.start; rw [← hl]; rfl, fun _ => rfl⟩
  placed i := .ready (List.mem_finRange i)
  waits i hi := absurd hi List.not_mem_nil

/-- Calls on a host do not wait for ever: when none can take a step, each has ended. -/
theorem ended_of_still {ι : Type} [DecidableEq ι] {c : Config} {requests : ι → Request}
    {order : List ι} {s : Scene Step.interface Host (Except VolumeError Unit) ι}
    (hrun : Scene.run? (fun _ => hostReading)
      (Scene.start h fun i => onHost (call c (requests i))) order = some s)
    (hstill : Scene.Still (fun _ => hostReading) s) (i : ι) :
    ∃ r, (s.calls i).rest = .done r := by
  have hstart : Shows (fun _ => hostReading) (Scene.start h fun i => onHost (call c (requests i)))
      (Course.start h fun i => opening onHost c (requests i)) :=
    shows_start fun i => follows_onHost_call readsHostLocks_host fun hi hwork =>
      confined_sameOwn hi hwork.isStepAbout fun _ _ hq => by cases hq <;> exact ⟨_, rfl⟩
  obtain ⟨course, hreaches, hshows⟩ := hstart.reaches hrun
  obtain ⟨r, hr⟩ := hshows.ended_of_still (hreaches.contest fun _ => opening_idle) hstill i
  exact ⟨r, hshows.ended_iff.1 hr⟩

/-- **Requests that are handled at the same time** are handled as in one of the runs that their calls
can have: all calls end there, each response is that of its request, and the host is the one that the
run leaves. -/
theorem handleAll_eq (h : Host) (hl : h.locks = .empty) (c : Config) (rs : List Request) :
    ∃ (order : List (Fin rs.length)) (s : Scene Step.interface Host (Except VolumeError Unit) _)
      (results : Fin rs.length → Except VolumeError Unit),
      Scene.run? (fun _ => hostReading)
        (Scene.start h fun i => onHost (call c (rs.get i))) order = some s ∧
      (∀ i, s.result? i = some (results i)) ∧
      h.handleAll c rs =
        (List.ofFn fun i => Response.ofResult (results i), s.world.withLocks s.locks) := by
  set calls : Fin rs.length → Program Step.interface (Except VolumeError Unit) :=
    fun i => onHost (call c (rs.get i)) with hcalls
  -- no run has more steps than its calls can take
  have hN : ∀ {k h' calls'}, Plays (Scene.start h calls) k h' calls' → k ≤ 30 * rs.length := by
    rintro k h' calls' ⟨order, s, rfl, hrun, -⟩
    have hlength := Scene.length_le_of_endsWithin
      (fun i => onHost_call_endsWithin c (rs.get i)) hrun
    rwa [Fintype.card_fin] at hlength
  have hdebt : (Tasks.start h calls).debt = rs.length := by
    simp [Tasks.debt, Tasks.start]
  obtain ⟨k, hkept, hidle⟩ := (kept_start h hl calls).run (m := 91 * rs.length) hN
    (Or.inr (by rw [hdebt]; omega))
  obtain ⟨order, s, hrun, hstill, hhost, hrest⟩ := hkept.still hidle
  choose results hresults using ended_of_still hrun hstill
  refine ⟨order, s, results, hrun, fun i => ?_, ?_⟩
  · unfold Scene.result?
    rw [hresults i]
  · unfold handleAll
    dsimp only
    rw [hhost]
    congr 1
    rw [List.ofFn_eq_map, List.filterMap_eq_map_iff_forall_eq_some]
    intro i hi
    unfold Tasks.result?
    rw [← hrest i, hresults i]
    rfl

end VolumeNode.Host
