import VolumeNode.Proofs.Locks.Exclusion

/-!
# No entry outlasts the tasks of its volume

A task that has freed a mutex leaves the entry to others if there are other handles on it. When no task
is dropped while it waits, one of these others looks after the entry in its turn, and the last of them
finds no handle but that of the table, whichever it is.

* `Attended.step`: a step keeps every entry with a task that waits, holds, or has still to look after
  the entry.
* `entry_attended`: so does every run, and when all tasks are idle the table is empty.
-/

namespace VolumeNode.Node

/-- The volume whose lock a task is concerned with. -/
def Phase.volume? : Phase → Option String
  | waiting volume _ | holding volume _ | leaving volume => some volume
  | idle => none

theorem Phase.volume?_of_uses? {p : Phase} {v : String} {m : Ticket} (h : p.uses? = some (v, m)) :
    p.volume? = some v := by
  cases p with
  | idle | leaving => cases h
  | waiting | holding => cases h; rfl

namespace Contest

variable {ι : Type} [DecidableEq ι] {s s' : Contest ι} {users : Ticket → Finset ι} {i : ι}
  {v : String} {m : Ticket}

/-- One step of one task, by which no task that waits is dropped. -/
def PatientStep (s s' : Contest ι) : Prop :=
  Step s s' ∧ ∀ i v m, s.phase i = .waiting v m → s'.phase i ≠ .idle

/-- A state that tasks can bring about when none is dropped while it waits. -/
def ReachablePatiently (s : Contest ι) : Prop :=
  Relation.ReflTransGen PatientStep (start ι) s

/-- A step of a task that is not dropped drops no other. -/
theorem PatientStep.of_move {p : Phase} {t : LockTable} (h : Step s (s.move i p t))
    (hp : p = .idle → (s.phase i).uses? = none) : PatientStep s (s.move i p t) := by
  refine ⟨h, fun j v m hj => ?_⟩
  by_cases hji : j = i
  · subst hji
    rw [phase_move_self]
    intro hidle
    have huses := hp hidle
    rw [hj] at huses
    cases huses
  · rw [phase_move_of_ne hji, hj]
    exact Phase.noConfusion

theorem ReachablePatiently.reachable (h : ReachablePatiently s) : Reachable s :=
  Relation.ReflTransGen.mono (fun _ _ hs => hs.1) _ _ h

/-- Whether each entry has a task that is concerned with the lock of its volume. -/
def Attended (s : Contest ι) : Prop :=
  ∀ v m, s.table.find? v = some m → ∃ i, (s.phase i).volume? = some v

/-- A task that stays with its volume leaves each entry attended. -/
theorem Attended.move {p : Phase} {t : LockTable} (h : Attended s)
    (hfind : ∀ u, t.find? u = s.table.find? u) (hp : p.volume? = (s.phase i).volume?) :
    Attended (s.move i p t) := by
  intro u n hu
  rw [table_move, hfind] at hu
  obtain ⟨j, hj⟩ := h u n hu
  refine ⟨j, ?_⟩
  by_cases hji : j = i
  · subst hji
    rw [phase_move_self, hp, hj]
  · rw [phase_move_of_ne hji, hj]

/-- An entry of another volume keeps its task. -/
theorem Attended.of_ne {p : Phase} {t : LockTable} {u : String} (h : Attended s)
    (hu : s.table.find? u = some m) (hi : (s.phase i).volume? ≠ some u) :
    ∃ j, ((s.move i p t).phase j).volume? = some u := by
  obtain ⟨j, hj⟩ := h u m hu
  refine ⟨j, ?_⟩
  rw [phase_move_of_ne, hj]
  rintro rfl
  exact hi hj

/-- A task that enters attends to the entry of its volume. -/
theorem Attended.enter (h : Attended s) (hi : s.phase i = .idle) (v : String) :
    Attended (s.move i (.waiting v (s.table.enter v).1) (s.table.enter v).2) := by
  intro u n hu
  by_cases huv : u = v
  · subst huv
    exact ⟨i, congrArg Phase.volume? phase_move_self⟩
  · rw [table_move, (LockTable.enter_cases s.table v).1 u huv] at hu
    exact h.of_ne hu (by simp [hi, Phase.volume?])

omit [DecidableEq ι] in
/-- **An entry that is looked after and stays has a user**: there is another handle on its mutex, and
the one who has it is concerned with the volume. -/
theorem Sound.exists_user (h : Sound s users) (hv : (s.table.discard v).find? v = some m) :
    ∃ j n, (s.phase j).uses? = some (v, n) := by
  obtain ⟨hfind, hne⟩ := LockTable.handles_of_find?_discard hv
  have hcount := h.handles hfind
  obtain ⟨j, hj⟩ : (users m).Nonempty := Finset.card_pos.1 (by omega)
  obtain ⟨u, hu⟩ := (h.mem_users j m).1 hj
  cases h.apart (h.listed hu) hfind
  exact ⟨j, m, hu⟩

/-- A task that has looked after an entry leaves it to one that uses the mutex. -/
theorem Attended.discard (h : Attended s) (hs : Sound s users) (hi : s.phase i = .leaving v) :
    Attended (s.move i .idle (s.table.discard v)) := by
  intro u n hu
  rw [table_move] at hu
  by_cases huv : u = v
  · subst huv
    obtain ⟨j, m, hj⟩ := hs.exists_user hu
    refine ⟨j, ?_⟩
    rw [phase_move_of_ne]
    · exact Phase.volume?_of_uses? hj
    · rintro rfl
      rw [hi] at hj
      cases hj
  · exact h.of_ne (hs.find?_discard v hu).1 (by simpa [hi, Phase.volume?] using Ne.symm huv)

/-- **A step keeps each entry attended**, if it drops no task that waits. -/
theorem Attended.step (h : Attended s) (hs : Sound s users) (hstep : PatientStep s s') :
    Attended s' := by
  obtain ⟨hstep, hpatient⟩ := hstep
  cases hstep with
  | enter v hi => exact h.enter hi v
  | acquire hi _ => exact h.move (fun _ => LockTable.find?_acquire) (by rw [hi]; rfl)
  | release hi => exact h.move (fun _ => LockTable.find?_release) (by rw [hi]; rfl)
  | discard hi => exact h.discard hs hi
  | abandon hi => exact absurd phase_move_self (hpatient _ _ _ hi)

/-- In every state that tasks bring about when none is dropped while it waits, each entry is attended. -/
theorem ReachablePatiently.attended (h : ReachablePatiently s) : Attended s := by
  unfold ReachablePatiently at h
  induction h with
  | refl => exact fun v m hv => by simp [start] at hv
  | tail hr hs ih =>
    obtain ⟨users, hsound⟩ := (ReachablePatiently.reachable hr).sound
    exact ih.step hsound hs

/-- **The lock table does not leak.** When no task is dropped while it waits, the table has an entry for
a volume only if some task waits for its mutex, holds it, or has freed it and has still to look after the
entry; when all tasks are idle the table is empty, whichever has been the last. -/
theorem entry_attended (h : ReachablePatiently s) :
    (∀ e ∈ s.table.entries, ∃ i, (∃ m, s.phase i = .waiting e.1 m) ∨
      (∃ m, s.phase i = .holding e.1 m) ∨ s.phase i = .leaving e.1) ∧
    ((∀ i, s.phase i = .idle) → s.table.entries = []) := by
  have hattended : ∀ e ∈ s.table.entries, ∃ i, (s.phase i).volume? = some e.1 := by
    intro e he
    obtain ⟨m, hm⟩ := LockTable.find?_of_mem he
    exact h.attended e.1 m hm
  constructor
  · intro e he
    obtain ⟨i, hi⟩ := hattended e he
    refine ⟨i, ?_⟩
    cases hp : s.phase i with
    | idle =>
      rw [hp] at hi
      cases hi
    | waiting v m =>
      rw [hp] at hi
      cases hi
      exact Or.inl ⟨m, rfl⟩
    | holding v m =>
      rw [hp] at hi
      cases hi
      exact Or.inr (Or.inl ⟨m, rfl⟩)
    | leaving v =>
      rw [hp] at hi
      cases hi
      exact Or.inr (Or.inr rfl)
  · intro hidle
    refine List.eq_nil_iff_forall_not_mem.2 fun e he => ?_
    obtain ⟨i, hi⟩ := hattended e he
    rw [hidle i] at hi
    cases hi

/-- One task frees the mutex while another waits, and finds the entry in use; the other removes it. -/
theorem entry_attended_contended : ∃ s t : Contest Bool,
    (ReachablePatiently s ∧ s.phase false = .idle ∧ s.table.entries = [("v", 0)] ∧
      ∃ i m, s.phase i = .waiting "v" m) ∧
    (ReachablePatiently t ∧ (∀ i, t.phase i = .idle) ∧ t.table.entries = []) := by
  have h0 : ReachablePatiently (start Bool) := .refl
  have h1 := h0.tail (.of_move (.enter (i := false) "v" rfl) (by decide))
  have h2 := h1.tail (.of_move (.acquire (i := false) rfl rfl) (by decide))
  have h3 := h2.tail (.of_move (.enter (i := true) "v" rfl) (by decide))
  have h4 := h3.tail (.of_move (.release (i := false) rfl) (by decide))
  have h5 := h4.tail (.of_move (.discard (i := false) rfl) fun _ => rfl)
  have h6 := h5.tail (.of_move (.acquire (i := true) rfl rfl) (by decide))
  have h7 := h6.tail (.of_move (.release (i := true) rfl) (by decide))
  have h8 := h7.tail (.of_move (.discard (i := true) rfl) fun _ => rfl)
  have hempty := (entry_attended h8).2 (Bool.forall_bool.2 ⟨rfl, rfl⟩)
  refine ⟨_, _, ⟨h5, rfl, rfl, ?_⟩, ⟨h8, Bool.forall_bool.2 ⟨rfl, rfl⟩, hempty⟩⟩
  obtain ⟨i, hw | ⟨m, hm⟩ | hl⟩ := (entry_attended h5).1 ("v", 0) (by decide)
  · exact ⟨i, hw⟩
  · cases i <;> cases hm
  · cases i <;> cases hl

/-- A task that is dropped while it waits for a mutex that is free leaves its entry to nobody. -/
theorem exists_entry_of_abandon : ∃ s : Contest Unit,
    Reachable s ∧ (∀ i, s.phase i = .idle) ∧ s.table.entries = [("v", 0)] := by
  have h0 : Reachable (start Unit) := .refl
  have h1 := h0.tail (.enter (i := ()) "v" rfl)
  have h2 := h1.tail (.abandon (i := ()) rfl)
  exact ⟨_, h2, fun _ => rfl, rfl⟩

end Contest

end VolumeNode.Node
