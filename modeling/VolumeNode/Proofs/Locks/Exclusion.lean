import Mathlib.Data.Finset.Card
import Mathlib.Logic.Function.Basic
import Mathlib.Logic.Relation
import VolumeNode.Proofs.Locks.Table

/-!
# One holder for each volume

Any number of tasks use the locks of volumes, each as often and for whatever volumes it likes. A task
takes a handle on the mutex of a volume, waits for it, holds it, frees it, and in a step of its own
looks whether the entry of the volume can go; a task that waits may be dropped instead. Between two
steps of a task any others may take theirs.

* `Sound`: what holds at every point of a run. The table has the mutex of every task that waits or
  holds, and counts exactly these tasks and itself. So an entry that goes has nobody waiting for it
  or holding it, and a second mutex of a volume is never in use beside the first.
* `holder_unique`: no two tasks hold the lock of one volume.
-/

namespace VolumeNode.Node

/-- Where a task is in its use of the lock of a volume. -/
inductive Phase where
  | idle
  | waiting (volume : String) (m : Ticket)
  | holding (volume : String) (m : Ticket)
  /-- The mutex is free again, and the entry of the volume is still to be looked at. -/
  | leaving (volume : String)
  deriving DecidableEq

/-- The volume and the mutex that a task has a handle on. -/
def Phase.uses? : Phase → Option (String × Ticket)
  | waiting volume m | holding volume m => some (volume, m)
  | idle | leaving _ => none

/-- Tasks that share a lock table. -/
structure Contest (ι : Type) where
  table : LockTable
  phase : ι → Phase

namespace Contest

variable {ι : Type}

/-- Nobody has used a lock yet. -/
def start (ι : Type) : Contest ι :=
  ⟨.empty, fun _ => .idle⟩

variable [DecidableEq ι]

/-- One task is in another phase, with another table. -/
def move (s : Contest ι) (i : ι) (p : Phase) (t : LockTable) : Contest ι :=
  ⟨t, Function.update s.phase i p⟩

/-- One step of one task. -/
inductive Step : Contest ι → Contest ι → Prop where
  | enter {s i} (v : String) (hi : s.phase i = .idle) :
      Step s (s.move i (.waiting v (s.table.enter v).1) (s.table.enter v).2)
  | acquire {s i v m} (hi : s.phase i = .waiting v m) (hm : s.table.isFree m = true) :
      Step s (s.move i (.holding v m) (s.table.acquire m))
  | release {s i v m} (hi : s.phase i = .holding v m) :
      Step s (s.move i (.leaving v) (s.table.release m))
  | discard {s i v} (hi : s.phase i = .leaving v) : Step s (s.move i .idle (s.table.discard v))
  /-- A task that waits is dropped. -/
  | abandon {s i v m} (hi : s.phase i = .waiting v m) :
      Step s (s.move i .idle (s.table.abandon m))

/-- A state that tasks can bring about. -/
def Reachable (s : Contest ι) : Prop :=
  Relation.ReflTransGen Step (start ι) s

/-- **The table counts its users**: `users m` are the tasks that wait for the mutex `m` or hold it. -/
structure Sound (s : Contest ι) (users : Ticket → Finset ι) : Prop where
  mem_users : ∀ i m, i ∈ users m ↔ ∃ v, (s.phase i).uses? = some (v, m)
  listed : ∀ {i v m}, (s.phase i).uses? = some (v, m) → s.table.find? v = some m
  handles : ∀ {v m}, s.table.find? v = some m → (s.table.mutexes m).handles = (users m).card + 1
  held : ∀ {v m}, s.table.find? v = some m →
    ((s.table.mutexes m).held = true ↔ ∃ i, s.phase i = .holding v m)
  alone : ∀ {i j v m}, s.phase i = .holding v m → s.phase j = .holding v m → i = j
  old : ∀ {v m}, s.table.find? v = some m → m < s.table.fresh
  apart : ∀ {u v m}, s.table.find? u = some m → s.table.find? v = some m → u = v

/-- The users of the mutexes when a task has got a handle on one. -/
def join (users : Ticket → Finset ι) (m : Ticket) (i : ι) : Ticket → Finset ι :=
  Function.update users m (insert i (users m))

/-- The users of the mutexes when a task has given its handle on one up. -/
def part (users : Ticket → Finset ι) (m : Ticket) (i : ι) : Ticket → Finset ι :=
  Function.update users m ((users m).erase i)

variable {s : Contest ι} {users : Ticket → Finset ι} {i j : ι} {u v : String} {m n : Ticket}
  {p : Phase} {t : LockTable}

omit [DecidableEq ι] in
theorem sound_start : Sound (start ι) fun _ => ∅ where
  mem_users i m := by simp [start, Phase.uses?]
  listed h := by simp [start, Phase.uses?] at h
  handles h := by simp [start] at h
  held h := by simp [start] at h
  alone h := by simp [start] at h
  old h := by simp [start] at h
  apart h := by simp [start] at h

omit [DecidableEq ι] in
/-- Nobody has a handle on the mutex that is made next. -/
theorem Sound.users_fresh (h : Sound s users) : users s.table.fresh = ∅ := by
  rw [Finset.eq_empty_iff_forall_notMem]
  intro i hi
  obtain ⟨v, hv⟩ := (h.mem_users i _).1 hi
  exact absurd (h.old (h.listed hv)) (lt_irrefl _)

omit [DecidableEq ι] in
/-- A task that uses no lock is nobody's user. -/
theorem Sound.notMem_users (h : Sound s users) (hi : (s.phase i).uses? = none) : i ∉ users m := by
  intro hm
  obtain ⟨v, hv⟩ := (h.mem_users i m).1 hm
  rw [hi] at hv
  cases hv

@[simp] theorem table_move : (s.move i p t).table = t := rfl

@[simp] theorem phase_move_self : (s.move i p t).phase i = p := Function.update_self ..

theorem phase_move_of_ne (h : j ≠ i) : (s.move i p t).phase j = s.phase j :=
  Function.update_of_ne h ..

/-- A task that goes where it holds nothing: the holders are the others. -/
theorem phase_move_eq_holding (hp : ∀ v m, p ≠ .holding v m) :
    (s.move i p t).phase j = .holding v m ↔ j ≠ i ∧ s.phase j = .holding v m := by
  by_cases hj : j = i
  · subst hj
    simp [hp]
  · rw [phase_move_of_ne hj]
    simp [hj]

theorem mem_join : j ∈ join users m i n ↔ (j = i ∧ n = m) ∨ j ∈ users n := by
  unfold join
  by_cases hn : n = m
  · subst hn
    simp
  · rw [Function.update_of_ne hn]
    simp [hn]

theorem mem_part : j ∈ part users m i n ↔ (j = i → n ≠ m) ∧ j ∈ users n := by
  unfold part
  by_cases hn : n = m
  · subst hn
    simp
  · rw [Function.update_of_ne hn]
    simp [hn]

omit [DecidableEq ι] in
/-- An entry after a task has entered is the one it has got a handle on, or an old one with another
mutex. -/
theorem Sound.find?_enter (h : Sound s users) (v : String)
    (hu : (s.table.enter v).2.find? u = some n) :
    (u = v ∧ n = (s.table.enter v).1) ∨
      (u ≠ v ∧ n ≠ (s.table.enter v).1 ∧ s.table.find? u = some n ∧
        (s.table.enter v).2.mutexes n = s.table.mutexes n) := by
  obtain ⟨hfind, hmut, hm⟩ := LockTable.enter_cases s.table v
  by_cases huv : u = v
  · subst huv
    rw [LockTable.find?_enter] at hu
    exact Or.inl ⟨rfl, (Option.some.inj hu).symm⟩
  · rw [hfind u huv] at hu
    have hn : n ≠ (s.table.enter v).1 := by
      rintro rfl
      rcases hm with ⟨hv, -, -⟩ | ⟨-, hf, -⟩
      · exact huv (h.apart hu hv)
      · exact absurd (hf ▸ h.old hu) (lt_irrefl _)
    exact Or.inr ⟨huv, hn, hu, hmut n hn⟩

/-- **Entering keeps the count.** -/
theorem Sound.enter (h : Sound s users) (hi : s.phase i = .idle) (v : String) :
    Sound (s.move i (.waiting v (s.table.enter v).1) (s.table.enter v).2)
      (join users (s.table.enter v).1 i) := by
  have hnew := LockTable.find?_enter s.table v
  have hold := fun u n => h.find?_enter (u := u) (n := n) v
  obtain ⟨hfind, hmut, hm⟩ := LockTable.enter_cases s.table v
  generalize (s.table.enter v).1 = m at *
  generalize (s.table.enter v).2 = t at *
  have hout : ∀ n, i ∉ users n := fun n => h.notMem_users (by rw [hi]; rfl)
  constructor
  case mem_users =>
    intro j n
    rw [mem_join]
    by_cases hj : j = i
    · subst hj
      rw [phase_move_self]
      simp [hout, Phase.uses?, eq_comm]
    · rw [phase_move_of_ne hj, ← h.mem_users]
      simp [hj]
  case listed =>
    intro j u n hu
    by_cases hj : j = i
    · subst hj
      rw [phase_move_self] at hu
      cases hu
      exact hnew
    · rw [phase_move_of_ne hj] at hu
      have hl := h.listed hu
      by_cases huv : u = v
      · -- the entry stays while a task has a handle on its mutex
        subst huv
        rcases hm with ⟨hv, -, -⟩ | ⟨hv, -, -, -⟩
        · rw [hv] at hl
          cases hl
          exact hnew
        · rw [hv] at hl
          cases hl
      · rw [table_move, hfind u huv]
        exact hl
  case handles =>
    intro u n hu
    rcases hold u n hu with ⟨rfl, rfl⟩ | ⟨-, hn, hu, hmu⟩
    · unfold join
      rw [Function.update_self, Finset.card_insert_of_notMem (hout _), table_move]
      rcases hm with ⟨hv, -, hmm⟩ | ⟨-, hf, -, hmm⟩
      · rw [hmm, h.handles hv]
      · rw [hmm, hf, h.users_fresh]
        rfl
    · unfold join
      rw [Function.update_of_ne hn, table_move, hmu]
      exact h.handles hu
  case held =>
    intro u n hu
    simp only [phase_move_eq_holding (p := .waiting v m) (by simp), table_move]
    have hothers : ∀ u n, (∃ j, s.phase j = .holding u n) ↔
        ∃ j, j ≠ i ∧ s.phase j = .holding u n := by
      intro u n
      refine ⟨fun ⟨j, hj⟩ => ⟨j, ?_, hj⟩, fun ⟨j, _, hj⟩ => ⟨j, hj⟩⟩
      rintro rfl
      rw [hi] at hj
      cases hj
    rcases hold u n hu with ⟨rfl, rfl⟩ | ⟨-, hn, hu, hmu⟩
    · rcases hm with ⟨hv, -, hmm⟩ | ⟨hv, -, -, hmm⟩
      · rw [hmm]
        exact (h.held hv).trans (hothers u n)
      · -- a task that held a mutex of `u` would have had it in the table
        rw [hmm]
        constructor
        · intro hf
          cases hf
        · rintro ⟨j, -, hj⟩
          have hl := h.listed (show (s.phase j).uses? = some (u, n) by rw [hj]; rfl)
          rw [hv] at hl
          cases hl
    · rw [hmu]
      exact (h.held hu).trans (hothers u n)
  case alone =>
    intro j k u n hj hk
    rw [phase_move_eq_holding (by simp)] at hj hk
    exact h.alone hj.2 hk.2
  case old =>
    intro u n hu
    rcases hold u n hu with ⟨rfl, rfl⟩ | ⟨-, -, hu, -⟩
    · rcases hm with ⟨hv, hf, -⟩ | ⟨-, hf, hf', -⟩
      · rw [table_move, hf]
        exact h.old hv
      · rw [table_move, hf', hf]
        exact Nat.lt_succ_self _
    · rw [table_move]
      rcases hm with ⟨-, hf, -⟩ | ⟨-, -, hf, -⟩
      · rw [hf]
        exact h.old hu
      · rw [hf]
        exact Nat.lt_succ_of_lt (h.old hu)
  case apart =>
    intro u w n hu hw
    rcases hold u n hu with ⟨rfl, rfl⟩ | ⟨-, hn, hu, -⟩ <;>
      rcases hold w n hw with ⟨rfl, hwm⟩ | ⟨-, hn', hw, -⟩
    · rfl
    · exact absurd rfl hn'
    · exact absurd hwm hn
    · exact h.apart hu hw

/-- **Taking the mutex keeps the count.** -/
theorem Sound.acquire (h : Sound s users) (hi : s.phase i = .waiting v m)
    (hm : s.table.isFree m = true) :
    Sound (s.move i (.holding v m) (s.table.acquire m)) users := by
  have hv : s.table.find? v = some m := h.listed (i := i) (by rw [hi]; rfl)
  have hfree : (s.table.mutexes m).held = false := by simpa [LockTable.isFree] using hm
  have hnone : ∀ j, s.phase j ≠ .holding v m := by
    intro j hj
    have := (h.held hv).2 ⟨j, hj⟩
    rw [hfree] at this
    cases this
  have huses : ∀ j, ((s.move i (.holding v m) (s.table.acquire m)).phase j).uses? =
      (s.phase j).uses? := by
    intro j
    by_cases hj : j = i
    · subst hj
      rw [phase_move_self, hi]
      rfl
    · rw [phase_move_of_ne hj]
  have hhold : ∀ j u n, (s.move i (.holding v m) (s.table.acquire m)).phase j = .holding u n →
      (j = i ∧ u = v ∧ n = m) ∨ (j ≠ i ∧ s.phase j = .holding u n) := by
    intro j u n hj
    by_cases hji : j = i
    · subst hji
      rw [phase_move_self] at hj
      cases hj
      exact Or.inl ⟨rfl, rfl, rfl⟩
    · rw [phase_move_of_ne hji] at hj
      exact Or.inr ⟨hji, hj⟩
  constructor
  case mem_users =>
    intro j n
    rw [huses]
    exact h.mem_users j n
  case listed =>
    intro j u n hu
    rw [huses] at hu
    rw [table_move, LockTable.find?_acquire]
    exact h.listed hu
  case handles =>
    intro u n hu
    have hh : ((s.table.acquire m).mutexes n).handles = (s.table.mutexes n).handles := by
      by_cases hn : n = m
      · rw [hn, LockTable.mutexes_acquire_self]
      · exact congrArg Mutex.handles (LockTable.mutexes_update_of_ne hn)
    rw [table_move, hh]
    rw [table_move, LockTable.find?_acquire] at hu
    exact h.handles hu
  case held =>
    intro u n hu
    rw [table_move, LockTable.find?_acquire] at hu
    rw [table_move]
    by_cases hn : n = m
    · -- only `v` has the mutex `m`, and `i` holds it now
      subst hn
      cases h.apart hu hv
      rw [LockTable.mutexes_acquire_self]
      exact ⟨fun _ => ⟨i, phase_move_self⟩, fun _ => rfl⟩
    · have hmu : (s.table.acquire m).mutexes n = s.table.mutexes n :=
        LockTable.mutexes_update_of_ne hn
      rw [hmu, h.held hu]
      constructor
      · rintro ⟨j, hj⟩
        refine ⟨j, ?_⟩
        rw [phase_move_of_ne (by rintro rfl; rw [hi] at hj; cases hj)]
        exact hj
      · rintro ⟨j, hj⟩
        rcases hhold j u n hj with ⟨-, -, hn'⟩ | ⟨-, hj⟩
        · exact absurd hn' hn
        · exact ⟨j, hj⟩
  case alone =>
    intro j k u n hj hk
    -- the mutex was free, so if one of the two is `i`, so is the other
    rcases hhold j u n hj with ⟨hji, hu, hn⟩ | ⟨-, hj'⟩ <;>
      rcases hhold k u n hk with ⟨hki, hu', hn'⟩ | ⟨-, hk'⟩
    · rw [hji, hki]
    · exact absurd (hu ▸ hn ▸ hk') (hnone k)
    · exact absurd (hu' ▸ hn' ▸ hj') (hnone j)
    · exact h.alone hj' hk'
  case old =>
    intro u n hu
    rw [table_move, LockTable.find?_acquire] at hu
    rw [table_move, LockTable.fresh_acquire]
    exact h.old hu
  case apart =>
    intro u w n hu hw
    rw [table_move, LockTable.find?_acquire] at hu hw
    exact h.apart hu hw

/-- **Giving a handle up keeps the count**, whether the mutex was held or waited for: `t` is the table
with one handle less on `m` and `m` free if `i` held it. -/
theorem Sound.part (h : Sound s users) (hi : (s.phase i).uses? = some (v, m))
    (hp : p.uses? = none) (hfind : ∀ u, t.find? u = s.table.find? u) (hfresh : t.fresh = s.table.fresh)
    (hmut : ∀ n, n ≠ m → t.mutexes n = s.table.mutexes n)
    (hcount : (t.mutexes m).handles = (s.table.mutexes m).handles - 1)
    (hheld : (t.mutexes m).held = true ↔
      (s.table.mutexes m).held = true ∧ s.phase i ≠ .holding v m) :
    Sound (s.move i p t) (part users m i) := by
  have hv := h.listed hi
  have hmem : i ∈ users m := (h.mem_users i m).2 ⟨v, hi⟩
  have hp' : ∀ u n, p ≠ .holding u n := by
    rintro u n rfl
    cases hp
  constructor
  case mem_users =>
    intro j n
    rw [mem_part]
    by_cases hj : j = i
    · subst hj
      rw [phase_move_self, hp]
      constructor
      · rintro ⟨hn, hu⟩
        obtain ⟨u, hu⟩ := (h.mem_users j n).1 hu
        rw [hi] at hu
        cases hu
        exact absurd rfl (hn rfl)
      · rintro ⟨u, hu⟩
        cases hu
    · rw [phase_move_of_ne hj, ← h.mem_users]
      simp [hj]
  case listed =>
    intro j u n hu
    by_cases hj : j = i
    · subst hj
      rw [phase_move_self, hp] at hu
      cases hu
    · rw [phase_move_of_ne hj] at hu
      rw [table_move, hfind]
      exact h.listed hu
  case handles =>
    intro u n hu
    rw [table_move, hfind] at hu
    rw [table_move]
    unfold Contest.part
    by_cases hn : n = m
    · subst hn
      have hpos := Finset.card_pos.2 ⟨i, hmem⟩
      rw [Function.update_self, Finset.card_erase_of_mem hmem, hcount, h.handles hv]
      omega
    · rw [Function.update_of_ne hn, hmut n hn]
      exact h.handles hu
  case held =>
    intro u n hu
    rw [table_move, hfind] at hu
    simp only [phase_move_eq_holding hp', table_move]
    by_cases hn : n = m
    · subst hn
      cases h.apart hu hv
      rw [hheld, h.held hu]
      constructor
      · rintro ⟨⟨j, hj⟩, hne⟩
        exact ⟨j, by rintro rfl; exact hne hj, hj⟩
      · rintro ⟨j, hne, hj⟩
        exact ⟨⟨j, hj⟩, fun hij => hne (h.alone hj hij)⟩
    · rw [hmut n hn, h.held hu]
      constructor
      · rintro ⟨j, hj⟩
        refine ⟨j, ?_, hj⟩
        rintro rfl
        rw [hj] at hi
        cases hi
        exact hn rfl
      · rintro ⟨j, -, hj⟩
        exact ⟨j, hj⟩
  case alone =>
    intro j k u n hj hk
    rw [phase_move_eq_holding hp'] at hj hk
    exact h.alone hj.2 hk.2
  case old =>
    intro u n hu
    rw [table_move, hfind] at hu
    rw [table_move, hfresh]
    exact h.old hu
  case apart =>
    intro u w n hu hw
    rw [table_move, hfind] at hu hw
    exact h.apart hu hw

omit [DecidableEq ι] in
/-- An entry that is still there after one has been looked after was there before, and its mutex is as
it was. -/
theorem Sound.find?_discard (h : Sound s users) (v : String)
    (hu : (s.table.discard v).find? u = some n) :
    s.table.find? u = some n ∧ (s.table.discard v).mutexes n = s.table.mutexes n := by
  rcases LockTable.discard_cases s.table v with ⟨m, hv, -, hgone, hfind, hmut, -⟩ | hsame
  · have huv : u ≠ v := by
      rintro rfl
      rw [hgone] at hu
      cases hu
    rw [hfind u huv] at hu
    refine ⟨hu, hmut n ?_⟩
    rintro rfl
    exact huv (h.apart hu hv)
  · rw [hsame] at hu ⊢
    exact ⟨hu, rfl⟩

/-- **Looking after the entry keeps the count**: an entry that goes has no user. -/
theorem Sound.discard (h : Sound s users) (hi : s.phase i = .leaving v) :
    Sound (s.move i .idle (s.table.discard v)) users := by
  have huses : ∀ j, ((s.move i .idle (s.table.discard v)).phase j).uses? = (s.phase j).uses? := by
    intro j
    by_cases hj : j = i
    · subst hj
      rw [phase_move_self, hi]
      rfl
    · rw [phase_move_of_ne hj]
  have hhold : ∀ j u n, (s.move i .idle (s.table.discard v)).phase j = .holding u n ↔
      s.phase j = .holding u n := by
    intro j u n
    rw [phase_move_eq_holding (by simp)]
    refine ⟨And.right, fun hj => ⟨?_, hj⟩⟩
    rintro rfl
    rw [hi] at hj
    cases hj
  constructor
  case mem_users =>
    intro j n
    rw [huses]
    exact h.mem_users j n
  case listed =>
    intro j u n hu
    rw [huses] at hu
    have hl := h.listed hu
    rw [table_move]
    rcases LockTable.discard_cases s.table v with ⟨m, hv, hone, -, hfind, -, -⟩ | hsame
    · rw [hfind, hl]
      rintro rfl
      -- the table had the last handle, but `j` has one too
      rw [hv] at hl
      cases hl
      have hpos := Finset.card_pos.2 ⟨j, (h.mem_users j _).2 ⟨_, hu⟩⟩
      have := h.handles hv
      omega
    · rw [hsame]
      exact hl
  case handles =>
    intro u n hu
    obtain ⟨hu, hmu⟩ := h.find?_discard v hu
    rw [table_move, hmu]
    exact h.handles hu
  case held =>
    intro u n hu
    obtain ⟨hu, hmu⟩ := h.find?_discard v hu
    simp only [table_move, hmu, hhold]
    exact h.held hu
  case alone =>
    intro j k u n hj hk
    exact h.alone ((hhold j u n).1 hj) ((hhold k u n).1 hk)
  case old =>
    intro u n hu
    have hf : (s.table.discard v).fresh = s.table.fresh := by
      rcases LockTable.discard_cases s.table v with ⟨-, -, -, -, -, -, hf⟩ | hsame
      · exact hf
      · rw [hsame]
    rw [table_move, hf]
    exact h.old (h.find?_discard v hu).1
  case apart =>
    intro u w n hu hw
    exact h.apart (h.find?_discard v hu).1 (h.find?_discard v hw).1

/-- **Every step keeps the count.** -/
theorem Sound.step {s' : Contest ι} (h : Sound s users) (hs : Step s s') :
    ∃ users', Sound s' users' := by
  cases hs with
  | enter v hi => exact ⟨_, h.enter hi v⟩
  | acquire hi hm => exact ⟨_, h.acquire hi hm⟩
  | @release i v m hi =>
    refine ⟨_, h.part (m := m) (v := v) (by rw [hi]; rfl) rfl (fun _ => LockTable.find?_release)
      LockTable.fresh_release (fun n hn => LockTable.mutexes_update_of_ne hn) ?_ ?_⟩
    · rw [LockTable.mutexes_release_self]
    · rw [LockTable.mutexes_release_self]
      simp [hi]
  | discard hi => exact ⟨_, h.discard hi⟩
  | @abandon i v m hi =>
    refine ⟨_, h.part (m := m) (v := v) (by rw [hi]; rfl) rfl (fun _ => LockTable.find?_abandon)
      LockTable.fresh_abandon (fun n hn => LockTable.mutexes_update_of_ne hn) ?_ ?_⟩
    · rw [LockTable.mutexes_abandon_self]
    · rw [LockTable.mutexes_abandon_self]
      simp [hi]

/-- Every state that tasks can bring about is sound. -/
theorem Reachable.sound (h : Reachable s) : ∃ users, Sound s users := by
  unfold Reachable at h
  induction h with
  | refl => exact ⟨_, sound_start⟩
  | tail _ hs ih =>
    obtain ⟨users, hu⟩ := ih
    exact hu.step hs

omit [DecidableEq ι] in
/-- In a sound state two holders of one volume are one: both have the mutex of its entry. -/
theorem Sound.holder_eq (h : Sound s users) (hi : s.phase i = .holding v m)
    (hj : s.phase j = .holding v n) : i = j := by
  have hm := h.listed (show (s.phase i).uses? = some (v, m) by rw [hi]; rfl)
  have hn := h.listed (show (s.phase j).uses? = some (v, n) by rw [hj]; rfl)
  rw [hm] at hn
  cases hn
  exact h.alone hi hj

/-- **No two tasks hold the lock of one volume**, though entries go and come while tasks wait, are
dropped, or have still to look after the entry of the mutex they have freed. -/
theorem holder_unique (h : Reachable s) (hi : s.phase i = .holding v m)
    (hj : s.phase j = .holding v n) : i = j := by
  obtain ⟨users, hs⟩ := h.sound
  exact hs.holder_eq hi hj

/-- One task has freed the first mutex of a volume and has still to look after its entry. Another has
used that mutex, removed the entry, and come back: it holds a second mutex, alone. -/
theorem holder_unique_recreated : ∃ s : Contest Bool,
    Reachable s ∧ s.phase false = .leaving "v" ∧ s.phase true = .holding "v" 1 ∧
      ∀ j n, s.phase j = .holding "v" n → true = j := by
  have h0 : Reachable (start Bool) := .refl
  have h1 := h0.tail (.enter (i := false) "v" rfl)
  have h2 := h1.tail (.acquire (i := false) rfl rfl)
  have h3 := h2.tail (.release (i := false) rfl)
  have h4 := h3.tail (.enter (i := true) "v" rfl)
  have h5 := h4.tail (.acquire (i := true) rfl rfl)
  have h6 := h5.tail (.release (i := true) rfl)
  have h7 := h6.tail (.discard (i := true) rfl)
  have h8 := h7.tail (.enter (i := true) "v" rfl)
  have h9 := h8.tail (.acquire (i := true) rfl rfl)
  exact ⟨_, h9, rfl, rfl, fun j n hj => holder_unique h9 rfl hj⟩

end Contest

end VolumeNode.Node
