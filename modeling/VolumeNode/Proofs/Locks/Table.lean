import Mathlib.Tactic
import VolumeNode.Node.Locks

/-!
# What each lock operation does to the table

The table is looked at through `find?`, the mutex of a volume, and through the state of each mutex.
Taking, freeing and giving up a mutex leave the entries alone, so only `enter` and `discard` have
more to say:

* `enter_cases`: a call shares the mutex of its volume, or gets a fresh one.
* `discard_cases`: an entry goes only when the table has the last handle on it.
* `handles_of_find?_discard`: and it stays only when the table has not.
-/

namespace VolumeNode.Node.LockTable

variable {t : LockTable} {u v : String} {m n : Ticket} {f : Mutex → Mutex}

@[simp] theorem find?_empty (v : String) : empty.find? v = none := rfl

@[simp] theorem find?_acquire : (t.acquire m).find? v = t.find? v := rfl

@[simp] theorem find?_release : (t.release m).find? v = t.find? v := rfl

@[simp] theorem find?_abandon : (t.abandon m).find? v = t.find? v := rfl

@[simp] theorem fresh_acquire : (t.acquire m).fresh = t.fresh := rfl

@[simp] theorem fresh_release : (t.release m).fresh = t.fresh := rfl

@[simp] theorem fresh_abandon : (t.abandon m).fresh = t.fresh := rfl

@[simp] theorem mutexes_update_self : (t.update m f).mutexes m = f (t.mutexes m) :=
  if_pos rfl

theorem mutexes_update_of_ne (h : n ≠ m) : (t.update m f).mutexes n = t.mutexes n :=
  if_neg h

theorem lookup_cons_of_ne {e : String × Ticket} (l : List (String × Ticket)) (h : u ≠ e.1) :
    (e :: l).lookup u = l.lookup u := by
  have hb : (u == e.1) = false := by simpa using h
  rw [List.lookup_cons, hb]

theorem mutexes_acquire_self : (t.acquire m).mutexes m = ⟨true, (t.mutexes m).handles⟩ :=
  mutexes_update_self

theorem mutexes_release_self : (t.release m).mutexes m = ⟨false, (t.mutexes m).handles - 1⟩ :=
  mutexes_update_self

theorem mutexes_abandon_self :
    (t.abandon m).mutexes m = ⟨(t.mutexes m).held, (t.mutexes m).handles - 1⟩ :=
  mutexes_update_self

/-- **A call shares the mutex of its volume, or gets a fresh one.** -/
theorem enter_cases (t : LockTable) (v : String) :
    (∀ u, u ≠ v → (t.enter v).2.find? u = t.find? u) ∧
    (∀ n, n ≠ (t.enter v).1 → (t.enter v).2.mutexes n = t.mutexes n) ∧
    ((t.find? v = some (t.enter v).1 ∧ (t.enter v).2.fresh = t.fresh ∧
        (t.enter v).2.mutexes (t.enter v).1 =
          ⟨(t.mutexes (t.enter v).1).held, (t.mutexes (t.enter v).1).handles + 1⟩) ∨
      (t.find? v = none ∧ (t.enter v).1 = t.fresh ∧ (t.enter v).2.fresh = t.fresh + 1 ∧
        (t.enter v).2.mutexes (t.enter v).1 = ⟨false, 2⟩)) := by
  unfold enter
  cases hv : t.find? v with
  | some m =>
    dsimp only
    exact ⟨fun _ _ => rfl, fun n hn => mutexes_update_of_ne hn,
      Or.inl ⟨rfl, rfl, mutexes_update_self⟩⟩
  | none =>
    dsimp only
    exact ⟨fun u hu => lookup_cons_of_ne _ hu, fun n hn => mutexes_update_of_ne hn,
      Or.inr ⟨rfl, rfl, rfl, mutexes_update_self⟩⟩

theorem lookup_filter_ne (l : List (String × Ticket)) (h : u ≠ v) :
    (l.filter (·.1 != v)).lookup u = l.lookup u := by
  induction l with
  | nil => rfl
  | cons e l ih =>
    by_cases hv : e.1 = v
    · rw [List.filter_cons_of_neg (by simpa using hv), ih, lookup_cons_of_ne l (hv ▸ h)]
    · rw [List.filter_cons_of_pos (by simpa using hv), List.lookup_cons, List.lookup_cons, ih]

theorem lookup_filter_self (l : List (String × Ticket)) :
    (l.filter (·.1 != v)).lookup v = none := by
  rw [List.lookup_eq_none_iff]
  intro e he
  have hne : e.1 ≠ v := by simpa using (List.mem_filter.1 he).2
  simpa using hne.symm

/-- **An entry goes only when the table has the last handle on it.** -/
theorem discard_cases (t : LockTable) (v : String) :
    (∃ m, t.find? v = some m ∧ (t.mutexes m).handles = 1 ∧ (t.discard v).find? v = none ∧
        (∀ u, u ≠ v → (t.discard v).find? u = t.find? u) ∧
        (∀ n, n ≠ m → (t.discard v).mutexes n = t.mutexes n) ∧ (t.discard v).fresh = t.fresh) ∨
      t.discard v = t := by
  cases hv : t.find? v with
  | none => exact Or.inr (by unfold discard; rw [hv])
  | some m =>
    by_cases h : (t.mutexes m).handles = 1
    · left
      unfold discard
      rw [hv]
      simp only [if_pos h]
      exact ⟨m, rfl, h, lookup_filter_self _, fun u hu => lookup_filter_ne _ hu,
        fun n hn => mutexes_update_of_ne hn, rfl⟩
    · right
      unfold discard
      rw [hv]
      exact if_neg h

/-- An entry that stays when it is looked after has more handles on its mutex than that of the table. -/
theorem handles_of_find?_discard (h : (t.discard v).find? v = some m) :
    t.find? v = some m ∧ (t.mutexes m).handles ≠ 1 := by
  unfold discard at h
  cases hv : t.find? v with
  | none => simp [hv] at h
  | some n =>
    by_cases hn : (t.mutexes n).handles = 1
    · simp only [hv, if_pos hn] at h
      exact absurd ((lookup_filter_self t.entries).symm.trans h) (by simp)
    · simp only [hv, if_neg hn] at h
      cases h
      exact ⟨rfl, hn⟩

/-- Each entry is found under its volume, or another one is. -/
theorem find?_of_mem {e : String × Ticket} (h : e ∈ t.entries) : ∃ m, t.find? e.1 = some m := by
  cases hv : t.find? e.1 with
  | some m => exact ⟨m, rfl⟩
  | none => exact absurd (List.lookup_eq_none_iff.1 hv e h) (by simp)

end VolumeNode.Node.LockTable
