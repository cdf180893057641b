import Mathlib.Algebra.BigOperators.Group.Finset.Basic
import Mathlib.Algebra.Order.BigOperators.Group.Finset
import Mathlib.Data.Fintype.Card
import Mathlib.Logic.Function.Basic
import VolumeNode.Node.Locks
import VolumeNode.Proofs.Programs

/-!
# Calls that go on at the same time

A call is a program. Each of its steps either uses the lock table or asks the world outside, and a
`Reading` says which, and how the world answers: the answers may depend on the call and on how many
steps it has taken, so a reading carries a script of what goes wrong. A `Scene` is what a run has come
to; a run is given by the order in which the calls take their steps, and a call whose mutex is taken
has no step to take.

* `taken_eq_count`: a call has taken as many steps as it has had turns.
* `length_le_of_endsWithin`: calls that end within `n` steps have no longer run than `n` steps each.
-/

namespace VolumeNode.Node

/-- What a step with answers in `α` does. -/
inductive Effect (σ : Type) : Type → Type 1 where
  | enter (volume : String) : Effect σ Ticket
  | acquire (m : Ticket) : Effect σ Unit
  | release (m : Ticket) : Effect σ Unit
  | discard (volume : String) : Effect σ Unit
  /-- The world outside answers, and changes. -/
  | outside {α : Type} (f : σ → α × σ) : Effect σ α

namespace Effect

variable {σ α : Type}

/-- The answer to a step with what it leaves behind; `none` if the call has to wait. -/
def perform : Effect σ α → LockTable → σ → Option (α × LockTable × σ)
  | enter v, t, w => some ((t.enter v).1, (t.enter v).2, w)
  | acquire m, t, w => if t.isFree m then some ((), t.acquire m, w) else none
  | release m, t, w => some ((), t.release m, w)
  | discard v, t, w => some ((), t.discard v, w)
  | outside f, t, w => some ((f w).1, t, (f w).2)

/-- Whether the step takes a mutex. -/
def grants : Effect σ α → Bool
  | acquire _ => true
  | _ => false

end Effect

/-- What the steps of a call do, given how many steps it has taken. -/
abbrev Reading (I : Interface) (σ : Type) :=
  ℕ → (q : I.Question) → Effect σ (I.Answer q)

/-- A call, with the number of steps it has taken. -/
structure InFlight (I : Interface) (α : Type) where
  taken : ℕ
  rest : Program I α

/-- What a run of calls has come to. -/
structure Scene (I : Interface) (σ α ι : Type) where
  locks : LockTable
  world : σ
  calls : ι → InFlight I α
  /-- The calls that have been granted their mutex, in order. -/
  granted : List ι

namespace Scene

variable {I : Interface} {σ α ι : Type}

/-- No call has taken a step, and no lock is in use. -/
def start (w : σ) (p : ι → Program I α) : Scene I σ α ι :=
  ⟨.empty, w, fun i => ⟨0, p i⟩, []⟩

variable [DecidableEq ι]

/-- The scene after a step of a call; `none` if it has ended or has to wait. -/
def turn? (view : ι → Reading I σ) (s : Scene I σ α ι) (i : ι) : Option (Scene I σ α ι) :=
  match (s.calls i).rest with
  | .done _ => none
  | .ask q next =>
    let e := view i (s.calls i).taken q
    (e.perform s.locks s.world).map fun (a, locks, world) =>
      { locks, world
        calls := Function.update s.calls i ⟨(s.calls i).taken + 1, next a⟩
        granted := if e.grants then s.granted ++ [i] else s.granted }

/-- The scene after the steps of calls in the given order; `none` if one of them has no step to
take. -/
def run? (view : ι → Reading I σ) (s : Scene I σ α ι) : List ι → Option (Scene I σ α ι)
  | [] => some s
  | i :: rest => (turn? view s i).bind (run? view · rest)

/-- No call has a step to take. -/
def Still (view : ι → Reading I σ) (s : Scene I σ α ι) : Prop :=
  ∀ i, turn? view s i = none

/-- The result of a call that has ended. -/
def result? (s : Scene I σ α ι) (i : ι) : Option α :=
  match (s.calls i).rest with
  | .done r => some r
  | .ask _ _ => none

variable {view : ι → Reading I σ} {s s' : Scene I σ α ι} {i j : ι}

theorem run?_append (view : ι → Reading I σ) (s : Scene I σ α ι) (k l : List ι) :
    run? view s (k ++ l) = (run? view s k).bind (run? view · l) := by
  induction k generalizing s with
  | nil => rfl
  | cons i k ih =>
    rw [List.cons_append, run?, run?, Option.bind_assoc]
    congr 1
    funext t
    exact ih t

/-- A step taken: what was asked, what came back, and what it has led to. -/
theorem turn?_eq_some (h : turn? view s i = some s') : ∃ q next a,
    (s.calls i).rest = .ask q next ∧
    (view i (s.calls i).taken q).perform s.locks s.world = some (a, s'.locks, s'.world) ∧
    s'.calls = Function.update s.calls i ⟨(s.calls i).taken + 1, next a⟩ ∧
    s'.granted = if (view i (s.calls i).taken q).grants then s.granted ++ [i] else s.granted := by
  unfold turn? at h
  cases hr : (s.calls i).rest with
  | done r =>
    rw [hr] at h
    cases h
  | ask q next =>
    rw [hr] at h
    obtain ⟨⟨a, t, w⟩, hp, rfl⟩ := Option.map_eq_some_iff.1 h
    exact ⟨q, next, a, rfl, hp, rfl, rfl⟩

/-- **What every step preserves holds after every run.** -/
theorem run?_induction {J : Scene I σ α ι → Prop} {order : List ι} (h : run? view s order = some s')
    (hJ : J s) (hstep : ∀ s i s', J s → turn? view s i = some s' → J s') : J s' := by
  induction order generalizing s with
  | nil =>
    cases h
    exact hJ
  | cons i order ih =>
    obtain ⟨t, ht, h⟩ := Option.bind_eq_some_iff.1 h
    exact ih h (hstep s i t hJ ht)

/-- **A call has taken as many steps as it has had turns.** -/
theorem taken_eq_count {order : List ι} (h : run? view s order = some s') (i : ι) :
    (s'.calls i).taken = (s.calls i).taken + order.count i := by
  induction order generalizing s with
  | nil =>
    cases h
    rfl
  | cons j order ih =>
    obtain ⟨t, ht, h⟩ := Option.bind_eq_some_iff.1 h
    obtain ⟨q, next, a, -, -, hc, -⟩ := turn?_eq_some ht
    rw [ih h, hc]
    by_cases hij : i = j
    · subst hij
      rw [Function.update_self, List.count_cons_self]
      dsimp only
      omega
    · rw [Function.update_of_ne hij, List.count_cons_of_ne (Ne.symm hij)]

/-- A call that ends within `n` steps has not taken more. -/
theorem endsWithin_of_run? {order : List ι} {w : σ} {p : ι → Program I α} {n : ℕ}
    (hp : ∀ i, (p i).EndsWithin n) (h : run? view (start w p) order = some s) (i : ι) :
    ∃ k, (s.calls i).taken + k = n ∧ (s.calls i).rest.EndsWithin k := by
  revert i
  refine run?_induction (J := fun s => ∀ i, ∃ k, (s.calls i).taken + k = n ∧
    (s.calls i).rest.EndsWithin k) h (fun i => ⟨n, by simp [start], hp i⟩) ?_
  intro s i s' hs ht j
  obtain ⟨q, next, a, hr, -, hc, -⟩ := turn?_eq_some ht
  rw [hc]
  by_cases hij : j = i
  · subst hij
    obtain ⟨k, hk, he⟩ := hs j
    rw [hr] at he
    rw [Function.update_self]
    cases k with
    | zero => exact he.elim
    | succ k => exact ⟨k, by dsimp only; omega, he a⟩
  · rw [Function.update_of_ne hij]
    exact hs j

/-- **A run ends**: of calls that end within `n` steps each it has at most `n` steps for each. -/
theorem length_le_of_endsWithin [Fintype ι] {order : List ι} {w : σ} {p : ι → Program I α} {n : ℕ}
    (hp : ∀ i, (p i).EndsWithin n) (h : run? view (start w p) order = some s) :
    order.length ≤ n * Fintype.card ι := by
  have hcount : ∀ i, order.count i ≤ n := by
    intro i
    obtain ⟨k, hk, -⟩ := endsWithin_of_run? hp h i
    rw [taken_eq_count h i] at hk
    simp only [start] at hk
    omega
  calc order.length = ∑ i, order.count i := by
        have hsum := Multiset.sum_count_eq_card (s := Finset.univ) (m := (order : Multiset ι))
          fun i _ => Finset.mem_univ i
        simpa using hsum.symm
    _ ≤ ∑ _i : ι, n := Finset.sum_le_sum fun i _ => hcount i
    _ = n * Fintype.card ι := by
        rw [Finset.sum_const, Finset.card_univ, Nat.nsmul_eq_mul, Nat.mul_comm]

end Scene

end VolumeNode.Node
