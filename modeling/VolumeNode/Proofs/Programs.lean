import Mathlib.Data.Nat.Notation
import VolumeNode.Program

/-!
# What a program asks, for how long, and what comes of it

* `Asks.bind`, `Asks.translate`: what the parts of a program ask is what it asks.
* `translate_bind`, `translate_andThen`: a composition is translated part by part.
* `EndsWithin.bind`, `EndsWithin.translate`: how long a program goes on is how long its parts do.
* `Returns.bind`: what holds of the results of a part may be used by the next one.
-/

namespace VolumeNode

/-- `P` holds of whatever is given; a failure gives nothing. -/
def Returns {ε α : Type} (P : α → Prop) (r : Except ε α) : Prop :=
  ∀ a, r = .ok a → P a

namespace Returns

variable {ε α β : Type} {P : α → Prop} {Q : β → Prop} {r : Except ε α} {f : α → Except ε β}

theorem ok {a : α} (h : P a) : Returns P (.ok a : Except ε α) := by
  rintro _ ⟨⟩
  exact h

theorem error (e : ε) : Returns P (.error e) :=
  nofun

theorem bind (h : Returns P r) (hf : ∀ a, P a → Returns Q (f a)) : Returns Q (r >>= f) := by
  cases r with
  | error e => exact error e
  | ok a => exact hf a (h a rfl)

end Returns

namespace Program

variable {I J : Interface} {α β ε : Type}

/-- Whether a program asks nothing but questions in `P`, whatever the answers. -/
def Asks (P : I.Question → Prop) : Program I α → Prop
  | .done _ => True
  | .ask q next => P q ∧ ∀ a, (next a).Asks P

/-- Whether a program ends within so many steps, whatever the answers. -/
def EndsWithin : ℕ → Program I α → Prop
  | _, .done _ => True
  | 0, .ask _ _ => False
  | n + 1, .ask _ next => ∀ a, (next a).EndsWithin n

variable {P : I.Question → Prop} {P' : J.Question → Prop} {p : Program I α} {f : α → Program I β}
  {k n : ℕ}

theorem asks_single {q : I.Question} : (single q).Asks P ↔ P q :=
  ⟨fun h => h.1, fun h => ⟨h, fun _ => trivial⟩⟩

theorem Asks.mono {P' : I.Question → Prop} (h : p.Asks P) (hP : ∀ q, P q → P' q) : p.Asks P' := by
  induction p with
  | done a => trivial
  | ask q next ih => exact ⟨hP q h.1, fun a => ih a (h.2 a)⟩

theorem Asks.bind (h : p.Asks P) (hf : ∀ a, (f a).Asks P) : (p.bind f).Asks P := by
  induction p with
  | done a => exact hf a
  | ask q next ih => exact ⟨h.1, fun a => ih a (h.2 a)⟩

theorem Asks.andThen {p : Program I (Except ε α)} {f : α → Program I (Except ε β)} (h : p.Asks P)
    (hf : ∀ a, (f a).Asks P) : (p.andThen f).Asks P := by
  refine h.bind fun r => ?_
  cases r with
  | ok a => exact hf a
  | error e => trivial

/-- A translated program asks what the translations of its questions ask. -/
theorem Asks.translate {g : (q : I.Question) → Program J (I.Answer q)} (h : p.Asks P)
    (hg : ∀ q, P q → (g q).Asks P') : (p.translate g).Asks P' := by
  induction p with
  | done a => trivial
  | ask q next ih => exact (hg q h.1).bind fun a => ih a (h.2 a)

/-- Translating a composition is composing the translations. -/
theorem translate_bind (g : (q : I.Question) → Program J (I.Answer q)) (p : Program I α)
    (f : α → Program I β) :
    (p.bind f).translate g = (p.translate g).bind fun a => (f a).translate g := by
  induction p with
  | done a => rfl
  | ask q next ih =>
    change (g q).bind (fun x => ((next x).bind f).translate g) = ((g q).bind _).bind _
    rw [bind_assoc]
    congr 1
    funext x
    exact ih x

/-- So is translating a composition of programs that may fail. -/
theorem translate_andThen (g : (q : I.Question) → Program J (I.Answer q))
    (p : Program I (Except ε α)) (f : α → Program I (Except ε β)) :
    (p.andThen f).translate g = (p.translate g).andThen fun a => (f a).translate g := by
  refine (translate_bind g p _).trans ?_
  unfold andThen
  congr 1
  funext r
  cases r <;> rfl

theorem endsWithin_done {a : α} : (done a : Program I α).EndsWithin n := by
  cases n <;> trivial

theorem endsWithin_single {q : I.Question} : (single q).EndsWithin 1 :=
  fun _ => trivial

theorem EndsWithin.mono (h : p.EndsWithin k) (hkn : k ≤ n) : p.EndsWithin n := by
  induction p generalizing k n with
  | done a => exact endsWithin_done
  | ask q next ih =>
    cases k with
    | zero => exact h.elim
    | succ k =>
      obtain ⟨n, rfl⟩ : ∃ n', n = n' + 1 := ⟨n - 1, by omega⟩
      exact fun a => ih a (h a) (by omega)

theorem EndsWithin.bind (h : p.EndsWithin k) (hf : ∀ a, (f a).EndsWithin n) :
    (p.bind f).EndsWithin (k + n) := by
  induction p generalizing k with
  | done a => exact (hf a).mono (by omega)
  | ask q next ih =>
    cases k with
    | zero => exact h.elim
    | succ k =>
      rw [Nat.add_right_comm]
      exact fun a => ih a (h a)

theorem EndsWithin.andThen {p : Program I (Except ε α)} {f : α → Program I (Except ε β)}
    (h : p.EndsWithin k) (hf : ∀ a, (f a).EndsWithin n) : (p.andThen f).EndsWithin (k + n) := by
  refine h.bind fun r => ?_
  cases r with
  | ok a => exact hf a
  | error e => exact endsWithin_done

/-- A translated program takes for each question as many steps as its translation does. -/
theorem EndsWithin.translate {g : (q : I.Question) → Program J (I.Answer q)} (h : p.EndsWithin k)
    (hg : ∀ q, (g q).EndsWithin n) : (p.translate g).EndsWithin (k * n) := by
  induction p generalizing k with
  | done a => exact endsWithin_done
  | ask q next ih =>
    cases k with
    | zero => exact h.elim
    | succ k =>
      rw [Nat.succ_mul, Nat.add_comm]
      exact (hg q).bind fun a => ih a (h a)

end Program

end VolumeNode
