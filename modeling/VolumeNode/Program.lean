/-!
# Programs over an interface

A program is what a call does up to the answers it gets: it has ended, or it asks a question and goes
on with the answer, whatever that is. One program serves every world that can answer, and a world
with state runs it. Main statements:

* `bind_assoc`: programs are composed associatively.
* `run_bind`: running a composition is running its parts one after the other.
* `run_translate`: translating the questions of a program and running it is running the program in
  the translated world.
-/

namespace VolumeNode

/-- The questions that may be asked, and what answers each of them has. -/
structure Interface where
  Question : Type
  Answer : Question → Type

/-- What a call does, up to the answers it gets. -/
inductive Program (I : Interface) (α : Type) where
  /-- The call has ended. -/
  | done (a : α)
  /-- The call asks, and goes on with the answer. -/
  | ask (q : I.Question) (next : I.Answer q → Program I α)

namespace Program

variable {I J : Interface} {α β γ ε σ : Type}

/-- One program after another. -/
def bind (p : Program I α) (f : α → Program I β) : Program I β :=
  match p with
  | done a => f a
  | ask q next => ask q fun x => (next x).bind f

instance : Monad (Program I) where
  pure := done
  bind := bind

/-- The program that asks one question. -/
def single (q : I.Question) : Program I (I.Answer q) :=
  ask q done

/-- One program after another that has not failed. -/
def andThen (p : Program I (Except ε α)) (f : α → Program I (Except ε β)) : Program I (Except ε β) :=
  p.bind fun
    | .ok a => f a
    | .error e => done (.error e)

/-- A program whose questions are themselves answered by programs. -/
def translate (f : (q : I.Question) → Program J (I.Answer q)) : Program I α → Program J α
  | done a => done a
  | ask q next => (f q).bind fun x => (next x).translate f

/-- A world that answers questions and changes by it. -/
abbrev World (I : Interface) (σ : Type) :=
  (q : I.Question) → σ → I.Answer q × σ

/-- The result of a program in a world. -/
def run (w : World I σ) : Program I α → σ → α × σ
  | done a, s => (a, s)
  | ask q next, s => (next (w q s).1).run w (w q s).2

theorem bind_done (p : Program I α) : p.bind done = p := by
  induction p with
  | done a => rfl
  | ask q next ih => exact congrArg (ask q) (funext ih)

theorem bind_assoc (p : Program I α) (f : α → Program I β) (g : β → Program I γ) :
    (p.bind f).bind g = p.bind fun a => (f a).bind g := by
  induction p with
  | done a => rfl
  | ask q next ih => exact congrArg (ask q) (funext ih)

/-- Running a composition is running its parts one after the other. -/
theorem run_bind (w : World I σ) (p : Program I α) (f : α → Program I β) (s : σ) :
    (p.bind f).run w s = (f (p.run w s).1).run w (p.run w s).2 := by
  induction p generalizing s with
  | done a => rfl
  | ask q next ih => exact ih (w q s).1 (w q s).2

/-- Running a translated program is running the program in the translated world. -/
theorem run_translate (w : World J σ) (f : (q : I.Question) → Program J (I.Answer q))
    (p : Program I α) (s : σ) :
    (p.translate f).run w s = p.run (fun q s => (f q).run w s) s := by
  induction p generalizing s with
  | done a => rfl
  | ask q next ih =>
    rw [translate, run_bind]
    exact ih _ _

/-- What every answer keeps, a whole run keeps. -/
theorem run_keeps {P : σ → Prop} {w : World I σ} (hw : ∀ q s, P s → P (w q s).2)
    (p : Program I α) {s : σ} (h : P s) : P (p.run w s).2 := by
  induction p generalizing s with
  | done a => exact h
  | ask q next ih => exact ih _ (hw q s h)

end Program

end VolumeNode
