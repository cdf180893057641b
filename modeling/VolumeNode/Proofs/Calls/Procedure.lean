import VolumeNode.Proofs.Calls.Questions
import VolumeNode.Proofs.Calls.Transcript

/-!
# What a call does outside of the lock table

The image tool, the mounts and the file tree see a call as the actions that it asks of them, one after
the other. A procedure says which these are: they are taken in turn, and none after the first that stops
it.

* `Carried.append`, `Carried.append_of_stopped`: one procedure after another.
* `Work.external_underLock`: the steps on a lock are not seen outside.
-/

namespace VolumeNode.Node

open Program (World reading)

section

variable {I : Interface}

/-- The steps of a procedure are carried out in turn, and none after the first that stops it. -/
inductive Carried (stops : Asked I → Bool) : List I.Question → List (Asked I) → Prop where
  | nil : Carried stops [] []
  | stop {q x rest} (h : stops ⟨q, x⟩ = true) : Carried stops (q :: rest) [⟨q, x⟩]
  | next {q x rest l} (h : stops ⟨q, x⟩ = false) (hrest : Carried stops rest l) :
      Carried stops (q :: rest) (⟨q, x⟩ :: l)

variable {stops : Asked I → Bool} {steps more : List I.Question} {l l' : List (Asked I)}

/-- A single step is taken, whether it stops the procedure or not. -/
theorem carried_single (q : I.Question) (x : I.Answer q) : Carried stops [q] [⟨q, x⟩] := by
  cases h : stops ⟨q, x⟩ with
  | true => exact .stop h
  | false => exact .next h .nil

/-- What has gone through goes on with what comes next. -/
theorem Carried.append (h : Carried stops steps l) (hgoes : l.any stops = false)
    (hmore : Carried stops more l') : Carried stops (steps ++ more) (l ++ l') := by
  induction h with
  | nil => exact hmore
  | stop hstop => simp [hstop] at hgoes
  | next hnext _ ih => exact .next hnext (ih (by simpa [hnext] using hgoes))

/-- What has stopped stays as it is. -/
theorem Carried.append_of_stopped (h : Carried stops steps l) (hstopped : l.any stops = true)
    (more : List I.Question) : Carried stops (steps ++ more) l := by
  induction h with
  | nil => simp at hstopped
  | stop hstop => exact .stop hstop
  | next hnext _ ih => exact .next hnext (ih (by simpa [hnext] using hstopped))

end

variable {σ : Type} {w : World Action.interface σ} {k : ℕ} {s : σ}

/-- Whether an action is on the lock table. -/
def onLocks : Action → Bool
  | .enter _ | .acquire _ | .release _ | .discard _ => true
  | _ => false

/-- The actions in a record that are seen outside of the lock table. -/
def external (l : List (Asked Action.interface)) : List (Asked Action.interface) :=
  l.filter fun y => !onLocks y.1

@[simp] theorem external_append (l l' : List (Asked Action.interface)) :
    external (l ++ l') = external l ++ external l' :=
  List.filter_append ..

/-- What the inspections in a record have said. -/
def inspections (l : List (Asked Action.interface)) : List (Except FileError Bool) :=
  l.filterMap fun
    | ⟨.inspect _, x⟩ => some x
    | _ => none

@[simp] theorem inspections_append (l l' : List (Asked Action.interface)) :
    inspections (l ++ l') = inspections l ++ inspections l' :=
  List.filterMap_append

/-- An action is recorded with its answer. -/
theorem yields_take (a : Action) :
    Yields (reading w) (fun x _ l => l = [(⟨a, x⟩ : Asked Action.interface)]) k a.take s :=
  yields_single (reading w) k a rfl rfl

/-- So is one of which the answer is put in another form. -/
theorem yields_take_map {β : Type} (a : Action) (f : a.Answer → β) :
    Yields (reading w) (fun y _ l => ∃ x, y = f x ∧ l = [(⟨a, x⟩ : Asked Action.interface)]) k
      (a.take.bind fun x => .done (f x)) s :=
  Yields.map ((yields_take a).mono fun x _ _ hl => ⟨x, rfl, hl⟩)

/-- What is about a volume and its target is not about its lock. -/
theorem About.onLocks_eq {c : Config} {v t : String} {a : Action} (h : About c v t a) :
    onLocks a = false := by
  cases h <;> rfl

/-- Work under a lock does nothing to the lock table. -/
theorem Work.external_eq {c : Config} {v t : String} {work : Call Unit} (h : Work c v t work) :
    external (work.transcript w s) = work.transcript w s := by
  refine List.filter_eq_self.2 fun y hy => ?_
  have habout : About c v t y.1 := Program.asks_transcript h.isAbout y hy
  rw [habout.onLocks_eq, Bool.not_false]

/-- **A call under a lock does outside what its work does**, with the same result. -/
theorem Work.external_underLock {c : Config} {v t : String} {work : Call Unit} (h : Work c v t work)
    (w : World Action.interface σ) (s : σ) :
    ∃ s', external ((underLock v work).transcript w s) = work.transcript w s' ∧
      ((underLock v work).run w s).1 = (work.run w s').1 := by
  refine Program.yields_transcript (k := 0)
    (Q := fun x _ l => ∃ s', external l = work.transcript w s' ∧ x = (work.run w s').1) ?_
  refine (yields_take (.enter v)).bind ?_
  rintro k ticket s _ rfl
  refine (yields_take (.acquire ticket)).bind ?_
  rintro k - s _ rfl
  refine (Program.yields_self work).bind ?_
  rintro k x s' _ ⟨rfl, rfl⟩
  refine (yields_take (.release ticket)).bind ?_
  rintro k - s' _ rfl
  refine Yields.map ((yields_take (.discard v)).mono ?_)
  rintro - s' _ rfl
  -- of the five parts only the work is seen outside
  refine ⟨s, ?_, rfl⟩
  rw [external_append, external_append, external_append, h.external_eq]
  exact List.append_nil _

end VolumeNode.Node
