import VolumeNode.Proofs.Concurrent.Record

/-!
# Transcripts

What a program asks in a world, with the answers. A world answers as it likes, and an answer may depend
on everything that has been asked before.

* `yields_transcript`: what a program leaves in a world, its run and its transcript have.
* `run_unchanged`: what no question of a run changes, the run does not change.
* `visits_translate`: a translated program asks what the translations of its questions ask.
* `filterMap_transcript_translate`: what is read off them is read off the translated program.
-/

namespace VolumeNode.Program

open Node (Asked Reading Yields alone record)

variable {I J : Interface} {α β σ : Type} {w : World I σ} {s : σ} {k : ℕ}

/-- The questions that a program asks in a world, each with the state it is asked in. -/
def visits (w : World I σ) : Program I α → σ → List (I.Question × σ)
  | .done _, _ => []
  | .ask q next, s => (q, s) :: (next (w q s).1).visits w (w q s).2

/-- The questions that a program asks in a world, with the answers. -/
def transcript (w : World I σ) (p : Program I α) (s : σ) : List (Asked I) :=
  (p.visits w s).map fun v => ⟨v.1, (w v.1 v.2).1⟩

/-- What a program asks is in its transcript. -/
theorem asks_transcript {P : I.Question → Prop} {p : Program I α} (h : p.Asks P) :
    ∀ y ∈ p.transcript w s, P y.1 := by
  induction p generalizing s with
  | done a => exact fun y hy => absurd hy List.not_mem_nil
  | ask q next ih =>
    intro y hy
    rcases List.mem_cons.1 hy with rfl | hy
    · exact h.1
    · exact ih _ (h.2 _) y hy

/-- **What no question of a run changes, the run does not change.** -/
theorem run_unchanged {γ : Type} {f : σ → γ} {P : I.Question → Prop} {p : Program I α}
    (hw : ∀ q s, P q → f (w q s).2 = f s) (h : ∀ y ∈ p.transcript w s, P y.1) :
    f (p.run w s).2 = f s := by
  induction p generalizing s with
  | done a => rfl
  | ask q next ih =>
    obtain ⟨hq, hrest⟩ := List.forall_mem_cons.1 h
    exact (ih _ hrest).trans (hw q s hq)

/-- One program after another asks first what the one asks, and then what the other does. -/
theorem visits_bind (p : Program I α) (f : α → Program I β) (s : σ) :
    (p.bind f).visits w s = p.visits w s ++ (f (p.run w s).1).visits w (p.run w s).2 := by
  induction p generalizing s with
  | done a => rfl
  | ask q next ih => exact congrArg ((q, s) :: ·) (ih _ _)

/-- **A translated program asks what the translations of its questions ask.** -/
theorem visits_translate {w : World J σ} (f : (q : I.Question) → Program J (I.Answer q))
    (p : Program I α) (s : σ) :
    (p.translate f).visits w s =
      (p.visits (fun q s => (f q).run w s) s).flatMap fun v => (f v.1).visits w v.2 := by
  induction p generalizing s with
  | done a => rfl
  | ask q next ih =>
    rw [translate, visits_bind, ih, visits, List.flatMap_cons]

/-- The transcript of a translated program consists of the transcripts of the translations. -/
theorem transcript_translate {w : World J σ} (f : (q : I.Question) → Program J (I.Answer q))
    (p : Program I α) (s : σ) :
    (p.translate f).transcript w s =
      (p.visits (fun q s => (f q).run w s) s).flatMap fun v => (f v.1).transcript w v.2 := by
  unfold transcript
  rw [visits_translate, List.map_flatMap]

section

variable {γ : Type} {w : World J σ} {f : (q : I.Question) → Program J (I.Answer q)}
  {P : I.Question → Bool} {h : Asked J → Option γ} {p : Program I α}

/-- **What is read off the translations of some questions** is read off a translated program, if nothing is
read off those of the others. -/
theorem filterMap_transcript_translate
    (hP : ∀ q s, P q = false → ((f q).transcript w s).filterMap h = []) :
    ((p.translate f).transcript w s).filterMap h =
      ((p.visits (fun q s => (f q).run w s) s).filter fun v => P v.1).flatMap fun v =>
        ((f v.1).transcript w v.2).filterMap h := by
  rw [transcript_translate]
  induction p.visits (fun q s => (f q).run w s) s with
  | nil => rfl
  | cons v l ih =>
    rw [List.flatMap_cons, List.filterMap_append, ih, List.filter_cons]
    cases hv : P v.1 with
    | true => rfl
    | false => rw [hP v.1 v.2 hv]; rfl

/-- The questions of a transcript are those that are visited. -/
theorem filter_transcript (w : World I σ) (p : Program I α) (s : σ) :
    ((p.transcript w s).map (·.1)).filter P = ((p.visits w s).filter fun v => P v.1).map (·.1) := by
  unfold transcript
  rw [List.map_map, List.filter_map]
  rfl

theorem filterMap_transcript_of_none
    (hP : ∀ q s, P q = false → ((f q).transcript w s).filterMap h = [])
    (hnone : ((p.transcript (fun q s => (f q).run w s) s).map (·.1)).filter P = []) :
    ((p.translate f).transcript w s).filterMap h = [] := by
  rw [filter_transcript, List.map_eq_nil_iff] at hnone
  rw [filterMap_transcript_translate hP, hnone]
  rfl

theorem filterMap_transcript_of_one {q : I.Question}
    (hP : ∀ q s, P q = false → ((f q).transcript w s).filterMap h = [])
    (hone : ((p.transcript (fun q s => (f q).run w s) s).map (·.1)).filter P = [q]) :
    ∃ s', ((p.translate f).transcript w s).filterMap h = ((f q).transcript w s').filterMap h := by
  rw [filter_transcript] at hone
  obtain ⟨v, hv, rfl⟩ := List.map_eq_singleton_iff.1 hone
  refine ⟨v.2, ?_⟩
  rw [filterMap_transcript_translate hP, hv, List.flatMap_singleton]

end

/-- A world as what the steps of a call do. -/
def reading (w : World I σ) : Reading I σ :=
  fun _ q => .outside (w q)

theorem alone_reading (p : Program I α) : alone (reading w) k p s = p.run w s := by
  induction p generalizing k s with
  | done a => rfl
  | ask q next ih => exact ih _

theorem record_reading (p : Program I α) : record (reading w) k p s = p.transcript w s := by
  induction p generalizing k s with
  | done a => rfl
  | ask q next ih => exact congrArg (⟨q, (w q s).1⟩ :: ·) (ih _)

/-- **What a program leaves in a world**, its run and its transcript have. -/
theorem yields_transcript {Q : α → σ → List (Asked I) → Prop}
    {p : Program I α} (h : Yields (reading w) Q k p s) :
    Q (p.run w s).1 (p.run w s).2 (p.transcript w s) := by
  rw [← alone_reading (k := k), ← record_reading (k := k)]
  exact h

/-- A program leaves its run and its transcript. -/
theorem yields_self (p : Program I α) :
    Yields (reading w) (fun x _ l => x = (p.run w s).1 ∧ l = p.transcript w s) k p s :=
  ⟨congrArg Prod.fst (alone_reading p), record_reading p⟩

end VolumeNode.Program
