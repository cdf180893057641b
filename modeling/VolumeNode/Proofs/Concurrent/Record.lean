import VolumeNode.Proofs.Concurrent.Solo

/-!
# What a call asks when it is run by itself

A program that is run in a world that nobody else changes leaves, besides its result and the world, a
record of its questions and of the answers. `Yields` says what it leaves.

* `Yields.bind`, `Yields.andThen`: what the parts of a program leave is what it leaves.
* `alone_rel`: what no question changes, no program changes.
* `Confined.record_congr`: confined work asks the same of what is the same for its volume.
-/

namespace VolumeNode.Node

variable {I : Interface} {σ α β ε : Type}

/-- A question with its answer. -/
abbrev Asked (I : Interface) : Type :=
  (q : I.Question) × I.Answer q

/-- The questions of a program that is run by itself, with the answers. -/
def record (view : Reading I σ) : ℕ → Program I α → σ → List (Asked I)
  | _, .done _, _ => []
  | k, .ask q next, w =>
    ⟨q, ((view k q).outcome w).1⟩ ::
      record view (k + 1) (next ((view k q).outcome w).1) ((view k q).outcome w).2

/-- Whether a program that is run by itself leaves a result, a world and a record in `Q`. -/
def Yields (view : Reading I σ) (Q : α → σ → List (Asked I) → Prop) (k : ℕ) (p : Program I α)
    (w : σ) : Prop :=
  Q (alone view k p w).1 (alone view k p w).2 (record view k p w)

variable {view : Reading I σ} {Q Q' : α → σ → List (Asked I) → Prop} {k : ℕ} {p : Program I α}
  {w : σ}

theorem Yields.mono (h : Yields view Q k p w) (hQ : ∀ r w l, Q r w l → Q' r w l) :
    Yields view Q' k p w :=
  hQ _ _ _ h

/-- A single step is recorded with its answer. -/
theorem yields_single (view : Reading I σ) (k : ℕ) (q : I.Question)
    {Q : I.Answer q → σ → List (Asked I) → Prop} {f : σ → I.Answer q × σ}
    (hf : view k q = .outside f) (hQ : Q (f w).1 (f w).2 [⟨q, (f w).1⟩]) :
    Yields view Q k (.single q) w := by
  change Q ((view k q).outcome w).1 ((view k q).outcome w).2 [⟨q, ((view k q).outcome w).1⟩]
  rw [hf]
  exact hQ

/-- **One program after another**: the second goes on with the record of the first. -/
theorem Yields.bind {f : α → Program I β} {Q' : β → σ → List (Asked I) → Prop}
    (h : Yields view Q k p w)
    (hf : ∀ k a w l, Q a w l → Yields view (fun b w l' => Q' b w (l ++ l')) k (f a) w) :
    Yields view Q' k (p.bind f) w := by
  induction p generalizing k w Q Q' with
  | done a => exact hf k a w [] h
  | ask q next ih =>
    -- what is left of the program is run with the first question in the record
    change Yields view (fun b w l => Q' b w (⟨q, _⟩ :: l)) (k + 1) ((next _).bind f) _
    exact ih _ (Q := fun a w l => Q a w (⟨q, _⟩ :: l)) h fun k a w l hl => hf k a w _ hl

/-- What asks nothing leaves an empty record. -/
theorem yields_done {a : α} (h : Q a w []) : Yields view Q k (.done a) w :=
  h

/-- What comes of the result of a program without a question. -/
theorem Yields.map {f : α → β} {Q' : β → σ → List (Asked I) → Prop}
    (h : Yields view (fun a w l => Q' (f a) w l) k p w) :
    Yields view Q' k (p.bind fun a => .done (f a)) w := by
  refine h.bind fun k a w l hl => yields_done ?_
  rwa [List.append_nil]

/-- One program after another that has not failed. -/
theorem Yields.andThen {Q : Except ε α → σ → List (Asked I) → Prop}
    {Q' : Except ε β → σ → List (Asked I) → Prop} {p : Program I (Except ε α)}
    {f : α → Program I (Except ε β)} (h : Yields view Q k p w)
    (hok : ∀ k a w l, Q (.ok a) w l → Yields view (fun b w l' => Q' b w (l ++ l')) k (f a) w)
    (herror : ∀ e w l, Q (.error e) w l → Q' (.error e) w l) :
    Yields view Q' k (p.andThen f) w := by
  refine h.bind fun k r w l hl => ?_
  cases r with
  | ok a => exact hok k a w l hl
  | error e =>
    refine yields_done ?_
    rw [List.append_nil]
    exact herror e w l hl

/-- **What no question changes, no program changes.** -/
theorem alone_rel {P : I.Question → Prop} {R : σ → σ → Prop} (hp : p.Asks P) (hrefl : ∀ w, R w w)
    (htrans : ∀ {w w' w''}, R w w' → R w' w'' → R w w'')
    (hview : ∀ k q w, P q → R w ((view k q).outcome w).2) : R w (alone view k p w).2 := by
  induction p generalizing k w with
  | done a => exact hrefl w
  | ask q next ih => exact htrans (hview k q w hp.1) (ih _ (hp.2 _))

/-- **Confined work asks the same of what is the same for its volume.** -/
theorem Confined.record_congr {same : String → σ → σ → Prop} {v : String} {w' : σ}
    (hp : Confined view same v k p) (hw : same v w w') : record view k p w = record view k p w' := by
  induction p generalizing k w w' with
  | done a => rfl
  | ask q next ih =>
    obtain ⟨⟨f, hf, hl⟩, hnext⟩ := hp
    obtain ⟨ha, hs⟩ := hl.congr hw
    unfold record
    rw [hf]
    change ⟨q, (f w).1⟩ :: record view (k + 1) (next (f w).1) (f w).2 =
      ⟨q, (f w').1⟩ :: record view (k + 1) (next (f w').1) (f w').2
    rw [← ha, ih _ (hnext _) hs]

end VolumeNode.Node
