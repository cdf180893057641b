import VolumeNode.Proofs.Concurrent.Discipline

/-!
# One call at a time

When no other call works, a call can take all its steps in a row, and what it makes of the world is
what its work makes of it (`alone`).

* `solo`: a call that has not begun can be run to its end while no other call works.
* `Shows.lift_solo`: such a run is one of the scene.
* `Confined.alone_congr`, `Confined.alone_frame`: confined work makes the same of what is the same for
  its volume, and nothing of what is elsewhere.
-/

namespace VolumeNode.Node

variable {I : Interface} {σ α ι : Type}

/-- What a program makes of a world that nobody else changes, with its result. -/
def alone (view : Reading I σ) : ℕ → Program I α → σ → α × σ
  | _, .done r, w => (r, w)
  | k, .ask q next, w =>
    alone view (k + 1) (next ((view k q).outcome w).1) ((view k q).outcome w).2

section

variable {view : Reading I σ} {same : String → σ → σ → Prop} {u v : String} {k : ℕ}
  {p : Program I α} {w w' : σ}

/-- What a program ensures of a world is said of what it makes of it. -/
theorem ensures_alone :
    Ensures view (fun _ => True) (fun r w' => (r, w') = alone view k p w) k p w := by
  induction p generalizing k w with
  | done r => exact ⟨trivial, rfl⟩
  | ask q next ih => exact ⟨trivial, ih _⟩

theorem Ensures.alone {R : σ → Prop} {Q : α → σ → Prop} (h : Ensures view R Q k p w) :
    Q (alone view k p w).1 (alone view k p w).2 := by
  induction p generalizing k w with
  | done r => exact h.2
  | ask q next ih => exact ih _ h.2

theorem alone_ask {q : I.Question} {next : I.Answer q → Program I α} {f : σ → I.Answer q × σ}
    (hf : view k q = .outside f) :
    alone view k (.ask q next) w = alone view (k + 1) (next (f w).1) (f w).2 := by
  change alone view (k + 1) (next ((view k q).outcome w).1) ((view k q).outcome w).2 = _
  rw [hf]
  rfl

/-- **Confined work makes the same of what is the same for its volume.** -/
theorem Confined.alone_congr (hp : Confined view same v k p) (hw : same v w w') :
    (alone view k p w).1 = (alone view k p w').1 ∧
      same v (alone view k p w).2 (alone view k p w').2 := by
  induction p generalizing k w w' with
  | done r => exact ⟨rfl, hw⟩
  | ask q next ih =>
    obtain ⟨⟨f, hf, hl⟩, hnext⟩ := hp
    obtain ⟨ha, hs⟩ := hl.congr hw
    rw [alone_ask hf, alone_ask hf, ← ha]
    exact ih _ (hnext _) hs

/-- **Confined work makes nothing of what is elsewhere.** -/
theorem Confined.alone_frame (hrefl : ∀ w, same u w w)
    (htrans : ∀ {w w' w''}, same u w w' → same u w' w'' → same u w w'')
    (hp : Confined view same v k p) (huv : u ≠ v) (w : σ) : same u w (alone view k p w).2 := by
  induction p generalizing k w with
  | done r => exact hrefl w
  | ask q next ih =>
    obtain ⟨⟨f, hf, hl⟩, hnext⟩ := hp
    rw [alone_ask hf]
    exact htrans (hl.frame w huv) (ih _ (hnext _) _)

end

variable [DecidableEq ι] {view : ι → Reading I σ} {same : String → σ → σ → Prop}
  {s : Scene I σ α ι} {c c' : Course I σ α ι} {i j : ι} {v : String} {m : Ticket} {p : Program I α}

/-- Steps of one call, in a row. -/
def Solo (view : ι → Reading I σ) (i : ι) (c c' : Course I σ α ι) : Prop :=
  Relation.ReflTransGen (Course.Step view · i) c c'

theorem Solo.reaches (h : Solo view i c c') : Course.Reaches view c c' :=
  Relation.ReflTransGen.mono (fun _ _ hs => ⟨i, hs⟩) _ _ h

/-- The other calls stay where they are. -/
theorem Solo.others (h : Solo view i c c') (hj : j ≠ i) :
    c'.stage j = c.stage j ∧ c'.taken j = c.taken j := by
  unfold Solo at h
  induction h with
  | refl => exact ⟨rfl, rfl⟩
  | tail _ hs ih =>
    rw [← ih.1, ← ih.2]
    cases hs with
    | enter | acquire | ask | release | discard =>
      exact ⟨Course.stage_move_of_ne hj, Course.taken_move_of_ne hj⟩

/-- **Steps in a row are a run of the scene.** -/
theorem Shows.lift_solo (h : Shows view s c) (hc : Solo view i c c') :
    ∃ n s', Scene.run? view s (List.replicate n i) = some s' ∧ Shows view s' c' := by
  unfold Solo at hc
  induction hc with
  | refl => exact ⟨0, s, rfl, h⟩
  | tail _ hs ih =>
    obtain ⟨n, s₁, hrun, hshows⟩ := ih
    obtain ⟨s', hturn, hshows'⟩ := hshows.lift hs
    refine ⟨n + 1, s', ?_, hshows'⟩
    rw [List.replicate_succ', Scene.run?_append, hrun, Option.bind_some]
    unfold Scene.run?
    rw [hturn]
    rfl

/-- Work can be done in a row. -/
theorem solo_work (hi : c.stage i = .working v m p) (hp : Confined (view i) same v (c.taken i) p) :
    ∃ c', Solo view i c c' ∧
      c'.stage i = .working v m (.done (alone (view i) (c.taken i) p c.world).1) ∧
      c'.world = (alone (view i) (c.taken i) p c.world).2 := by
  induction p generalizing c with
  | done r => exact ⟨c, .refl, hi, rfl⟩
  | ask q next ih =>
    obtain ⟨⟨f, hf, -⟩, hnext⟩ := hp
    have hstep := Course.Step.ask hi hf
    set c₁ := c.move i (.working v m (next (f c.world).1)) c.locks (f c.world).2 c.granted
    have ht : c₁.taken i = c.taken i + 1 := Course.taken_move_self
    obtain ⟨c', hsolo, hstage, hworld⟩ :=
      ih (f c.world).1 (c := c₁) Course.stage_move_self (ht.symm ▸ hnext _)
    rw [ht] at hstage hworld
    rw [alone_ask hf]
    exact ⟨c', .head hstep hsolo, hstage, hworld⟩

/-- **A call that has not begun can be run to its end while no other call works.** -/
theorem solo (hc : Contest.Reachable c.contest)
    (hothers : ∀ j v m q, c.stage j ≠ .working v m q) (hi : c.stage i = .entering v p)
    (h0 : c.taken i = 0) (hp : Confined (view i) same v 2 p) :
    ∃ c', Solo view i c c' ∧ c'.stage i = .ended (alone (view i) 2 p c.world).1 ∧
      c'.world = (alone (view i) 2 p c.world).2 := by
  set c₁ := c.move i (.waiting v (c.locks.enter v).1 p) (c.locks.enter v).2 c.world c.granted
  have henter : Course.Step view c i c₁ := .enter hi
  have hi₁ : c₁.stage i = .waiting v (c.locks.enter v).1 p := Course.stage_move_self
  have hc₁ : Contest.Reachable c₁.contest := by
    rcases henter.contest with hs | hs
    · exact hc.tail hs
    · rwa [hs]
  -- a mutex that is held is held by a call that works
  have hfree : c₁.locks.isFree (c.locks.enter v).1 = true := by
    by_contra hheld
    obtain ⟨j, q, hj⟩ := Course.exists_worker hc₁ hi₁ (by simpa using hheld)
    have hji : j ≠ i := by
      rintro rfl
      rw [hi₁] at hj
      cases hj
    exact hothers j _ _ _ ((Course.stage_move_of_ne hji).symm.trans hj)
  set c₂ := c₁.move i (.working v (c.locks.enter v).1 p) (c₁.locks.acquire (c.locks.enter v).1)
    c₁.world (c₁.granted ++ [i])
  have hacquire : Course.Step view c₁ i c₂ := .acquire hi₁ hfree
  have ht₂ : c₂.taken i = 2 := by
    rw [Course.taken_move_self, Course.taken_move_self, h0]
  obtain ⟨c₃, hsolo, hi₃, hw₃⟩ := solo_work (c := c₂) Course.stage_move_self (ht₂.symm ▸ hp)
  rw [ht₂] at hi₃ hw₃
  set c₄ := c₃.move i (.leaving v (alone (view i) 2 p c₂.world).1)
    (c₃.locks.release (c.locks.enter v).1) c₃.world c₃.granted
  have hrelease : Course.Step view c₃ i c₄ := .release hi₃
  have hi₄ : c₄.stage i = .leaving v (alone (view i) 2 p c₂.world).1 := Course.stage_move_self
  have hdiscard : Course.Step view c₄ i (c₄.move i (.ended (alone (view i) 2 p c₂.world).1)
      (c₄.locks.discard v) c₄.world c₄.granted) := .discard hi₄
  exact ⟨_, .head henter (.head hacquire ((hsolo.tail hrelease).tail hdiscard)),
    Course.stage_move_self, hw₃⟩

end VolumeNode.Node
