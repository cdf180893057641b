import VolumeNode.Proofs.Concurrent.Stage

/-!
# Work under a lock keeps what the lock protects

A call that works under the lock of a volume may take the volume to be as the call before left it,
whatever calls of other volumes do meanwhile: each step is `Local` to a volume. A `Discipline` says
what holds of a volume between two calls and what each call, run by itself, makes of it.

* `Ensures`: what a program makes of a world that nobody else changes.
* `Discipline.holds`: what a discipline says holds at every point of every run, for any number of
  calls in any order.
-/

namespace VolumeNode.Node

variable {I : Interface} {σ α β ι : Type}

/-- The answer to a step and the world it leaves, whatever the locks are. -/
def Effect.outcome : Effect σ α → σ → α × σ
  | enter _, w => (Nat.zero, w)
  | acquire _, w | release _, w | discard _, w => ((), w)
  | outside f, w => f w

/-- Whether `f` depends on nothing but what `same v` compares, and changes nothing that `same u`
compares for another `u`. -/
structure Local (same : String → σ → σ → Prop) (v : String) (f : σ → α × σ) : Prop where
  congr : ∀ {w w'}, same v w w' → (f w).1 = (f w').1 ∧ same v (f w).2 (f w').2
  frame : ∀ {u} w, u ≠ v → same u w (f w).2

/-- Whether a program asks nothing but the world outside, and that only about one volume. -/
def Confined (view : Reading I σ) (same : String → σ → σ → Prop) (v : String) :
    ℕ → Program I α → Prop
  | _, .done _ => True
  | k, .ask q next =>
    (∃ f, view k q = .outside f ∧ Local same v f) ∧ ∀ a, Confined view same v (k + 1) (next a)

/-- Whether a program keeps the world in `R`, and ends with `Q` of its result. -/
def Ensures (view : Reading I σ) (R : σ → Prop) (Q : α → σ → Prop) : ℕ → Program I α → σ → Prop
  | _, .done r, w => R w ∧ Q r w
  | k, .ask q next, w =>
    R w ∧ Ensures view R Q (k + 1) (next ((view k q).outcome w).1) ((view k q).outcome w).2

section

variable {view : Reading I σ} {same : String → σ → σ → Prop} {R : σ → Prop} {Q Q' : α → σ → Prop}
  {k : ℕ} {p : Program I α} {f : α → Program I β} {v : String} {m : Ticket} {w w' : σ}

theorem Ensures.always (h : Ensures view R Q k p w) : R w := by
  cases p with
  | done r => exact h.1
  | ask q next => exact h.1

theorem Ensures.mono (h : Ensures view R Q k p w) (hQ : ∀ r w, R w → Q r w → Q' r w) :
    Ensures view R Q' k p w := by
  induction p generalizing k w with
  | done r => exact ⟨h.1, hQ r w h.1 h.2⟩
  | ask q next ih => exact ⟨h.1, ih _ h.2⟩

/-- **One program after another**: the second starts at some step in what the first has made. -/
theorem Ensures.bind {Q' : β → σ → Prop} (h : Ensures view R Q k p w)
    (hf : ∀ k a w, R w → Q a w → Ensures view R Q' k (f a) w) :
    Ensures view R Q' k (p.bind f) w := by
  induction p generalizing k w with
  | done r => exact hf k r w h.1 h.2
  | ask q next ih => exact ⟨h.1, ih _ h.2⟩

/-- One program after another that has not failed. -/
theorem Ensures.andThen {ε α β : Type} {Q : Except ε α → σ → Prop} {Q' : Except ε β → σ → Prop}
    {p : Program I (Except ε α)} {f : α → Program I (Except ε β)} (h : Ensures view R Q k p w)
    (hok : ∀ k a w, R w → Q (.ok a) w → Ensures view R Q' k (f a) w)
    (herror : ∀ e w, Q (.error e) w → Q' (.error e) w) : Ensures view R Q' k (p.andThen f) w := by
  refine h.bind fun k r w hR hQ => ?_
  cases r with
  | ok a => exact hok k a w hR hQ
  | error e => exact ⟨hR, herror e w hQ⟩

/-- A single step is what it does. -/
theorem ensures_single (view : Reading I σ) (k : ℕ) (q : I.Question) {Q : I.Answer q → σ → Prop}
    {f : σ → I.Answer q × σ} (hf : view k q = .outside f) (hR : R w) (hR' : R (f w).2)
    (hQ : Q (f w).1 (f w).2) : Ensures view R Q k (.single q) w := by
  refine ⟨hR, ?_⟩
  rw [hf]
  exact ⟨hR', hQ⟩

theorem Confined.of_asks {P : I.Question → Prop} (h : p.Asks P)
    (hview : ∀ k q, P q → ∃ f, view k q = .outside f ∧ Local same v f) :
    Confined view same v k p := by
  induction p generalizing k with
  | done r => trivial
  | ask q next ih => exact ⟨hview k q h.1, fun a => ih a (h.2 a)⟩

/-- A confined program is work under a lock, with what follows it. -/
theorem Confined.follows {tail : α → Program I α} (h : Confined view same v k p)
    (ht : ∀ k r, Follows view k (tail r) (.working v m (.done r))) :
    Follows view k (p.bind tail) (.working v m p) := by
  induction p generalizing k with
  | done r => exact ht k r
  | ask q next ih =>
    obtain ⟨⟨f, hf, -⟩, hnext⟩ := h
    change (view k q).Leads (.ask q) _ _
    rw [hf]
    exact ⟨v, m, next, rfl, fun a => ih a (hnext a)⟩

/-- What is different elsewhere makes no difference to a confined program. -/
theorem Ensures.congr (hp : Confined view same v k p) (hw : same v w w')
    (hR : ∀ {w w'}, same v w w' → R w → R w')
    (hQ : ∀ {w w'} r, same v w w' → Q r w → Q r w') (h : Ensures view R Q k p w) :
    Ensures view R Q k p w' := by
  induction p generalizing k w w' with
  | done r => exact ⟨hR hw h.1, hQ r hw h.2⟩
  | ask q next ih =>
    obtain ⟨⟨f, hf, hl⟩, hnext⟩ := hp
    obtain ⟨ha, hs⟩ := hl.congr hw
    refine ⟨hR hw h.1, ?_⟩
    have hthen := h.2
    rw [hf] at hthen ⊢
    change Ensures view R Q (k + 1) (next (f w').1) (f w').2
    rw [← ha]
    exact ih _ (hnext _) hs hthen

end

/-- What calls keep of each volume. The first stages of the calls are `first`; a call that is granted
its mutex has taken two steps. -/
structure Discipline (view : ι → Reading I σ) (first : ι → Stage I α) where
  /-- Whether two worlds are the same for a volume. -/
  same : String → σ → σ → Prop
  /-- What always holds. -/
  always : String → σ → Prop
  /-- What holds when no call works, after so many have been granted their mutex. -/
  between : String → List ι → σ → Prop
  /-- What is known of the result of a call. -/
  result : ι → List ι → α → Prop
  same_refl : ∀ v w, same v w w
  always_congr : ∀ {v w w'}, same v w w' → always v w → always v w'
  between_congr : ∀ {v g w w'}, same v w w' → between v g w → between v g w'
  always_of_between : ∀ {v g w}, between v g w → always v w
  between_append : ∀ {i u v p g w}, first i = .entering u p → u ≠ v → between v g w →
    between v (g ++ [i]) w
  result_append : ∀ {i j g r}, i ∈ g → result i g r → result i (g ++ [j]) r
  confined : ∀ {i v p}, first i = .entering v p → Confined (view i) same v 2 p
  work : ∀ {i v p g w}, first i = .entering v p → i ∉ g → between v g w →
    Ensures (view i) (always v) (fun r w => between v (g ++ [i]) w ∧ result i (g ++ [i]) r) 2 p w

namespace Discipline

variable {view : ι → Reading I σ} {first : ι → Stage I α}

/-- What is known of a call from its stage. -/
inductive Knows (d : Discipline view first) (c : Course I σ α ι) (i : ι) : Stage I α → Prop where
  | entering {v p} (hf : first i = .entering v p) (ht : c.taken i = 0) (hg : i ∉ c.granted) :
      Knows d c i (.entering v p)
  | waiting {v m p} (hf : first i = .entering v p) (ht : c.taken i = 1) (hg : i ∉ c.granted) :
      Knows d c i (.waiting v m p)
  | working {v m p} {p₀ : Program I α} (hf : first i = .entering v p₀) (hg : i ∈ c.granted)
      (hp : Confined (view i) d.same v (c.taken i) p)
      (hw : Ensures (view i) (d.always v)
        (fun r w => d.between v c.granted w ∧ d.result i c.granted r) (c.taken i) p c.world) :
      Knows d c i (.working v m p)
  | leaving {v r} {p₀ : Program I α} (hf : first i = .entering v p₀) (hg : i ∈ c.granted)
      (hr : d.result i c.granted r) : Knows d c i (.leaving v r)
  | ended {v r} {p₀ : Program I α} (hf : first i = .entering v p₀) (hg : i ∈ c.granted)
      (hr : d.result i c.granted r) : Knows d c i (.ended r)
  /-- It has asked nothing. -/
  | idle {r} (hf : first i = .ended r) (hg : i ∉ c.granted) : Knows d c i (.ended r)

/-- **What a discipline says of a course**: of each volume and of each call. -/
structure Holds (d : Discipline view first) (c : Course I σ α ι) : Prop where
  always : ∀ v, d.always v c.world
  between : ∀ v, (∀ i m p, c.stage i ≠ .working v m p) → d.between v c.granted c.world
  knows : ∀ i, d.Knows c i (c.stage i)
  nodup : c.granted.Nodup

variable {c c' : Course I σ α ι} {i j : ι} {w : σ}

theorem holds_start (d : Discipline view first)
    (hfirst : ∀ i, (∃ v p, first i = .entering v p) ∨ ∃ r, first i = .ended r)
    (hw : ∀ v, d.between v [] w) : d.Holds (Course.start w first) where
  always v := d.always_of_between (hw v)
  between v _ := hw v
  knows i := by
    change d.Knows _ i (first i)
    rcases hfirst i with ⟨v, p, hf⟩ | ⟨r, hf⟩
    · rw [hf]
      exact .entering hf rfl List.not_mem_nil
    · rw [hf]
      exact .idle hf List.not_mem_nil
  nodup := List.nodup_nil

variable {d : Discipline view first}

/-- What is known of a call stays known while the world changes only elsewhere, and while calls of
other volumes are granted their mutex. -/
theorem Knows.of_same (h : d.Knows c j (c.stage j)) (ht : c'.taken j = c.taken j)
    (hst : c'.stage j = c.stage j)
    (hg : c'.granted = c.granted ∨
      ∃ i u p, first i = .entering u p ∧ i ≠ j ∧ c'.granted = c.granted ++ [i] ∧
        ∀ m q, c.stage j ≠ .working u m q)
    (hw : ∀ v m p, c.stage j = .working v m p → d.same v c.world c'.world) :
    d.Knows c' j (c'.stage j) := by
  have hmem : j ∈ c.granted → j ∈ c'.granted := by
    intro hj
    rcases hg with hg | ⟨i, u, p, -, -, hg, -⟩ <;> rw [hg]
    · exact hj
    · exact List.mem_append_left _ hj
  have hnot : j ∉ c.granted → j ∉ c'.granted := by
    intro hj
    rcases hg with hg | ⟨i, u, p, -, hij, hg, -⟩ <;> rw [hg]
    · exact hj
    · simp [hj, Ne.symm hij]
  have hres : ∀ r, j ∈ c.granted → d.result j c.granted r → d.result j c'.granted r := by
    intro r hj hr
    rcases hg with hg | ⟨i, u, p, -, -, hg, -⟩ <;> rw [hg]
    · exact hr
    · exact d.result_append hj hr
  rw [hst]
  cases hs : c.stage j with
  | entering v p =>
    rw [hs] at h
    cases h with
    | entering hf h0 hj => exact .entering hf (ht.trans h0) (hnot hj)
  | waiting v m p =>
    rw [hs] at h
    cases h with
    | waiting hf h1 hj => exact .waiting hf (ht.trans h1) (hnot hj)
  | working v m p =>
    rw [hs] at h
    cases h with
    | working hf hj hp hwork =>
      -- its work ends with what is said of the calls granted by then, one more perhaps
      refine .working hf (hmem hj) (ht.symm ▸ hp) ?_
      rw [ht]
      refine (hwork.congr hp (hw v m p hs) d.always_congr fun r he hq =>
        ⟨d.between_congr he hq.1, hq.2⟩).mono ?_
      rintro r w - ⟨hb, hr⟩
      refine ⟨?_, hres r hj hr⟩
      rcases hg with hg | ⟨i, u, q, hfi, -, hg, hne⟩ <;> rw [hg]
      · exact hb
      · refine d.between_append hfi ?_ hb
        rintro rfl
        exact hne m p hs
  | leaving v r =>
    rw [hs] at h
    cases h with
    | leaving hf hj hr => exact .leaving hf (hmem hj) (hres r hj hr)
  | ended r =>
    rw [hs] at h
    cases h with
    | ended hf hj hr => exact .ended hf (hmem hj) (hres r hj hr)
    | idle hf hj => exact .idle hf (hnot hj)

variable [DecidableEq ι]

/-- What works after a step of another call has worked before. -/
theorem not_working_of_move {st : Stage I α} {t : LockTable} {g : List ι} {v : String}
    (h : ∀ j m p, (c.move i st t w g).stage j ≠ .working v m p)
    (hi : ∀ m p, c.stage i ≠ .working v m p) : ∀ j m p, c.stage j ≠ .working v m p := by
  intro j m p
  by_cases hj : j = i
  · subst hj
    exact hi m p
  · rw [← Course.stage_move_of_ne hj]
    exact h j m p

/-- What is known of every call stays known when one goes on and leaves the world and the grants as they
are. -/
theorem Holds.knows_move (h : d.Holds c) {st : Stage I α} {t : LockTable}
    (hi : d.Knows (c.move i st t c.world c.granted) i st) (j : ι) :
    d.Knows (c.move i st t c.world c.granted) j ((c.move i st t c.world c.granted).stage j) := by
  by_cases hj : j = i
  · subst hj
    rw [Course.stage_move_self]
    exact hi
  · exact (h.knows j).of_same (Course.taken_move_of_ne hj) (Course.stage_move_of_ne hj)
      (Or.inl rfl) fun v _ _ _ => d.same_refl v _

/-- **A call that is granted its mutex keeps the discipline**: its work finds what holds between. -/
theorem Holds.acquire {v : String} {m : Ticket} {p : Program I α} (h : d.Holds c)
    (hst : c.stage i = .waiting v m p)
    (hc : Contest.Reachable (c.move i (.working v m p) (c.locks.acquire m) c.world
      (c.granted ++ [i])).contest) :
    d.Holds (c.move i (.working v m p) (c.locks.acquire m) c.world (c.granted ++ [i])) := by
  have hi := h.knows i
  rw [hst] at hi
  obtain ⟨hf, h1, hg⟩ : first i = .entering v p ∧ c.taken i = 1 ∧ i ∉ c.granted := by
    cases hi with
    | waiting hf h1 hg => exact ⟨hf, h1, hg⟩
  -- no other call of the volume works, since no two do now
  have hidle : ∀ j n q, c.stage j ≠ .working v n q := by
    intro j n q hj
    have hji : j ≠ i := by
      rintro rfl
      rw [hst] at hj
      cases hj
    exact hji (Course.worker_eq hc ((Course.stage_move_of_ne hji).trans hj) Course.stage_move_self)
  refine ⟨h.always, ?_, ?_, ?_⟩
  · intro u hu
    -- `i` works on `v` now, so nothing is to be said of `v`
    have huv : v ≠ u := by
      rintro rfl
      exact hu i m p Course.stage_move_self
    exact d.between_append hf huv (h.between u (not_working_of_move hu (by simp [hst])))
  · intro j
    by_cases hj : j = i
    · subst hj
      rw [Course.stage_move_self]
      have ht : c.taken j + 1 = 2 := by rw [h1]
      refine .working hf (List.mem_append_right _ (List.mem_singleton_self j)) ?_ ?_
      · rw [Course.taken_move_self, ht]
        exact d.confined hf
      · rw [Course.taken_move_self, ht]
        exact d.work hf hg (h.between v hidle)
    · exact (h.knows j).of_same (Course.taken_move_of_ne hj) (Course.stage_move_of_ne hj)
        (Or.inr ⟨i, v, p, hf, Ne.symm hj, rfl, hidle j⟩) fun u _ _ _ => d.same_refl u _
  · exact h.nodup.append (List.nodup_singleton i) (by simpa using hg)

/-- **A step of work keeps the discipline**: what is said of its volume is said by the work, and what
is said of the others stays true. -/
theorem Holds.ask {v : String} {m : Ticket} {q : I.Question} {next : I.Answer q → Program I α}
    {f : σ → I.Answer q × σ} (h : d.Holds c) (hc : Contest.Reachable c.contest)
    (hst : c.stage i = .working v m (.ask q next)) (hq : view i (c.taken i) q = .outside f) :
    d.Holds (c.move i (.working v m (next (f c.world).1)) c.locks (f c.world).2 c.granted) := by
  have hi := h.knows i
  rw [hst] at hi
  cases hi with
  | working hf hg hp hw =>
    obtain ⟨⟨f', hf', hl⟩, hnext⟩ := hp
    rw [hq] at hf'
    cases hf'
    have hthen := hw.2
    rw [hq] at hthen
    change Ensures _ _ _ _ (next (f c.world).1) (f c.world).2 at hthen
    refine ⟨?_, ?_, ?_, h.nodup⟩
    · intro u
      by_cases huv : u = v
      · subst huv
        exact hthen.always
      · exact d.always_congr (hl.frame _ huv) (h.always u)
    · intro u hu
      have huv : u ≠ v := by
        rintro rfl
        exact hu i m _ Course.stage_move_self
      refine d.between_congr (hl.frame _ huv) (h.between u (not_working_of_move hu ?_))
      intro n p hn
      rw [hst] at hn
      cases hn
      exact huv rfl
    · intro j
      by_cases hj : j = i
      · subst hj
        rw [Course.stage_move_self]
        refine .working hf hg ?_ ?_
        · rw [Course.taken_move_self]
          exact hnext _
        · rw [Course.taken_move_self]
          exact hthen
      · refine (h.knows j).of_same (Course.taken_move_of_ne hj) (Course.stage_move_of_ne hj)
          (Or.inl rfl) ?_
        -- another call that works is one of another volume
        intro u n p hu
        refine hl.frame _ ?_
        rintro rfl
        exact hj (Course.worker_eq hc hu hst)

/-- **A call that frees its mutex keeps the discipline**: its work is done, and has made what it
ensures. -/
theorem Holds.release {v : String} {m : Ticket} {r : α} (h : d.Holds c)
    (hst : c.stage i = .working v m (.done r)) :
    d.Holds (c.move i (.leaving v r) (c.locks.release m) c.world c.granted) := by
  have hi := h.knows i
  rw [hst] at hi
  cases hi with
  | working hf hg hp hw =>
    obtain ⟨-, hb, hr⟩ := hw
    refine ⟨h.always, ?_, h.knows_move (.leaving hf hg hr), h.nodup⟩
    intro u hu
    by_cases huv : u = v
    · -- the work has ended with what holds between two calls
      subst huv
      exact hb
    · refine h.between u (not_working_of_move hu ?_)
      intro n p hn
      rw [hst] at hn
      cases hn
      exact huv rfl

/-- **Every step of every call keeps the discipline.** -/
theorem Holds.step (h : d.Holds c) (hc : Contest.Reachable c.contest)
    (hs : Course.Step view c i c') : d.Holds c' := by
  have hc' : Contest.Reachable c'.contest := by
    rcases hs.contest with hs | hs
    · exact hc.tail hs
    · rwa [hs]
  have hi := h.knows i
  cases hs with
  | enter hst =>
    rw [hst] at hi
    cases hi with
    | entering hf h0 hg =>
      refine ⟨h.always, ?_, h.knows_move (.waiting hf ?_ hg), h.nodup⟩
      · intro u hu
        exact h.between u (not_working_of_move hu (by simp [hst]))
      · rw [Course.taken_move_self, h0]
  | acquire hst hm => exact h.acquire hst hc'
  | ask hst hq => exact h.ask hc hst hq
  | release hst => exact h.release hst
  | discard hst =>
    rw [hst] at hi
    cases hi with
    | leaving hf hg hr =>
      refine ⟨h.always, ?_, h.knows_move (.ended hf hg hr), h.nodup⟩
      intro u hu
      exact h.between u (not_working_of_move hu (by simp [hst]))

/-- **A discipline holds at every point of every run.** -/
theorem holds (d : Discipline view first)
    (hfirst : ∀ i, (∃ v p, first i = .entering v p) ∨ ∃ r, first i = .ended r)
    (hw : ∀ v, d.between v [] w) (h : Course.Reaches view (Course.start w first) c) : d.Holds c := by
  have hphase : ∀ i, (first i).phase = .idle := by
    intro i
    rcases hfirst i with ⟨v, p, hf⟩ | ⟨r, hf⟩ <;> rw [hf] <;> rfl
  unfold Course.Reaches at h
  induction h with
  | refl => exact d.holds_start hfirst hw
  | tail hr hs ih =>
    obtain ⟨i, hs⟩ := hs
    exact ih.step (Course.Reaches.contest hphase hr) hs

end Discipline

end VolumeNode.Node
