import VolumeNode.Host.Step
import VolumeNode.Proofs.Calls.Questions
import VolumeNode.Proofs.Concurrent.Discipline

/-!
# Volume calls under the locks of their volumes

* `follows_call`, `follows_onHost_call`: a volume call goes through the stages of a call under a lock.
-/

namespace VolumeNode.Node

variable {I : Interface} {σ : Type} {c : Config} {r : Request} {v : String} {m : Ticket}
  {same : String → σ → σ → Prop}

/-- The first stage of the call that a request asks for, with its work in other steps. -/
def opening (f : Call Unit → Program I (Except VolumeError Unit)) (c : Config) (r : Request) :
    Stage I (Except VolumeError Unit) :=
  match plan c r with
  | .inl (v, work) => .entering v (f work)
  | .inr x => .ended x

/-- A call that passes its checks has its work before it; any other has ended. -/
theorem opening_cases (f : Call Unit → Program I (Except VolumeError Unit)) (c : Config)
    (r : Request) :
    (∃ v t work, place? r = some (v, t) ∧ Work c v t work ∧ opening f c r = .entering v (f work)) ∨
      ∃ x, place? r = none ∧ opening f c r = .ended x := by
  unfold opening
  rcases plan_cases c r with ⟨v, t, work, hplace, hwork, hplan⟩ | ⟨x, hplace, hplan⟩
  · rw [hplan]
    exact Or.inl ⟨v, t, work, hplace, hwork, rfl⟩
  · rw [hplan]
    exact Or.inr ⟨x, hplace, rfl⟩

theorem opening_phases (f : Call Unit → Program I (Except VolumeError Unit)) (c : Config)
    (r : Request) :
    (∃ v p, opening f c r = .entering v p) ∨ ∃ x, opening f c r = .ended x := by
  rcases opening_cases f c r with ⟨v, t, work, -, -, h⟩ | ⟨x, -, h⟩
  · exact Or.inl ⟨v, f work, h⟩
  · exact Or.inr ⟨x, h⟩

theorem opening_idle {f : Call Unit → Program I (Except VolumeError Unit)} :
    (opening f c r).phase = .idle := by
  rcases opening_phases f c r with ⟨v, p, h⟩ | ⟨x, h⟩ <;> rw [h] <;> rfl

/-- The work before a call is that of its request. -/
theorem work_of_opening {f : Call Unit → Program I (Except VolumeError Unit)}
    {p : Program I (Except VolumeError Unit)} (h : opening f c r = .entering v p) :
    ∃ t work, place? r = some (v, t) ∧ Work c v t work ∧ p = f work := by
  rcases opening_cases f c r with ⟨u, t, work, hplace, hwork, h'⟩ | ⟨x, -, h'⟩
  · rw [h] at h'
    cases h'
    exact ⟨t, work, hplace, hwork, rfl⟩
  · rw [h] at h'
    cases h'

/-- Whether two worlds are equal, if the volume is that of a request. -/
def SameOwn (r : Request) (v : String) (w w' : σ) : Prop :=
  ∀ t, place? r = some (v, t) → w = w'

/-- A call has one volume, so work that asks nothing but the world outside is confined to it, whatever
the world does. -/
theorem confined_sameOwn {α : Type} {view : Reading I σ} {P : I.Question → Prop} {work : Program I α}
    {t : String} {k : ℕ} (hr : place? r = some (v, t)) (hwork : work.Asks P)
    (hview : ∀ k q, P q → ∃ f, view k q = .outside f) : Confined view (SameOwn r) v k work := by
  refine .of_asks hwork fun k q hq => ?_
  obtain ⟨f, hf⟩ := hview k q hq
  refine ⟨f, hf, fun {w w'} hw => ?_, fun {u} w hu t' hr' => ?_⟩
  · rw [hw t hr]
    exact ⟨rfl, fun _ _ => rfl⟩
  · rw [hr] at hr'
    cases hr'
    exact (hu rfl).elim

/-- Whether actions on locks are what they say. -/
structure ReadsLocks (view : Reading Action.interface σ) : Prop where
  enter : ∀ k v, view k (.enter v) = Effect.enter v
  acquire : ∀ k m, view k (.acquire m) = Effect.acquire m
  release : ∀ k m, view k (.release m) = Effect.release m
  discard : ∀ k v, view k (.discard v) = Effect.discard v

/-- **A volume call goes through the stages of a call under a lock.** -/
theorem follows_call {view : Reading Action.interface σ} (hv : ReadsLocks view)
    (hwork : ∀ {v t work}, place? r = some (v, t) → Work c v t work → Confined view same v 2 work) :
    Follows view 0 (call c r) (opening id c r) := by
  rw [call_eq]
  unfold opening
  rcases plan_cases c r with ⟨v, t, work, hplace, hw, hplan⟩ | ⟨x, -, hplan⟩
  · rw [hplan]
    change (view 0 (.enter v)).Leads _ _ _
    rw [hv.enter]
    refine ⟨work, rfl, fun m => ?_⟩
    change (view 1 (.acquire m)).Leads _ _ _
    rw [hv.acquire]
    refine ⟨v, work, rfl, (hwork hplace hw).follows fun k r => ?_⟩
    change (view k (.release m)).Leads _ _ _
    rw [hv.release]
    refine ⟨v, r, rfl, ?_⟩
    change (view (k + 1) (.discard v)).Leads _ _ _
    rw [hv.discard]
    exact ⟨r, rfl, rfl⟩
  · rw [hplan]
    rfl

/-- Whether steps on locks are what they say. -/
structure ReadsHostLocks (view : Reading Host.Step.interface σ) : Prop where
  enter : ∀ k v, view k (.enter v) = Effect.enter v
  acquire : ∀ k m, view k (.acquire m) = Effect.acquire m
  release : ∀ k m, view k (.release m) = Effect.release m
  discard : ∀ k v, view k (.discard v) = Effect.discard v

/-- Work under a lock is on a host what its actions are there. -/
theorem onHost_underLock {α : Type} (v : String) (work : Call α) :
    Host.onHost (underLock v work) =
      .ask (I := Host.Step.interface) (.enter v) fun m =>
        .ask (I := Host.Step.interface) (.acquire m) fun _ =>
          (Host.onHost work).bind fun r =>
            .ask (I := Host.Step.interface) (.release m) fun _ =>
              .ask (I := Host.Step.interface) (.discard v) fun _ => .done r := by
  change Program.ask (I := Host.Step.interface) (.enter v) (fun m =>
    .ask (I := Host.Step.interface) (.acquire m) fun _ => Host.onHost (work.bind _)) = _
  congr 1
  funext m
  congr 1
  funext x
  exact Program.translate_bind ..

/-- **A volume call on a host goes through the stages of a call under a lock.** -/
theorem follows_onHost_call {view : Reading Host.Step.interface σ} (hv : ReadsHostLocks view)
    (hwork : ∀ {v t work}, place? r = some (v, t) → Work c v t work →
      Confined view same v 2 (Host.onHost work)) :
    Follows view 0 (Host.onHost (call c r)) (opening Host.onHost c r) := by
  rw [call_eq]
  unfold opening
  rcases plan_cases c r with ⟨v, t, work, hplace, hw, hplan⟩ | ⟨x, -, hplan⟩
  · rw [hplan]
    dsimp only
    rw [onHost_underLock]
    change (view 0 (.enter v)).Leads _ _ _
    rw [hv.enter]
    refine ⟨Host.onHost work, rfl, fun m => ?_⟩
    change (view 1 (.acquire m)).Leads _ _ _
    rw [hv.acquire]
    refine ⟨v, Host.onHost work, rfl, (hwork hplace hw).follows fun k r => ?_⟩
    change (view k (.release m)).Leads _ _ _
    rw [hv.release]
    refine ⟨v, r, rfl, ?_⟩
    change (view (k + 1) (.discard v)).Leads _ _ _
    rw [hv.discard]
    exact ⟨r, rfl, rfl⟩
  · rw [hplan]
    rfl

end VolumeNode.Node
