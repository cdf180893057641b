import VolumeNode.Proofs.Concurrent.Calls
import VolumeNode.Proofs.Concurrent.Solo

/-!
# Calls one after another

Requests that are answered one at a time use one lock table and one world outside. A call finds no
mutex in use, so it never waits, and it leaves none; what it makes of the world is what its work makes
of it.

* `toEnd?_of_entering`: a call under a lock, step by step to its end.
* `Handled.of_opening`: a volume call is handled, and what it does is local to its volume.
* `served?_filter`: what a volume gets of a sequence of requests is what it gets of its own.
-/

namespace VolumeNode.Node

namespace LockTable

variable {t : LockTable} {v : String}

/-- The mutex that a call finds in a table without entries is free. -/
theorem isFree_enter (h : t.entries = []) : (t.enter v).2.isFree (t.enter v).1 = true := by
  have hv : t.find? v = none := by
    unfold find?
    rw [h]
    rfl
  unfold enter
  rw [hv]
  simp [isFree, update]

/-- The call leaves a table without entries. -/
theorem entries_discard (h : t.entries = []) :
    ((((t.enter v).2.acquire (t.enter v).1).release (t.enter v).1).discard v).entries = [] := by
  have hv : t.find? v = none := by
    unfold find?
    rw [h]
    rfl
  unfold enter
  rw [hv]
  simp [acquire, release, discard, find?, update, h]

end LockTable

section

variable {I : Interface} {σ α β : Type}

/-- A program that is run to its end while no other runs: its result, and the lock table and the world
it leaves; `none` if it has to wait for a mutex. -/
def toEnd? (view : Reading I σ) : ℕ → Program I α → LockTable → σ → Option (α × LockTable × σ)
  | _, .done r, t, w => some (r, t, w)
  | k, .ask q next, t, w =>
    ((view k q).perform t w).bind fun x => toEnd? view (k + 1) (next x.1) x.2.1 x.2.2

variable {view : Reading I σ} {k : ℕ} {p work : Program I α} {t : LockTable} {w : σ} {v : String}
  {m : Ticket} {r : α}

theorem toEnd?_ask {q : I.Question} {next : I.Answer q → Program I α} {a : I.Answer q}
    {t' : LockTable} {w' : σ} (h : (view k q).perform t w = some (a, t', w')) :
    toEnd? view k (.ask q next) t w = toEnd? view (k + 1) (next a) t' w' := by
  rw [toEnd?, h]
  rfl

/-- What comes of the result of a program without a question. -/
theorem toEnd?_map (p : Program I α) (f : α → β) (k : ℕ) (t : LockTable) (w : σ) :
    toEnd? view k (p.bind fun a => .done (f a)) t w =
      (toEnd? view k p t w).map fun x => (f x.1, x.2) := by
  induction p generalizing k t w with
  | done a => rfl
  | ask q next ih =>
    change ((view k q).perform t w).bind _ = (((view k q).perform t w).bind _).map _
    rw [Option.map_bind]
    congr 1
    funext x
    exact ih _ _ _ _

theorem toEnd?_of_ended (h : Follows view k p (.ended r)) : toEnd? view k p t w = some (r, t, w) := by
  cases p with
  | done a =>
    cases h
    rfl
  | ask q next => exact (Effect.not_leads_ended h).elim

theorem toEnd?_of_leaving (h : Follows view k p (.leaving v r)) :
    toEnd? view k p t w = some (r, t.discard v, w) := by
  cases p with
  | done a => cases h
  | ask q next =>
    obtain ⟨-, a, hp, hf⟩ := Effect.leads_leaving h t w
    rw [toEnd?_ask hp]
    exact toEnd?_of_ended hf

/-- Work is done on the world alone; then the mutex is freed and its entry looked after. -/
theorem toEnd?_of_working (h : Follows view k p (.working v m work)) :
    toEnd? view k p t w =
      some ((alone view k work w).1, (t.release m).discard v, (alone view k work w).2) := by
  -- the program and its work are taken apart together, question by question
  induction work generalizing k p w with
  | done r =>
    cases p with
    | done a => cases h
    | ask q next =>
      obtain ⟨-, ⟨r', a, hr, hp, hf⟩ | ⟨f, next', -, hask, -⟩⟩ := Effect.leads_working h t w
      · cases hr
        rw [toEnd?_ask hp]
        exact toEnd?_of_leaving hf
      · cases hask
  | ask q' next' ih =>
    cases p with
    | done a => cases h
    | ask q next =>
      obtain ⟨-, ⟨r', a, hr, -, -⟩ | ⟨f, next'', he, hask, hf⟩⟩ := Effect.leads_working h t w
      · cases hr
      · cases hask
        have hp : (view k q').perform t w = some ((f w).1, t, (f w).2) := by
          rw [he]
          rfl
        rw [toEnd?_ask hp, alone_ask he]
        exact ih _ hf

/-- **A call under a lock, step by step to its end**: if its mutex is free, it does its work, and what
it makes of the world is what its work makes of it. -/
theorem toEnd?_of_entering (h : Follows view 0 p (.entering v work))
    (hfree : (t.enter v).2.isFree (t.enter v).1 = true) :
    toEnd? view 0 p t w = some ((alone view 2 work w).1,
      (((t.enter v).2.acquire (t.enter v).1).release (t.enter v).1).discard v,
      (alone view 2 work w).2) := by
  cases p with
  | done a => cases h
  | ask q next =>
    -- first the mutex is looked up, then it is taken
    obtain ⟨-, a, henter, hwait⟩ := Effect.leads_entering h t w
    rw [toEnd?_ask henter]
    generalize next a = p at hwait
    cases p with
    | done a => cases hwait
    | ask q next =>
      obtain ⟨-, -, hacquire⟩ := Effect.leads_waiting hwait (t.enter v).2 w
      obtain ⟨a, hp, hwork⟩ := hacquire hfree
      rw [toEnd?_ask hp]
      exact toEnd?_of_working hwork

end

section

variable {I : Interface} {σ : Type}

/-- What is left when requests have been answered: the responses, each with its request, the lock table
and the world. -/
structure Aftermath (σ : Type) where
  responses : List (Request × Response)
  locks : LockTable
  world : σ

/-- Requests that are answered one after another; `none` if a call has to wait for a mutex. -/
def served? (view : Reading I σ) (answer : Request → Program I Response) :
    List Request → LockTable → σ → Option (Aftermath σ)
  | [], t, w => some ⟨[], t, w⟩
  | r :: rest, t, w =>
    (toEnd? view 0 (answer r) t w).bind fun x =>
      (served? view answer rest x.2.1 x.2.2).map fun s =>
        { s with responses := (r, x.1) :: s.responses }

variable {view : Reading I σ} {answer : Request → Program I Response}
  {same : String → σ → σ → Prop} {r : Request} {requests : List Request}

/-- Whether a request is answered whenever no mutex is in use, so that none is in use afterwards, in a
way that is local to its volume. -/
def Handled (view : Reading I σ) (same : String → σ → σ → Prop) (answer : Request → Program I Response)
    (r : Request) : Prop :=
  ∃ g : σ → Response × σ, Local same (namedVolume r) g ∧ ∀ t w, t.entries = [] →
    ∃ t', t'.entries = [] ∧ toEnd? view 0 (answer r) t w = some ((g w).1, t', (g w).2)

/-- **A volume call is handled**: it comes to its end, and what it does is local to its volume. -/
theorem Handled.of_opening {c : Config} {p : Program I (Except VolumeError Unit)}
    {f : Call Unit → Program I (Except VolumeError Unit)}
    (hanswer : answer r = p.bind fun x => .done (Response.ofResult x))
    (hp : Follows view 0 p (opening f c r))
    (hconfined : ∀ {v t work}, place? r = some (v, t) → Work c v t work →
      Confined view same v 2 (f work))
    (hrefl : ∀ u w, same u w w)
    (htrans : ∀ u {w w' w''}, same u w w' → same u w' w'' → same u w w'') :
    Handled view same answer r := by
  rcases opening_cases f c r with ⟨v, t, work, hplace, hwork, hopening⟩ | ⟨x, -, hopening⟩
  · rw [hopening] at hp
    have hlocal := hconfined hplace hwork
    refine ⟨fun w => (Response.ofResult (alone view 2 (f work) w).1, (alone view 2 (f work) w).2),
      ⟨fun hw => ?_, fun w hu => ?_⟩, fun t w ht => ?_⟩
    · rw [namedVolume_eq hplace] at hw ⊢
      obtain ⟨hresult, hworld⟩ := hlocal.alone_congr hw
      exact ⟨congrArg Response.ofResult hresult, hworld⟩
    · rw [namedVolume_eq hplace] at hu
      exact hlocal.alone_frame (hrefl _) (htrans _) hu w
    · refine ⟨_, LockTable.entries_discard (v := v) ht, ?_⟩
      rw [hanswer, toEnd?_map, toEnd?_of_entering hp (LockTable.isFree_enter ht)]
      rfl
  · -- a request that lacks something, or asks for nothing, is answered at once
    rw [hopening] at hp
    refine ⟨fun w => (Response.ofResult x, w), ⟨fun hw => ⟨rfl, hw⟩, fun w _ => hrefl _ w⟩,
      fun t w ht => ⟨t, ht, ?_⟩⟩
    rw [hanswer, toEnd?_map, toEnd?_of_ended hp]
    rfl

/-- **What a volume gets of a sequence of requests is what it gets of its own**: with or without the
others, it gets the same responses, and is left with the same. -/
theorem served?_filter {v : String} {t t' : LockTable} {w w' : σ}
    (h : ∀ r ∈ requests, Handled view same answer r)
    (hsymm : ∀ {w w'}, same v w w' → same v w' w)
    (htrans : ∀ {w w' w''}, same v w w' → same v w' w'' → same v w w'')
    (ht : t.entries = []) (ht' : t'.entries = []) (hw : same v w w') :
    ∃ s s', served? view answer requests t w = some s ∧
      served? view answer (requests.filter (namedVolume · = v)) t' w' = some s' ∧
      s.responses.filter (namedVolume ·.1 = v) = s'.responses ∧ same v s.world s'.world := by
  induction requests generalizing t t' w w' with
  | nil => exact ⟨⟨[], t, w⟩, ⟨[], t', w'⟩, rfl, rfl, rfl, hw⟩
  | cons r rest ih =>
    obtain ⟨g, hlocal, hg⟩ := h r List.mem_cons_self
    have hrest : ∀ r' ∈ rest, Handled view same answer r' :=
      fun r' hr' => h r' (List.mem_cons_of_mem r hr')
    obtain ⟨u, hu, hstep⟩ := hg t w ht
    by_cases hr : namedVolume r = v
    · -- a request of the volume is answered in both
      obtain ⟨u', hu', hstep'⟩ := hg t' w' ht'
      obtain ⟨hresponse, hsame⟩ := hlocal.congr (hr.symm ▸ hw)
      rw [hr] at hsame
      obtain ⟨s, s', hs, hs', hresponses, hworld⟩ := ih hrest hu hu' hsame
      refine ⟨{ s with responses := (r, (g w).1) :: s.responses },
        { s' with responses := (r, (g w').1) :: s'.responses }, ?_, ?_, ?_, hworld⟩
      · rw [served?, hstep, Option.bind_some, hs]
        rfl
      · rw [List.filter_cons_of_pos (by simpa using hr), served?, hstep', Option.bind_some, hs']
        rfl
      · rw [List.filter_cons_of_pos (by simpa using hr), hresponses, hresponse]
    · -- a request of another is left out, and leaves the volume alone
      have hframe := hlocal.frame w (Ne.symm hr)
      obtain ⟨s, s', hs, hs', hresponses, hworld⟩ := ih hrest hu ht' (htrans (hsymm hframe) hw)
      refine ⟨{ s with responses := (r, (g w).1) :: s.responses }, s', ?_, ?_, ?_, hworld⟩
      · rw [served?, hstep, Option.bind_some, hs]
        rfl
      · rw [List.filter_cons_of_neg (by simpa using hr), hs']
      · rw [List.filter_cons_of_neg (by simpa using hr), hresponses]

end

end VolumeNode.Node
