import VolumeNode.Proofs.Concurrent.Surroundings

/-!
# Several volumes at one target

Mutexes are kept for volumes, not for targets. A call mounts on a target only right after it has found
it not mounted, and its mutex keeps other calls of its volume away meanwhile; it does not keep away a
call of another volume that names the same target.

* `Work.cautious`: under its lock a call mounts once, after an inspection, with nothing but the
  creation of the target between.
* `contested_of_mounted`: a call mounts on a mounted target only if a call of another volume has mounted
  on it since the first one inspected it last.
* `mounted_twice`: two volumes at one target can have it mounted twice.
-/

namespace VolumeNode.Node

variable {A B ι : Type} {c : Config} {t u v : String} {m : Ticket} {k : ℕ} {p q : Call Unit}

/-- The target that an action mounts on. -/
def mountTarget? : Action → Option String
  | .mount _ t _ _ => some t
  | _ => none

/-- The target on which a call mounts in its next step. -/
def mountsOn? : Call Unit → Option String
  | .done _ => none
  | .ask a _ => mountTarget? a

/-- The target that an action inspects. -/
def inspectTarget? : Action → Option String
  | .inspect t => some t
  | _ => none

/-- Whether a call inspects no target any more, whatever the answers. -/
def PastInspection (p : Call Unit) : Prop :=
  p.Asks (I := Action.interface) (inspectTarget? · = none)

/-- Whether a call is past its last inspection, and has a target to create, perhaps, and to mount on,
and nothing else. -/
def Committed (t : String) : Call Unit → Prop
  | .done _ => True
  | .ask (.create t' _) next => t' = t ∧ ∀ a, Committed t (next a)
  | .ask (.mount _ t' _ _) next => t' = t ∧ ∀ a, ∃ r, next a = .done r
  | .ask _ _ => False

/-- Whether a call mounts on a target only when it has just found that nothing is mounted there. -/
def Cautious (t : String) : Call Unit → Prop
  | .done _ => True
  | .ask (.inspect t') next => ∀ a, Cautious t (next a) ∨
      t' = t ∧ Target.understood t a = .ok false ∧ Committed t (next a)
  | .ask (.mount ..) _ => False
  | .ask _ next => ∀ a, Cautious t (next a)

/-- Whether a part of a call mounts nothing, whatever the answers. -/
abbrev MountsNothing {α : Type} (p : Program Action.interface α) : Prop :=
  p.Asks (I := Action.interface) (mountTarget? · = none)

/-- What mounts nothing need not be cautious. -/
theorem cautious_bind {α : Type} {p : Program Action.interface α} {f : α → Call Unit}
    (hp : MountsNothing p) (hf : ∀ a, Cautious t (f a)) :
    Cautious t (p.bind f) := by
  induction p with
  | done a => exact hf a
  | ask a next ih =>
    obtain ⟨ha, hnext⟩ := hp
    have hrest : ∀ x, Cautious t ((next x).bind f) := fun x => ih x (hnext x)
    cases a with
    | inspect t' => exact fun x => Or.inl (hrest x)
    | mount source t' fsType options => exact nomatch ha
    | enter | acquire | release | discard | runTool | create | unmount => exact hrest

theorem cautious_andThen {α : Type} {p : Call α} {f : α → Call Unit}
    (hp : MountsNothing p) (hf : ∀ a, Cautious t (f a)) :
    Cautious t (p.andThen f) := by
  refine cautious_bind hp fun r => ?_
  cases r with
  | ok a => exact hf a
  | error e => trivial

theorem committed_bindRoot {root : String} {readOnly : Bool} {extra : List String} :
    Committed t (Target.bindRoot t root readOnly extra) :=
  ⟨rfl, fun r => ⟨r, rfl⟩⟩

/-- **A root is mounted right after an inspection.** -/
theorem cautious_publish {mode : ℕ} {root : String} {readOnly : Bool} {extra : List String} :
    Cautious t (Target.publish mode t root readOnly extra) := by
  intro a
  rcases a with e | ⟨_ | _⟩
  · cases he : e.isNotFound with
    | true =>
      refine Or.inr ⟨rfl, by simp [Target.understood, he], ?_⟩
      dsimp only [Program.bind]
      rw [if_pos he]
      refine ⟨rfl, fun r => ?_⟩
      rcases r with e | _
      · trivial
      · exact committed_bindRoot
    | false =>
      refine Or.inl ?_
      dsimp only [Program.bind]
      rw [if_neg (by simp [he])]
      trivial
  · exact Or.inr ⟨rfl, rfl, committed_bindRoot⟩
  · exact Or.inl trivial

theorem mountsNothing_take {a : Action} (h : mountTarget? a = none) : MountsNothing a.take :=
  Program.asks_single.2 h

theorem mountsNothing_isMounted : MountsNothing (Target.isMounted t) :=
  (mountsNothing_take rfl).bind fun _ => trivial

theorem mountsNothing_provision {image : String} :
    MountsNothing (Image.provision c v image) := by
  refine (mountsNothing_take rfl).andThen fun created => ?_
  split
  · exact (mountsNothing_take rfl).andThen fun _ => trivial
  · trivial

/-- **What is done under the lock of a volume mounts on its target with caution.** -/
theorem Work.cautious {work : Call Unit} (h : Work c v t work) : Cautious t work := by
  cases h with
  | publish p =>
    refine cautious_andThen mountsNothing_isMounted fun mounted => ?_
    split
    · trivial
    · exact cautious_andThen mountsNothing_provision fun _ => cautious_publish
  | unpublish v t =>
    refine cautious_andThen ?_ fun _ => ?_
    · refine mountsNothing_isMounted.andThen fun mounted => ?_
      split
      · exact (mountsNothing_take rfl).bind fun _ => trivial
      · trivial
    · have hrelease : MountsNothing (Image.release c v) :=
        (mountsNothing_take rfl).bind fun _ => trivial
      rw [← Program.bind_done (Image.release c v)]
      exact cautious_bind hrelease fun _ => trivial

theorem Committed.pastInspection (h : Committed t p) : PastInspection p := by
  induction p with
  | done r => trivial
  | ask a next ih =>
    cases a with
    | create t' mode => exact ⟨rfl, fun x => ih x (h.2 x)⟩
    | mount source t' fsType options =>
      refine ⟨rfl, fun x => ?_⟩
      obtain ⟨r, hr⟩ := h.2 x
      rw [hr]
      trivial
    | enter | acquire | release | discard | inspect | runTool | unmount => exact h.elim

namespace Effect

variable {I : Interface} {σ α β : Type} {e : Effect σ α} {ask : (α → Program I β) → Program I β}
  {follows : α → Stage I β → Prop} {w : Program I β} {r : β}

/-- A call that has freed its mutex has one step to take, which is not outside. -/
theorem leads_leaving_forall (h : e.Leads ask follows (.leaving v r)) :
    (∀ f, e ≠ outside f) ∧ ∀ a, follows a (.ended r) := by
  cases e with
  | discard u =>
    obtain ⟨r', hr, hf⟩ := h
    cases hr
    exact ⟨nofun, fun _ => hf⟩
  | enter | acquire | release | outside => simp [Leads] at h

/-- A call at work frees its mutex, or takes a step of its work. -/
theorem leads_working_forall (h : e.Leads ask follows (.working v m w)) :
    (∃ r, w = .done r ∧ (∀ f, e ≠ outside f) ∧ ∀ a, follows a (.leaving v r)) ∨
      ∃ next, w = ask next ∧ ∀ a, follows a (.working v m (next a)) := by
  cases e with
  | release n =>
    obtain ⟨v', r, hr, hf⟩ := h
    cases hr
    exact Or.inl ⟨r, rfl, nofun, fun _ => hf⟩
  | outside f =>
    obtain ⟨v', n, next, hn, hf⟩ := h
    cases hn
    exact Or.inr ⟨next, rfl, hf⟩
  | enter | acquire | discard => simp [Leads] at h

end Effect

/-- Whether inspection says of no mounted target that it is not, and nothing but a mount makes a target
mounted. -/
structure Surroundings.Truthful (e : Surroundings A B ι) (mounted : B → Prop) : Prop where
  inspect : ∀ {i k t b}, Target.understood t (e.inspect i k b) = .ok false → ¬ mounted b
  create : ∀ {i k mode b}, ¬ mounted b → ¬ mounted (e.create i k mode b).2
  unmount : ∀ {i k b}, ¬ mounted b → ¬ mounted (e.unmount i k b).2

section

variable {e : Surroundings A B ι} {mounted : B → Prop} {i j : ι} {w : Places A B}

/-- **A step that makes a target mounted is a mount on it.** -/
theorem Surroundings.Truthful.not_mounted (he : e.Truthful mounted) {a : Action}
    {f : Places A B → a.Answer × Places A B} (hf : e.reading i k a = .outside f)
    (ht : ¬ mounted (w.targets t)) :
    ¬ mounted ((f w).2.targets t) ∨ mountTarget? a = some t := by
  -- what is done to one target is nothing to the others
  have hon : ∀ {α : Type} {t' : String} {g : B → α × B},
      (¬ mounted (w.targets t') → ¬ mounted (g (w.targets t')).2) →
      ¬ mounted ((Places.onTarget t' g w).2.targets t) := by
    intro α t' g hg
    by_cases htt : t = t'
    · subst htt
      rw [Places.onTarget_self]
      exact hg ht
    · rw [Places.onTarget_of_ne g w htt]
      exact ht
  cases a with
  | enter | acquire | release | discard => cases hf
  | inspect t' =>
    cases hf
    exact Or.inl (hon fun h => h)
  | create t' mode =>
    cases hf
    exact Or.inl (hon he.create)
  | unmount t' =>
    cases hf
    exact Or.inl (hon he.unmount)
  | mount source t' fsType options =>
    cases hf
    by_cases htt : t' = t
    · exact Or.inr (congrArg some htt)
    · have hsame : (Places.onTarget t' (e.mount i k source fsType options) w).2.targets t =
          w.targets t := Places.onTarget_of_ne _ w (Ne.symm htt)
      exact Or.inl fun hm => ht (hsame ▸ hm)
  | runTool command =>
    left
    simp only [Surroundings.reading] at hf
    split at hf <;> cases hf <;> exact ht

theorem inspectTarget?_of_not_outside {a : Action}
    (h : ∀ f, e.reading i k a ≠ .outside f) : inspectTarget? a = none := by
  cases a with
  | inspect t => exact (h _ rfl).elim
  | enter | acquire | release | discard | runTool | create | mount | unmount => rfl

/-- A call that has freed its mutex inspects nothing. -/
theorem pastInspection_of_leaving {r : Except VolumeError Unit}
    (h : Follows (e.reading i) k q (.leaving v r)) : PastInspection q := by
  cases q with
  | done r => trivial
  | ask a next =>
    obtain ⟨hne, hnext⟩ := Effect.leads_leaving_forall h
    refine ⟨inspectTarget?_of_not_outside hne, fun x => ?_⟩
    have hended := hnext x
    cases hx : next x with
    | done r => trivial
    | ask b next' =>
      rw [hx] at hended
      exact (Effect.not_leads_ended hended).elim

/-- A call whose work inspects nothing any more does not inspect anything after its work. -/
theorem pastInspection_of_working (h : Follows (e.reading i) k q (.working v m p))
    (hp : PastInspection p) : PastInspection q := by
  induction q generalizing k p with
  | done r => trivial
  | ask a next ih =>
    rcases Effect.leads_working_forall h with ⟨r, rfl, hne, hnext⟩ | ⟨next', rfl, hnext⟩
    · exact ⟨inspectTarget?_of_not_outside hne, fun x => pastInspection_of_leaving (hnext x)⟩
    · exact ⟨hp.1, fun x => ih x (hnext x) (hp.2 x)⟩

/-- What work mounts on next, its call mounts on next. -/
theorem mountsOn?_of_working (h : Follows (e.reading i) k q (.working v m p))
    (hp : mountsOn? p = some t) : mountsOn? q = some t := by
  cases q with
  | done r =>
    unfold Follows at h
    cases h
  | ask a next =>
    rcases Effect.leads_working_forall h with ⟨r, rfl, -, -⟩ | ⟨next', rfl, -⟩
    · cases hp
    · exact hp

/-- A call that mounts next is at work. -/
theorem working_of_mountsOn? {st : Stage Action.interface (Except VolumeError Unit)}
    (h : Follows (e.reading i) k q st) (hq : mountsOn? q = some t) :
    ∃ v m a next, st = .working v m (.ask (I := Action.interface) a next) ∧
      mountTarget? a = some t := by
  cases q with
  | done r => cases hq
  | ask a next =>
    cases a with
    | mount source t' fsType options =>
      obtain ⟨v, m, next', hst, -⟩ := h
      exact ⟨v, m, _, next', hst, hq⟩
    | enter | acquire | release | discard | inspect | runTool | create | unmount => cases hq

theorem Surroundings.reading_outside (e : Surroundings A B ι) {a : Action} (ha : About c v t a) :
    ∃ f, e.reading i k a = .outside f := by
  cases ha <;> exact ⟨_, rfl⟩

/-- A cautious call goes on being so, or has found its target not mounted and is committed. -/
theorem Cautious.next (he : e.Truthful mounted) {a : Action} {next : a.Answer → Call Unit}
    {f : Places A B → a.Answer × Places A B} (hf : e.reading i k a = .outside f)
    (h : Cautious t (.ask (I := Action.interface) a next)) :
    Cautious t (next (f w).1) ∨ Committed t (next (f w).1) ∧ ¬ mounted ((f w).2.targets t) := by
  cases a with
  | inspect t' =>
    rcases h (f w).1 with h | ⟨rfl, hfree, h⟩
    · exact Or.inl h
    · refine Or.inr ⟨h, ?_⟩
      cases hf
      have hsame := Places.onTarget_eq_self (t := t') (f := fun b => (e.inspect i k b, b))
        (fun _ => rfl) w
      have ht : ¬ mounted ((Places.onTarget t' (fun b => (e.inspect i k b, b)) w).2.targets t') := by
        rw [hsame]
        exact he.inspect hfree
      exact ht
  | mount source t' fsType options => exact h.elim
  | enter | acquire | release | discard | runTool | create | unmount => exact Or.inl (h _)

/-- A committed call stays so until it has mounted, and has ended then. -/
theorem Committed.next (he : e.Truthful mounted) {a : Action} {next : a.Answer → Call Unit}
    {f : Places A B → a.Answer × Places A B} (hf : e.reading i k a = .outside f)
    (h : Committed t (.ask (I := Action.interface) a next)) :
    (∃ r, next (f w).1 = .done r) ∨ Committed t (next (f w).1) ∧
      (¬ mounted (w.targets t) → ¬ mounted ((f w).2.targets t)) := by
  cases a with
  | create t' mode =>
    refine Or.inr ⟨h.2 _, fun ht => ?_⟩
    rcases he.not_mounted hf ht with ht | ht
    · exact ht
    · cases ht
  | mount source t' fsType options => exact Or.inl (h.2 _)
  | enter | acquire | release | discard | inspect | runTool | unmount => exact h.elim

end

section

variable [DecidableEq ι]

/-- **Whether a target is contested**: since a call of a volume inspected it last, a call of another
volume has mounted on it. -/
def Contested (view : ι → Reading Action.interface (Places A B)) (requests : ι → Request)
    (start : Scene Action.interface (Places A B) (Except VolumeError Unit) ι) (order : List ι)
    (i : ι) (v t : String) : Prop :=
  ∃ before j after s, order = before ++ j :: after ∧ Scene.run? view start before = some s ∧
    PastInspection (s.calls i).rest ∧ mountsOn? (s.calls j).rest = some t ∧
    ∃ u, place? (requests j) = some (u, t) ∧ u ≠ v

/-- What a call has to go by when it mounts: nothing is mounted on its target, unless it is contested. -/
inductive Wary (requests : ι → Request) (mounted : B → Prop) (contested : String → String → Prop)
    (w : Places A B) (i : ι) : Stage Action.interface (Except VolumeError Unit) → Prop where
  | entering {v t : String} {p : Call Unit} (hi : place? (requests i) = some (v, t))
      (hp : Cautious t p) : Wary requests mounted contested w i (.entering v p)
  | waiting {v t : String} {m : Ticket} {p : Call Unit} (hi : place? (requests i) = some (v, t))
      (hp : Cautious t p) : Wary requests mounted contested w i (.waiting v m p)
  | looking {v t : String} {m : Ticket} {p : Call Unit} (hi : place? (requests i) = some (v, t))
      (hp : Cautious t p) : Wary requests mounted contested w i (.working v m p)
  | committed {v t : String} {m : Ticket} {p : Call Unit} (hi : place? (requests i) = some (v, t))
      (hp : Committed t p) (ht : ¬ mounted (w.targets t) ∨ contested v t) :
      Wary requests mounted contested w i (.working v m p)
  | leaving {v : String} {r : Except VolumeError Unit} :
      Wary requests mounted contested w i (.leaving v r)
  | ended {r : Except VolumeError Unit} : Wary requests mounted contested w i (.ended r)

variable {e : Surroundings A B ι} {mounted : B → Prop} {requests : ι → Request} {i j : ι}
  {w w' : Places A B} {order : List ι}
  {start s s' : Scene Action.interface (Places A B) (Except VolumeError Unit) ι}
  {course course' : Course Action.interface (Places A B) (Except VolumeError Unit) ι}

theorem Contested.append (h : Contested e.reading requests start order i v t) (j : ι) :
    Contested e.reading requests start (order ++ [j]) i v t := by
  obtain ⟨before, j', after, s, rfl, hrun, hpast, hmount, hu⟩ := h
  exact ⟨before, j', after ++ [j], s, by simp, hrun, hpast, hmount, hu⟩

omit [DecidableEq ι] in
theorem wary_start (c : Config) (w₀ : Places A B) {contested : String → String → Prop} (i : ι) :
    Wary requests mounted contested w₀ i (opening id c (requests i)) := by
  rcases opening_cases id c (requests i) with ⟨v, t, work, hi, hwork, h⟩ | ⟨x, -, h⟩
  · rw [h]
    exact .entering hi hwork.cautious
  · rw [h]
    exact .ended

/-- **A step of a call leaves it wary.** -/
theorem Wary.own (he : e.Truthful mounted) (hs : Course.Step e.reading course j course')
    (h : Wary requests mounted (Contested e.reading requests start order j) course.world j
      (course.stage j)) :
    Wary requests mounted (Contested e.reading requests start (order ++ [j]) j) course'.world j
      (course'.stage j) := by
  cases hs with
  | enter hst =>
    rw [hst] at h
    rw [Course.stage_move_self]
    cases h with
    | entering hi hp => exact .waiting hi hp
  | acquire hst hm =>
    rw [hst] at h
    rw [Course.stage_move_self]
    cases h with
    | waiting hi hp => exact .looking hi hp
  | ask hst hf =>
    rw [hst] at h
    rw [Course.stage_move_self]
    cases h with
    | looking hi hp =>
      rcases hp.next he hf with hp | ⟨hp, ht⟩
      · exact .looking hi hp
      · exact .committed hi hp (Or.inl ht)
    | committed hi hp ht =>
      rcases hp.next he hf with ⟨r, hr⟩ | ⟨hp, hkeep⟩
      · rw [hr]
        exact .looking hi trivial
      · exact .committed hi hp (ht.imp hkeep fun hc => hc.append j)
  | release hst =>
    rw [Course.stage_move_self]
    exact .leaving
  | discard hst =>
    rw [Course.stage_move_self]
    exact .ended

omit [DecidableEq ι] in
/-- A call that mounts on a target next mounts on that of its request. -/
theorem Wary.place {contested : String → String → Prop} {a : Action}
    {next : a.Answer → Call Unit}
    (h : Wary requests mounted contested w j (.working v m (.ask (I := Action.interface) a next)))
    (ha : mountTarget? a = some t) : place? (requests j) = some (v, t) := by
  cases a with
  | mount source t' fsType options =>
    cases ha
    cases h with
    | looking _ hp => exact hp.elim
    | committed hi hp _ => rw [hi, hp.1]
  | enter | acquire | release | discard | inspect | runTool | create | unmount => cases ha

/-- **A step of a call leaves the others wary**: a target that it takes from another call's sight is
contested. -/
theorem Wary.other (he : e.Truthful mounted) (hshows : Shows e.reading s course)
    (hc : Contest.Reachable course.contest) (hrun : Scene.run? e.reading start order = some s)
    (hs : Course.Step e.reading course j course')
    (hj : Wary requests mounted (Contested e.reading requests start order j) course.world j
      (course.stage j)) (hij : i ≠ j)
    (h : Wary requests mounted (Contested e.reading requests start order i) course.world i
      (course.stage i)) :
    Wary requests mounted (Contested e.reading requests start (order ++ [j]) i) course'.world i
      (course'.stage i) := by
  have hstage : course'.stage i = course.stage i := by
    cases hs with
    | enter | acquire | ask | release | discard => exact Course.stage_move_of_ne hij
  rw [hstage]
  cases hst : course.stage i with
  | entering v p =>
    rw [hst] at h
    cases h with
    | entering hi hp => exact .entering hi hp
  | waiting v m p =>
    rw [hst] at h
    cases h with
    | waiting hi hp => exact .waiting hi hp
  | leaving v r => exact .leaving
  | ended r => exact .ended
  | working v m p =>
    rw [hst] at h
    cases h with
    | looking hi hp => exact .looking hi hp
    | @committed _ t _ _ hi hp ht =>
      refine .committed hi hp ?_
      rcases ht with ht | ht
      · cases hs with
        | enter | acquire | release | discard => exact Or.inl ht
        | @ask u n a next f hst' hf =>
          rcases he.not_mounted hf ht with ht | hmount
          · exact Or.inl ht
          · -- the step is a mount on the target, by a call of another volume
            right
            rw [hst'] at hj
            have hplace := hj.place hmount
            have huv : u ≠ v := by
              rintro rfl
              exact hij (Course.worker_eq hc hst hst')
            have hfollows := hshows.follows i
            have hfollows' := hshows.follows j
            rw [hst] at hfollows
            rw [hst'] at hfollows'
            exact ⟨order, j, [], s, rfl, hrun,
              pastInspection_of_working hfollows hp.pastInspection,
              mountsOn?_of_working hfollows' hmount, u, hplace, huv⟩
      · exact Or.inr (ht.append j)

omit [DecidableEq ι] in
/-- A call goes through the stages of a call under a lock, whatever target other calls name. -/
theorem follows_opening (e : Surroundings A B ι) (c : Config) (requests : ι → Request) (i : ι) :
    Follows (e.reading i) 0 (call c (requests i)) (opening id c (requests i)) :=
  follows_call (e.readsLocks i) fun hi hwork =>
    confined_sameOwn hi hwork.isAbout fun _ _ ha => e.reading_outside ha

/-- **At every point of every run each call is wary.** -/
theorem wary_run (he : e.Truthful mounted) (c : Config) (w₀ : Places A B)
    (h : Scene.run? e.reading (Scene.start w₀ fun i => call c (requests i)) order = some s) :
    ∃ course, Shows e.reading s course ∧ Contest.Reachable course.contest ∧
      ∀ i, Wary requests mounted (Contested e.reading requests
        (Scene.start w₀ fun i => call c (requests i)) order i) course.world i (course.stage i) := by
  induction order using List.reverseRecOn generalizing s with
  | nil =>
    cases h
    have hreaches : Course.Reaches e.reading (Course.start w₀ fun i => opening id c (requests i)) _ :=
      .refl
    exact ⟨_, shows_start (follows_opening e c requests), hreaches.contest fun _ => opening_idle,
      fun i => wary_start c w₀ i⟩
  | append_singleton order j ih =>
    rw [Scene.run?_append] at h
    obtain ⟨s₀, hrun, hlast⟩ := Option.bind_eq_some_iff.1 h
    obtain ⟨s', hturn, hs'⟩ := Option.bind_eq_some_iff.1 hlast
    cases hs'
    obtain ⟨course, hshows, hc, hwary⟩ := ih hrun
    obtain ⟨course', hstep, hshows'⟩ := hshows.step hturn
    refine ⟨course', hshows', ?_, fun i => ?_⟩
    · rcases hstep.contest with hs | hs
      · exact hc.tail hs
      · rwa [hs]
    · by_cases hij : i = j
      · subst hij
        exact (hwary i).own he hstep
      · exact (hwary j).other he hshows hc hrun hstep hij (hwary i)

/-- **A mounted target is mounted on only when it is contested.** Let calls go on in any order, whatever
volumes and targets they name. A call that mounts on a target that is mounted has been beaten to it:
since the call inspected the target last, a call of another volume has mounted on it. -/
theorem contested_of_mounted (he : e.Truthful mounted) (c : Config) (requests : ι → Request)
    (w₀ : Places A B)
    (h : Scene.run? e.reading (Scene.start w₀ fun i => call c (requests i)) order = some s)
    (hmount : mountsOn? (s.calls i).rest = some t) (ht : mounted (s.world.targets t)) :
    ∃ v, place? (requests i) = some (v, t) ∧
      Contested e.reading requests (Scene.start w₀ fun i => call c (requests i)) order i v t := by
  obtain ⟨course, hshows, -, hwary⟩ := wary_run he c w₀ h
  obtain ⟨v, m, a, next, hst, ha⟩ := working_of_mountsOn? (hshows.follows i) hmount
  have hi := hwary i
  rw [hst] at hi
  have hplace := hi.place ha
  refine ⟨v, hplace, ?_⟩
  cases a with
  | mount source t' fsType options =>
    cases ha
    cases hi with
    | looking _ hp => exact hp.elim
    | committed hi hp hfree =>
      rw [hplace] at hi
      cases hi
      rcases hfree with hfree | hc
      · rw [hshows.world] at ht
        exact (hfree ht).elim
      · exact hc
  | enter | acquire | release | discard | inspect | runTool | create | unmount => cases ha

end

/-- Whether a faultless target is mounted. -/
def TargetRecord.IsMounted (b : TargetRecord) : Prop :=
  b.mounts.getD [] ≠ []

theorem faultless_truthful (prints : ι → ℕ → Command → Output) :
    (faultless prints).Truthful TargetRecord.IsMounted where
  inspect {i k t b} h hb := by
    obtain ⟨_ | _ | ⟨root, roots⟩, made⟩ := b
    · exact hb rfl
    · exact hb rfl
    · cases h
  create h := h
  unmount {i k b} h := by
    obtain ⟨_ | _ | ⟨root, roots⟩, made⟩ := b
    · exact h
    · exact h
    · exact (h (List.cons_ne_nil root roots)).elim

/-- Requests to publish two volumes at one target. -/
def rivals (i : Bool) : Request :=
  .publish
    { volumeId := if i then "a" else "b", targetPath := "/t", capability := some {}
      volumeContext := Attributes.ofList [("image", "i")] }

/-- Their calls in faultless surroundings, with a target that exists. -/
def rivalry : Scene Action.interface (Places ToolRecord TargetRecord) (Except VolumeError Unit) Bool :=
  Scene.start ⟨fun _ => ⟨false, []⟩, fun _ => ⟨some [], []⟩⟩ fun i => call {} (rivals i)

/-- The tool prints a root for each of them. -/
def rivalRoots (i : Bool) (_ : ℕ) (_ : Command) : Output :=
  if i then [47, 97] else [47, 98]

/-- **Two volumes at one target can have it mounted twice.** Both calls inspect the target for the last
time before the first mounts on it. -/
theorem mounted_twice :
    (faultless rivalRoots).Truthful TargetRecord.IsMounted ∧
      ∃ s s', Scene.run? (faultless rivalRoots).reading rivalry
          (List.replicate 5 true ++ List.replicate 5 false ++ [true]) = some s ∧
        mountsOn? (s.calls false).rest = some "/t" ∧ (s.world.targets "/t").IsMounted ∧
        Scene.turn? (faultless rivalRoots).reading s false = some s' ∧
        (s'.world.targets "/t").mounts = some ["/b", "/a"] := by
  refine ⟨faultless_truthful _, ?_⟩
  have hrun : (Scene.run? (faultless rivalRoots).reading rivalry
      (List.replicate 5 true ++ List.replicate 5 false ++ [true])).map (fun s =>
        (mountsOn? (s.calls false).rest, (s.world.targets "/t").mounts,
          (Scene.turn? (faultless rivalRoots).reading s false).map fun s' =>
            (s'.world.targets "/t").mounts)) =
      some (some "/t", some ["/a"], some (some ["/b", "/a"])) := by
    decide +kernel
  obtain ⟨s, hs, hend⟩ := Option.map_eq_some_iff.1 hrun
  obtain ⟨hmount, hrest⟩ := Prod.mk.inj hend
  obtain ⟨hone, hturn⟩ := Prod.mk.inj hrest
  obtain ⟨s', hs', htwo⟩ := Option.map_eq_some_iff.1 hturn
  refine ⟨s, s', hs, hmount, ?_, hs', htwo⟩
  unfold TargetRecord.IsMounted
  rw [hone]
  exact List.cons_ne_nil _ _

/-- The call that mounts second has been beaten to the target. -/
theorem contested_of_mounted_rivals :
    ∃ s, Scene.run? (faultless rivalRoots).reading rivalry
        (List.replicate 5 true ++ List.replicate 5 false ++ [true]) = some s ∧
      ∃ v, place? (rivals false) = some (v, "/t") ∧
        Contested (faultless rivalRoots).reading rivals rivalry
          (List.replicate 5 true ++ List.replicate 5 false ++ [true]) false v "/t" := by
  have hrun : (Scene.run? (faultless rivalRoots).reading rivalry
      (List.replicate 5 true ++ List.replicate 5 false ++ [true])).map (fun s =>
        (mountsOn? (s.calls false).rest, (s.world.targets "/t").mounts)) =
      some (some "/t", some ["/a"]) := by
    decide +kernel
  obtain ⟨s, hs, hend⟩ := Option.map_eq_some_iff.1 hrun
  obtain ⟨hmount, hone⟩ := Prod.mk.inj hend
  refine ⟨s, hs, contested_of_mounted (faultless_truthful rivalRoots) {} rivals _ hs hmount ?_⟩
  unfold TargetRecord.IsMounted
  rw [hone]
  exact List.cons_ne_nil _ _

end VolumeNode.Node
