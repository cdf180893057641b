import VolumeNode.Execution.Runner
import VolumeNode.Proofs.Execution.Verdicts

/-!
# What the kernel keeps among the processes

The processes have numbers of their own. The one that leads them is nobody's child, so nobody waits for it,
and it is seen to end once (`Orderly`). A question changes lives in three ways only: a process ends
(`Orderly.finish`), a child that has ended is waited for (`Orderly.reap`), or a child comes to life
(`Orderly.fork`); whatever else is done leaves every life as it is (`Alike`).

* `Orderly.attempt`: what each question does.
* `Orderly.advance`, `Orderly.round`: a step of a process, and one of each.
* `Orderly.simulate`: a run comes to a verdict, and what is seen of it is in order.
* `run_cases`: a command does not start, or its result is the verdict on what is seen of it.
-/

namespace VolumeNode.Execution

/-! ## What is seen -/

/-- The statuses with which the command has ended. -/
def exits (es : List Event) : List ExitStatus :=
  es.filterMap fun
    | .exited s => some s
    | _ => none

theorem mem_exits {es : List Event} {s : ExitStatus} : s ∈ exits es ↔ .exited s ∈ es := by
  unfold exits
  rw [List.mem_filterMap]
  constructor
  · rintro ⟨e, he, h⟩
    cases e <;> simp_all
  · exact fun h => ⟨_, h, rfl⟩

theorem exits_wrote (pieces : List Output) (es : List Event) :
    exits (pieces.map .wrote ++ es) = exits es := by
  induction pieces with
  | nil => rfl
  | cons piece pieces ih => exact ih

/-- Nothing is out of order as long as the output is held and the command has ended once at most. -/
theorem pairwise_mayPrecede {es : List Event} (hclosed : .closed ∉ es)
    (hexits : (exits es).length ≤ 1) : es.Pairwise fun later e => mayPrecede e later = true := by
  induction es with
  | nil => exact .nil
  | cons later es ih =>
    rw [List.mem_cons, not_or] at hclosed
    have hle : (exits es).length ≤ (exits (later :: es)).length :=
      ((List.sublist_cons_self later es).filterMap _).length_le
    refine List.pairwise_cons.2 ⟨fun e he => ?_, ih hclosed.2 (hle.trans hexits)⟩
    cases e with
    | closed => exact absurd he hclosed.2
    | exited s =>
      cases later with
      | exited s' =>
        have hs : 0 < (exits es).length := List.length_pos_of_mem (mem_exits.2 he)
        change (exits es).length + 1 ≤ 1 at hexits
        omega
      | _ => rfl
    | _ => rfl

/-- What is seen of a command that has come to a verdict. -/
def Concluded (es : List Event) : Prop :=
  Ordered es ∧ ({} : Watch).verdict? es ≠ none

/-! ## Lives -/

/-- The status of a process that has ended. -/
def Activity.status? : Activity → Option ExitStatus
  | .ended s => some s
  | _ => none

theorem Activity.isEnded_eq (a : Activity) : a.isEnded = a.status?.isSome := by
  cases a <;> rfl

/-- What others know of a process. -/
structure Life where
  pid : ℕ
  parent : ℕ
  status? : Option ExitStatus

/-- What others know of it. -/
def Process.life (p : Process) : Life :=
  ⟨p.pid, p.parent, p.activity.status?⟩

/-- A life that may have come to its end. -/
def Life.endIf (pid : ℕ) (s : ExitStatus) (l : Life) : Life :=
  if l.pid = pid then { l with status? := some s } else l

@[simp] theorem Life.pid_endIf (l : Life) (pid : ℕ) (s : ExitStatus) :
    (l.endIf pid s).pid = l.pid := by
  unfold endIf
  split <;> rfl

@[simp] theorem Life.parent_endIf (l : Life) (pid : ℕ) (s : ExitStatus) :
    (l.endIf pid s).parent = l.parent := by
  unfold endIf
  split <;> rfl

namespace Kernel

/-- The lives of all processes. -/
def lives (k : Kernel) : List Life :=
  k.processes.map Process.life

variable {k k' : Kernel} {p q : Process} {l : Life} {pid : ℕ}

/-- **The order that the kernel keeps among its processes.** -/
structure Orderly (k : Kernel) : Prop where
  distinct : (k.lives.map Life.pid).Nodup
  below : ∀ l ∈ k.lives, l.pid < k.fresh ∧ l.parent < k.fresh
  /-- The leader is nobody's child, and has ended as often as was seen. -/
  led : ∃ l ∈ k.lives, l.pid = k.leader ∧ exits k.events = l.status?.toList ∧
    ∀ m ∈ k.lives, m.pid ≠ l.parent
  going : .closed ∉ k.events ∧ .deadline ∉ k.events

/-- Nothing has happened to a life, though something may have been written. -/
structure Alike (k k' : Kernel) : Prop where
  lives : k'.lives = k.lives
  leader : k'.leader = k.leader
  fresh : k.fresh ≤ k'.fresh
  events : ∃ pieces : List Output, k'.events = pieces.map .wrote ++ k.events

theorem Alike.refl (k : Kernel) : Alike k k :=
  ⟨rfl, rfl, le_rfl, [], rfl⟩

theorem Alike.trans {k'' : Kernel} (h : Alike k k') (h' : Alike k' k'') : Alike k k'' where
  lives := h'.lives.trans h.lives
  leader := h'.leader.trans h.leader
  fresh := h.fresh.trans h'.fresh
  events := by
    obtain ⟨pieces, hp⟩ := h.events
    obtain ⟨pieces', hp'⟩ := h'.events
    exact ⟨pieces' ++ pieces, by rw [hp', hp, List.map_append, List.append_assoc]⟩

theorem Orderly.alike (h : k.Orderly) (hk : Alike k k') : k'.Orderly := by
  obtain ⟨hdistinct, hbelow, hled, hgoing⟩ := h
  obtain ⟨hlives, hleader, hfresh, pieces, hevents⟩ := hk
  refine ⟨hlives ▸ hdistinct, fun l hl => ?_, ?_, ?_⟩
  · have := hbelow l (hlives ▸ hl)
    omega
  · rw [hlives, hleader, hevents, exits_wrote]
    exact hled
  · rw [hevents]
    simpa using hgoing

theorem Orderly.eq_of_pid (h : k.Orderly) {m : Life} (hl : l ∈ k.lives) (hm : m ∈ k.lives)
    (hpid : l.pid = m.pid) : l = m :=
  List.inj_on_of_nodup_map h.distinct hl hm hpid

theorem life_mem (hp : p ∈ k.processes) : p.life ∈ k.lives :=
  List.mem_map_of_mem hp

theorem alike_update {f : Process → Process}
    (h : ∀ q ∈ k.processes, q.pid = pid → (f q).life = q.life) : Alike k (k.update pid f) where
  lives := by
    unfold lives update
    rw [List.map_map]
    refine List.map_congr_left fun q hq => ?_
    dsimp only [Function.comp]
    split
    next hpid => exact h q hq hpid
    next => rfl
  leader := rfl
  fresh := le_rfl
  events := ⟨[], rfl⟩

theorem Alike.install (h : Alike k k') (pid fd : ℕ) (o : Opened) : Alike k (k'.install pid fd o) := by
  have hopen : Alike k' { k' with opened := (k'.fresh, o) :: k'.opened, fresh := k'.fresh + 1 } :=
    ⟨rfl, rfl, Nat.le_succ _, [], rfl⟩
  exact h.trans (hopen.trans (alike_update fun _ _ _ => rfl))

theorem alike_resume (k : Kernel) (pid : ℕ) (rest : Body) : Alike k (k.resume pid rest) := by
  refine alike_update fun q _ _ => ?_
  unfold Process.life
  split <;> simp_all [Activity.status?]

/-! ## The end of a process -/

theorem finish_eq (k : Kernel) (pid : ℕ) (s : ExitStatus) :
    k.finish pid s =
      { k.update pid fun p => { p with descriptors := [], activity := .ended s } with
        events := if pid = k.leader then .exited s :: k.events else k.events } := by
  unfold finish
  dsimp only [update]
  split <;> rfl

theorem lives_finish (k : Kernel) (pid : ℕ) (s : ExitStatus) :
    (k.finish pid s).lives = k.lives.map (Life.endIf pid s) := by
  rw [finish_eq]
  simp only [lives, update, List.map_map]
  refine List.map_congr_left fun q _ => ?_
  dsimp only [Function.comp, Life.endIf]
  by_cases hq : q.pid = pid
  · rw [if_pos hq, if_pos (show q.life.pid = pid from hq)]
    rfl
  · rw [if_neg hq, if_neg (show ¬ q.life.pid = pid from hq)]

/-- **A process ends that has not ended before.** -/
theorem Orderly.finish (h : k.Orderly) (hl : l ∈ k.lives) (hs : l.status? = none) (s : ExitStatus) :
    (k.finish l.pid s).Orderly := by
  have hleader : (k.finish l.pid s).leader = k.leader := by rw [finish_eq]; rfl
  have hfresh : (k.finish l.pid s).fresh = k.fresh := by rw [finish_eq]; rfl
  have hevents : (k.finish l.pid s).events =
      if l.pid = k.leader then .exited s :: k.events else k.events := by rw [finish_eq]
  obtain ⟨m, hm, hmleader, hexits, horphan⟩ := h.led
  refine ⟨?_, ?_, ?_, ?_⟩
  · rw [lives_finish, List.map_map]
    convert h.distinct using 2
    funext m
    simp
  · rw [lives_finish, hfresh]
    simpa using h.below
  · refine ⟨m.endIf l.pid s, ?_, ?_, ?_, ?_⟩
    · rw [lives_finish]
      exact List.mem_map_of_mem hm
    · rw [Life.pid_endIf, hleader, hmleader]
    · rw [hevents, Life.endIf]
      -- only the end of the leader is seen, and none has been seen of it yet
      by_cases heq : l.pid = k.leader
      · have hlm : l = m := h.eq_of_pid hl hm (heq.trans hmleader.symm)
        subst hlm
        rw [if_pos heq, if_pos rfl]
        rw [hs] at hexits
        exact congrArg (s :: ·) hexits
      · rw [if_neg heq, if_neg fun hpid : m.pid = l.pid => heq (hpid ▸ hmleader)]
        exact hexits
    · rw [lives_finish]
      simpa using horphan
  · rw [hevents]
    split
    · simpa using h.going
    · exact h.going

theorem mem_lives_finish (hl : l ∈ k.lives) (hpid : l.pid ≠ pid) (s : ExitStatus) :
    l ∈ (k.finish pid s).lives := by
  rw [lives_finish]
  exact List.mem_map.2 ⟨l, hl, if_neg hpid⟩

/-! ## Signals -/

theorem life_halt (p : Process) : (halt p).life = p.life := by
  unfold halt Process.life
  split <;> simp_all [Activity.status?]

theorem life_wakeUp (p : Process) : (wakeUp p).life = p.life := by
  unfold wakeUp Process.life
  split <;> simp_all [Activity.status?]

/-- A signal ends the process that it is delivered to, or nothing happens to a life. -/
theorem deliver_cases (k : Kernel) (number : ℕ) (p : Process) :
    p.activity.status? = none ∧ k.deliver number p = k.finish p.pid (.signal number false) ∨
      Alike k (k.deliver number p) := by
  unfold deliver
  split
  next => exact .inr (.refl k)
  next hp =>
    split
    next => exact .inr (.refl k)
    next => exact .inr (alike_update fun _ _ _ => rfl)
    next =>
      split
      next =>
        refine .inl ⟨?_, rfl⟩
        simpa [Activity.isEnded_eq] using hp
      next => exact .inr (alike_update fun q _ _ => life_halt q)
      next => exact .inr (alike_update fun q _ _ => life_wakeUp q)
      next => exact .inr (.refl k)

theorem Orderly.deliver (h : k.Orderly) (hp : p.life ∈ k.lives) (number : ℕ) :
    (k.deliver number p).Orderly := by
  rcases k.deliver_cases number p with ⟨hs, heq⟩ | halike
  · rw [heq]
    exact h.finish hp hs _
  · exact h.alike halike

theorem mem_lives_deliver (hl : l ∈ k.lives) (hpid : l.pid ≠ p.pid) (number : ℕ) :
    l ∈ (k.deliver number p).lives := by
  rcases k.deliver_cases number p with ⟨-, heq⟩ | halike
  · rw [heq]
    exact mem_lives_finish hl hpid _
  · exact halike.lives ▸ hl

/-- **A signal is delivered to one process after another.** -/
theorem Orderly.deliver_all (h : k.Orderly) {ps : List Process}
    (hps : ∀ p ∈ ps, p.life ∈ k.lives) (hdistinct : (ps.map Process.pid).Nodup) (number : ℕ) :
    (ps.foldl (fun k q => k.deliver number q) k).Orderly := by
  induction ps generalizing k with
  | nil => exact h
  | cons p ps ih =>
    obtain ⟨hp, hrest⟩ := List.forall_mem_cons.1 hps
    rw [List.map_cons, List.nodup_cons] at hdistinct
    -- those that are still to be signalled have other numbers, so nothing has happened to them
    refine ih (h.deliver hp number) (fun q hq => mem_lives_deliver (hrest q hq) ?_ number) hdistinct.2
    rintro hpid
    exact hdistinct.1 (List.mem_map.2 ⟨q, hq, hpid⟩)

theorem targets_sublist (k : Kernel) (target : ℤ) : (k.targets target).Sublist k.processes := by
  unfold targets
  split
  · exact List.filter_sublist
  · split
    · exact .refl _
    · exact List.nil_sublist _

theorem Orderly.distinct_pids (h : k.Orderly) : (k.processes.map Process.pid).Nodup := by
  have := h.distinct
  unfold lives at this
  rwa [List.map_map] at this

theorem Orderly.send (h : k.Orderly) (target : ℤ) (number : ℕ) :
    (k.send target number).2.Orderly := by
  unfold Kernel.send
  split
  next => exact h
  next ps _ =>
    dsimp only
    split
    next => exact h
    next =>
      have hsub := k.targets_sublist target
      exact h.deliver_all (fun p hp => life_mem (hsub.subset hp))
        (h.distinct_pids.sublist (hsub.map _)) number

/-! ## Parents and children -/

/-- **A child is waited for.** It is not the leader, whose parent is no process. -/
theorem Orderly.reap (h : k.Orderly) (hp : p ∈ k.processes) (hq : q ∈ k.processes)
    (hparent : q.parent = p.pid) :
    Orderly { k with processes := k.processes.filter (·.pid != q.pid) } := by
  obtain ⟨m, hm, hmleader, hexits, horphan⟩ := h.led
  have hsub : (lives { k with processes := k.processes.filter (·.pid != q.pid) }).Sublist k.lives :=
    List.filter_sublist.map _
  refine ⟨h.distinct.sublist (hsub.map _), fun l hl => h.below l (hsub.subset hl), ?_, h.going⟩
  refine ⟨m, ?_, hmleader, hexits, fun l hl => horphan l (hsub.subset hl)⟩
  obtain ⟨q', hq', rfl⟩ := List.mem_map.1 hm
  refine List.mem_map_of_mem (List.mem_filter.2 ⟨hq', ?_⟩)
  have hne : q'.pid ≠ q.pid := fun hpid => by
    have := h.eq_of_pid (life_mem hq') (life_mem hq) hpid
    exact horphan p.life (life_mem hp) ((congrArg Life.parent this).trans hparent).symm
  simpa using hne

/-- **A child comes to life.** Its number has not been in use. -/
theorem Orderly.fork (h : k.Orderly) (hp : p ∈ k.processes) {child : Process}
    (hpid : child.pid = k.fresh) (hparent : child.parent = p.pid) :
    Orderly { k with processes := k.processes ++ [child], fresh := k.fresh + 1 } := by
  obtain ⟨m, hm, hmleader, hexits, horphan⟩ := h.led
  have hlives : lives { k with processes := k.processes ++ [child], fresh := k.fresh + 1 } =
      k.lives ++ [child.life] := by simp [lives]
  have hchild : child.life.pid = k.fresh := hpid
  have hfresh : k.fresh ∉ k.lives.map Life.pid := by
    intro hin
    obtain ⟨l, hl, heq⟩ := List.mem_map.1 hin
    exact absurd heq (h.below l hl).1.ne
  refine ⟨?_, ?_, ⟨m, ?_, hmleader, hexits, ?_⟩, h.going⟩
  · rw [hlives, List.map_append, List.map_singleton, hchild]
    exact h.distinct.append (List.nodup_singleton _) (List.disjoint_singleton.2 hfresh)
  · rw [hlives]
    intro l hl
    rcases List.mem_append.1 hl with hl | hl
    · exact ⟨Nat.lt_succ_of_lt (h.below l hl).1, Nat.lt_succ_of_lt (h.below l hl).2⟩
    · obtain rfl := List.mem_singleton.1 hl
      have hlt : child.parent < k.fresh := hparent ▸ (h.below p.life (life_mem hp)).1
      exact ⟨hchild ▸ Nat.lt_succ_self _, Nat.lt_succ_of_lt hlt⟩
  · rw [hlives]
    exact List.mem_append_left _ hm
  · rw [hlives]
    intro l hl
    rcases List.mem_append.1 hl with hl | hl
    · exact horphan l hl
    · obtain rfl := List.mem_singleton.1 hl
      rw [hchild]
      exact (h.below m hm).2.ne'

/-! ## Questions -/

theorem Alike.withTree (h : Alike k k') (t : Host.Tree) : Alike k (k'.withTree t) :=
  h.trans ⟨rfl, rfl, le_rfl, [], rfl⟩

theorem alike_openFile {p : Process} {fd : ℕ} {path : String} {access : Access} :
    Alike k (k.openFile p fd path access).2 := by
  unfold openFile
  split
  next => exact (Alike.refl k).install ..
  next =>
    dsimp only
    split
    next => exact (Alike.refl k).install ..
    next =>
      split
      · exact (Alike.refl k).install ..
      · exact .refl k
    next =>
      refine Alike.install ?_ ..
      split
      · exact (Alike.refl k).withTree _
      · exact .refl k
    next => exact (Alike.refl k).install ..
    next => exact .refl k
    next =>
      split
      · exact .refl k
      · split
        · exact .refl k
        · split
          · exact .refl k
          · exact ((Alike.refl k).withTree _).install ..

theorem alike_read {fd count : ℕ} {r : Except Errno Output × Kernel}
    (h : k.read p fd count = some r) : Alike k r.2 := by
  unfold read at h
  split at h
  next => cases h; exact .refl k
  next =>
    split at h
    next => cases h; exact ⟨rfl, rfl, le_rfl, [], rfl⟩
    next => cases h; exact .refl k
    next => cases h; exact .refl k
    next => cases h; exact .refl k
    next => cases h; exact ⟨rfl, rfl, le_rfl, [], rfl⟩
    next =>
      split at h
      next =>
        split at h
        · cases h
        · cases h; exact .refl k
      next => cases h; exact ⟨rfl, rfl, le_rfl, [], rfl⟩
    next => cases h; exact .refl k

theorem Orderly.write (h : k.Orderly) (hp : p ∈ k.processes) {fd : ℕ} {octets : Output}
    {r : Except Errno Unit × Kernel} (hr : k.write p fd octets = some r) : r.2.Orderly := by
  unfold Kernel.write at hr
  split at hr
  next => cases hr; exact h
  next =>
    split at hr
    next => cases hr; exact h.alike ⟨rfl, rfl, le_rfl, [octets], rfl⟩
    next => cases hr; exact h
    next => cases hr; exact h
    next =>
      split at hr
      · cases hr; exact h.alike ⟨rfl, rfl, le_rfl, [], rfl⟩
      · cases hr; exact h
    next =>
      split at hr
      next => cases hr; exact h.deliver (life_mem hp) _
      next =>
        dsimp only at hr
        split at hr
        · cases hr
        · cases hr; exact h.alike ⟨rfl, rfl, le_rfl, [], rfl⟩
    next => cases hr; exact h

/-- **A question is answered.** -/
theorem Orderly.attempt (h : k.Orderly) (hp : p ∈ k.processes) {q : Query} {r : q.Answer × Kernel}
    (hr : k.attempt p q = some r) : r.2.Orderly := by
  have hupdate {f : Process → Process} (hf : ∀ q, (f q).life = q.life) :
      (k.update p.pid f).Orderly :=
    h.alike (alike_update fun q _ _ => hf q)
  cases q with
  | read fd count => exact h.alike (alike_read hr)
  | write fd octets => exact h.write hp hr
  | openFile fd path access =>
    simp only [Kernel.attempt] at hr
    split at hr
    case h_4 => cases hr; exact h.alike alike_openFile
    all_goals
      split at hr <;> cases hr
      · exact h
      · exact hupdate fun _ => rfl
  | offer fd octets => cases hr; exact h.alike ((Alike.refl k).install ..)
  | close fd => cases hr; exact hupdate fun _ => rfl
  | copy source fd =>
    simp only [Kernel.attempt] at hr
    split at hr
    · cases hr; exact h
    · cases hr; exact hupdate fun _ => rfl
  | pipe readEnd writeEnd =>
    cases hr
    refine h.alike (Alike.install (Alike.install ?_ ..) ..)
    exact ⟨rfl, rfl, Nat.le_succ _, [], rfl⟩
  | descriptors => cases hr; exact h
  | restore table => cases hr; exact hupdate fun _ => rfl
  -- a process forks, sleeps or becomes another program by a step of its own
  | fork => cases hr
  | wait pid interruptible =>
    simp only [Kernel.attempt] at hr
    split at hr
    next => cases hr; exact h
    next q hq =>
      have hfound := List.find?_some hq
      rw [Bool.and_eq_true, beq_iff_eq, beq_iff_eq] at hfound
      split at hr
      next s hs =>
        cases hr
        obtain ⟨rfl, hparent⟩ := hfound
        exact h.reap hp (List.mem_of_find?_eq_some hq) hparent
      next =>
        split at hr
        · cases hr; exact h
        · cases hr
  | sleep nanos => cases hr
  | signal target number => cases hr; exact h.send target number
  | noted => cases hr; exact hupdate fun _ => rfl
  | dispose number d => cases hr; exact hupdate fun _ => rfl
  | identity => cases hr; exact h
  | inspect path follow =>
    simp only [Kernel.attempt] at hr
    split at hr
    · cases hr; exact h
    · cases hr; exact h
    · split at hr <;> cases hr <;> exact h
  | names path => cases hr; exact h
  | change c =>
    simp only [Kernel.attempt] at hr
    split at hr <;> cases hr
    · exact h.alike ((Alike.refl k).withTree _)
    · exact h
  | enter path =>
    simp only [Kernel.attempt] at hr
    split at hr <;> cases hr
    · exact hupdate fun _ => rfl
    · exact h
    · exact h
  | exec program arguments environment => cases hr

/-! ## Steps, rounds and runs -/

/-- The process of a number is the only one. -/
theorem Orderly.eq_of_mem (h : k.Orderly) (hp : p ∈ k.processes) (hq : q ∈ k.processes)
    (hpid : q.pid = p.pid) : q = p :=
  List.inj_on_of_nodup_map h.distinct_pids hq hp hpid

theorem Orderly.process?_eq (h : k.Orderly) (hp : p ∈ k.processes) : k.process? p.pid = some p := by
  cases hfind : k.process? p.pid with
  | none => exact absurd (beq_self_eq_true p.pid) (List.find?_eq_none.1 hfind p hp)
  | some q =>
    have hpid := List.find?_some hfind
    rw [h.eq_of_mem hp (List.mem_of_find?_eq_some hfind) (beq_iff_eq.1 hpid)]

/-- **A step of a process.** -/
theorem Orderly.advance (h : k.Orderly) (hp : p ∈ k.processes) {programs : Programs}
    (hk : k.advance programs p = some k') : k'.Orderly := by
  -- a change of a process that goes on and is found by its number is no change of its life
  have hupdate {f : Process → Process} (hf : (f p).life = p.life) : (k.update p.pid f).Orderly :=
    h.alike (alike_update fun q hq hpid => h.eq_of_mem hp hq hpid ▸ hf)
  unfold Kernel.advance at hk
  split at hk
  next s hs =>
    cases hk
    exact h.finish (life_mem hp) (by simp [Process.life, hs, Activity.status?]) s
  next q next hs =>
    split at hk
    next =>
      cases hk
      exact (h.fork hp rfl rfl).alike (alike_resume _ _ _)
    next =>
      cases hk
      exact hupdate (by simp [Process.life, hs, Activity.status?])
    next =>
      split at hk
      · cases hk
        exact h.alike (alike_resume _ _ _)
      · cases hk
        exact hupdate (by simp [Process.life, hs, Activity.status?])
    next =>
      obtain ⟨⟨a, k''⟩, hr, rfl⟩ := Option.map_eq_some_iff.1 hk
      exact (h.attempt hp hr).alike (alike_resume _ _ _)
  next => cases hk

/-- **A round.** -/
theorem Orderly.round (h : k.Orderly) (programs : Programs) : (k.round programs).1.Orderly := by
  unfold Kernel.round
  refine List.foldlRecOn (motive := fun state : Kernel × Bool => state.1.Orderly) _ _ h ?_
  rintro ⟨k, moved⟩ h before -
  dsimp only
  split
  next k' hk =>
    obtain ⟨p, hp, hadvance⟩ := Option.bind_eq_some_iff.1 hk
    exact Orderly.advance h (List.mem_of_find?_eq_some hp) hadvance
  next => exact h

/-- Time passes. -/
theorem Orderly.at_ (h : k.Orderly) (time : ℕ) : (k.at_ time).Orderly := by
  refine h.alike ⟨?_, rfl, le_rfl, [], rfl⟩
  unfold lives Kernel.at_
  rw [List.map_map]
  refine List.map_congr_left fun p _ => ?_
  dsimp only [Function.comp]
  split
  next wake rest hp =>
    split
    · simp [Process.life, hp, Activity.status?]
    · rfl
  next => rfl

theorem Orderly.ordered (h : k.Orderly) {e : Event} (he : e = .closed ∨ e = .deadline) :
    Ordered (e :: k.events).reverse := by
  obtain ⟨m, -, -, hexits, -⟩ := h.led
  refine List.pairwise_reverse.2 (List.pairwise_cons.2 ⟨fun e' _ => ?_, ?_⟩)
  · rcases he with rfl | rfl <;> cases e' <;> rfl
  · refine pairwise_mayPrecede h.going.1 ?_
    rw [hexits]
    cases m.status? <;> simp

/-- When the command is over, it has been seen to end. -/
theorem Orderly.exists_exited (h : k.Orderly) (hover : k.isOver = true) :
    ∃ s, .exited s ∈ k.events := by
  obtain ⟨m, hm, hleader, hexits, -⟩ := h.led
  obtain ⟨p, hp, rfl⟩ := List.mem_map.1 hm
  have hfound : k.process? k.leader = some p := hleader ▸ h.process?_eq hp
  unfold isOver at hover
  rw [hfound, Option.all_some, Bool.and_eq_true, Activity.isEnded_eq,
    Option.isSome_iff_exists] at hover
  obtain ⟨-, s, hs⟩ := hover
  refine ⟨s, mem_exits.1 ?_⟩
  rw [hexits, show p.life.status? = some s from hs]
  exact List.mem_singleton_self s

theorem Orderly.concluded_deadline (h : k.Orderly) : Concluded (.deadline :: k.events).reverse := by
  have hordered := h.ordered (e := .deadline) (.inr rfl)
  refine ⟨hordered, fun hnone => ?_⟩
  exact ((verdict?_eq_none_iff hordered).1 hnone).1 (by simp)

theorem Orderly.concluded_closed (h : k.Orderly) (hover : k.isOver = true) :
    Concluded (.closed :: k.events).reverse := by
  have hordered := h.ordered (e := .closed) (.inl rfl)
  obtain ⟨s, hs⟩ := h.exists_exited hover
  refine ⟨hordered, fun hnone => ?_⟩
  exact ((verdict?_eq_none_iff hordered).1 hnone).2 ⟨s, by simp, by simp [hs]⟩

/-- **A run comes to a verdict.** -/
theorem Orderly.simulate (h : k.Orderly) (programs : Programs) (limit : Option ℕ) (n : ℕ) :
    Concluded (k.simulate programs limit n).events.reverse := by
  induction n generalizing k with
  -- a kernel that takes no more rounds stops at the deadline
  | zero => exact h.concluded_deadline
  | succ n ih =>
    rw [Kernel.simulate]
    split
    next hover => exact h.concluded_closed hover
    next =>
      have hround := h.round programs
      split
      next k' hk =>
        rw [hk] at hround
        exact ih hround
      next k' hk =>
        rw [hk] at hround
        split
        next => exact hround.concluded_deadline
        next time _ =>
          split
          · exact hround.concluded_deadline
          · exact ih (hround.at_ time)

end Kernel

theorem orderly_boot (t : Host.Tree) (image : Image) : (boot t image).Orderly where
  distinct := List.nodup_singleton _
  below := by simp [Kernel.lives, boot, Process.life, leaderPid]
  led := ⟨⟨leaderPid, 1, none⟩, by simp [Kernel.lives, boot, Process.life, Activity.status?], rfl,
    rfl, by simp [Kernel.lives, boot, Process.life, leaderPid]⟩
  going := ⟨List.not_mem_nil, List.not_mem_nil⟩

/-- What is seen of a command that starts. -/
def seen (c : Command) (t : Host.Tree) (image : Image) : List Event :=
  ((boot t { image with environment := environment }).simulate Utility.run
    (c.limit.map Duration.totalNanos) maxRounds).events.reverse

/-- **A run of a command.** It does not start, or what is seen of it is in order and its result is the
verdict on that. -/
theorem run_cases (c : Command) (t : Host.Tree) :
    (∃ reason, (run c t).1 = .error (notStarted c reason)) ∨
      ∃ image v, Loader.find t c.program c.arguments = .ok image ∧ Ordered (seen c t image) ∧
        ({} : Watch).verdict? (seen c t image) = some v ∧ (run c t).1 = v.result c := by
  unfold run
  split
  · exact .inl ⟨_, rfl⟩
  · split
    · exact .inl ⟨_, rfl⟩
    next image hfind =>
      have hseen : Concluded (seen c t image) := (orderly_boot t _).simulate ..
      obtain ⟨v, hv⟩ := Option.ne_none_iff_exists'.1 hseen.2
      refine .inr ⟨image, v, hfind, hseen.1, hv, ?_⟩
      unfold seen at hv
      dsimp only
      rw [run_supervise, hv]
      rfl

end VolumeNode.Execution
