import Mathlib.Data.List.Nodup
import VolumeNode.CommandLine.Invocation
import VolumeNode.Proofs.Programs

/-!
# What a command line says

While a level is read, each parameter is accepted once, with as many values as it may have, and every
value has been understood (`Progress.Sound`). Each way of saying something keeps it so, and with it the
whole level.

* `Progress.Sound.accept`: the only place where something is accepted.
* `Progress.Sound.scan`: a level that is read.
* `Invocation.exists_of_parse`: a limit or permission bits that are given count, whatever else is said.
-/

namespace VolumeNode.CommandLine

/-- Whether a parameter may have these values. -/
structure Parameter.Takes (p : Parameter) (values : List String) : Prop where
  checked : ∀ v ∈ values, p.check v = .ok ()
  none_of_switch : p.arity = .switch → values = []
  one_of_single : p.arity = .single → values.length = 1

namespace Progress

/-- What has been accepted has been accepted once, with values that it may have; what waits for a value is
no switch. -/
structure Sound (g : Progress) : Prop where
  once : (g.given.map Prod.fst).Nodup
  takes : ∀ e ∈ g.given, e.1.Takes e.2
  pending : ∀ e, g.pending = some e → e.1.arity ≠ .switch

variable {g : Progress} {p : Parameter} {l : Level}

theorem returns_check (p : Parameter) (values : List String) :
    Returns (fun _ => ∀ v ∈ values, p.check v = .ok ()) (values.forM p.check) := by
  induction values with
  | nil => exact .ok (by simp)
  | cons v values ih =>
    change Returns _ (p.check v >>= fun _ => values.forM p.check)
    refine Returns.bind (P := fun _ => p.check v = .ok ()) (fun _ h => h) fun _ hv => ?_
    exact fun u hu => List.forall_mem_cons.2 ⟨hv, ih u hu⟩

/-- **A parameter is accepted.** -/
theorem Sound.accept (hg : g.Sound) {values : List String} (hswitch : p.arity = .switch → values = [])
    (hsingle : p.arity = .single → values.length = 1) : Returns Sound (g.accept p values) := by
  unfold Progress.accept
  split
  next hp =>
    refine (returns_check p values).bind fun _ hv => .ok ⟨?_, ?_, hg.pending⟩
    · have hout : p ∉ g.given.map Prod.fst := by
        intro h
        obtain ⟨e, he, rfl⟩ := List.mem_map.1 h
        simpa using List.lookup_eq_none_iff.1 hp e he
      rw [List.map_append]
      exact hg.once.append (List.nodup_singleton p) (List.disjoint_singleton.2 hout)
    · simp only [List.mem_append, List.mem_singleton]
      rintro e (he | rfl)
      · exact hg.takes e he
      · exact ⟨hv, hswitch, hsingle⟩
  next before hp =>
    split
    next hrepeated =>
      -- the new values join the old ones, and the names stay as they are
      refine (returns_check p values).bind fun _ hv => .ok ⟨?_, ?_, hg.pending⟩
      · rw [List.map_map]
        convert hg.once using 2
        funext e
        dsimp only [Function.comp]
        split <;> simp_all
      · intro e he
        obtain ⟨e', he', rfl⟩ := List.mem_map.1 he
        split
        · have hbefore : p.Takes before := by
            obtain ⟨l₁, l₂, h, -⟩ := List.lookup_eq_some_iff.1 hp
            exact hg.takes (p, before) (by simp [h])
          refine ⟨?_, by simp [hrepeated], by simp [hrepeated]⟩
          simp only [List.mem_append]
          rintro v (h | h)
          · exact hbefore.checked v h
          · exact hv v h
        · exact hg.takes e' he'
    next => exact .error _

theorem Sound.settle (hg : g.Sound) : Returns (fun g => g.Sound) g.settle := by
  unfold Progress.settle
  split
  next => exact .ok hg
  next => exact .error _
  next p value h =>
    have hp := hg.pending _ h
    have hg' : Sound { g with pending := none } := ⟨hg.once, hg.takes, nofun⟩
    exact hg'.accept (fun h => absurd h hp) fun _ => rfl

theorem Sound.switch (hg : g.Sound) (hp : p.arity = .switch) : Returns Sound (g.switch p) := by
  refine hg.settle.bind fun g hg => ?_
  split
  · exact .error _
  · exact .error _
  · exact hg.accept (fun _ => rfl) (by simp [hp])

theorem Sound.withValue (hg : g.Sound) (hp : p.arity ≠ .switch) (attached : Option String) :
    Returns Sound (g.withValue p attached) := by
  refine hg.settle.bind fun g hg => ?_
  split
  · exact hg.accept (fun h => absurd h hp) (by simp)
  · exact .ok ⟨hg.once, hg.takes, by rintro _ ⟨⟩; exact hp⟩

theorem Sound.supply (hg : g.Sound) (value : String) : (g.supply value).Sound where
  once := hg.once
  takes := hg.takes
  pending := by
    simp only [Progress.supply, Option.map_eq_some_iff]
    rintro _ ⟨e, he, rfl⟩
    exact hg.pending e he

theorem arity_of_operand {n : Nat} (h : l.operands[n]? = some p) : p.arity = .single := by
  have : ∀ p ∈ l.operands, p.arity = .single := by cases l <;> decide
  exact this p (List.mem_of_getElem? h)

theorem Sound.operand (hg : g.Sound) (excess : Fault) (word : String) :
    Returns Sound (g.operand l excess word) := by
  unfold Progress.operand
  split
  next => exact .error _
  next p hp =>
    refine hg.settle.bind fun g hg => ?_
    refine (hg.accept (by simp [arity_of_operand hp]) (fun _ => rfl)).bind fun g hg => ?_
    exact .ok ⟨hg.once, hg.takes, hg.pending⟩

theorem Sound.longOption (hg : g.Sound) (body : List Char) : Returns Sound (g.longOption l body) := by
  unfold Progress.longOption
  split
  split
  next => exact .error _
  next p _ =>
    split
    next hp =>
      split
      · exact .error _
      · exact hg.switch hp
    next hp => exact hg.withValue hp _

theorem Sound.shortOptions (hg : g.Sound) (cs : List Char) : Returns Sound (shortOptions l cs g) := by
  induction cs generalizing g with
  | nil => exact .ok hg
  | cons c cs ih =>
    rw [Progress.shortOptions]
    split
    next => exact .error _
    next p _ =>
      split
      next hp => exact (hg.switch hp).bind fun g hg => ih hg
      next hp => exact hg.withValue hp _

theorem Sound.literal (hg : g.Sound) (words : List String) : Returns Sound (literal l words g) := by
  induction words generalizing g with
  | nil => exact .ok hg
  | cons word words ih => exact (hg.operand _ word).bind fun g hg => ih hg

/-- **A level is read.** -/
theorem Sound.scan (hg : g.Sound) (words : List String) :
    Returns (fun r => r.1.Sound) (scan l words g) := by
  induction words generalizing g with
  | nil => exact .ok hg
  | cons word words ih =>
    rw [Progress.scan]
    split
    next => exact .ok hg
    next =>
      split
      next => exact .error _
      next =>
        split
        next => exact (hg.literal words).bind fun g hg => .ok hg
        next body _ _ => exact (hg.longOption body).bind fun g hg => ih hg
        next c cs _ _ _ => exact (hg.shortOptions (c :: cs)).bind fun g hg => ih hg
        next =>
          split
          · exact ih (hg.supply word)
          · exact (hg.operand _ word).bind fun g hg => ih hg

theorem Sound.finish (hg : g.Sound) (e : Environment) : Returns Sound (g.finish e l) := by
  refine hg.settle.bind fun g hg => ?_
  exact Returns.bind (P := fun _ => True) (fun _ _ => trivial) fun _ _ => .ok hg

theorem sound_start : Sound {} :=
  ⟨List.nodup_nil, nofun, nofun⟩

/-- A value that has been accepted is understood. -/
theorem Sound.check_of_value? (hg : g.Sound) {v : String} (h : g.value? p = some v) :
    p.check v = .ok () := by
  obtain ⟨values, hp, hv⟩ := Option.bind_eq_some_iff.1 h
  obtain ⟨l₁, l₂, hl, -⟩ := List.lookup_eq_some_iff.1 hp
  exact (hg.takes (p, values) (by simp [hl])).checked v (List.mem_of_head? hv)

end Progress

namespace Invocation

open Progress

/-- What is said of a parameter behind the subcommand, else in front of it. -/
def said? (top behind : Progress) (p : Parameter) : Option String :=
  (behind.value? p).or (top.value? p)

theorem check_of_said? {top behind : Progress} (htop : top.Sound) (hbehind : behind.Sound)
    {p : Parameter} {text : String} (h : said? top behind p = some text) : p.check text = .ok () := by
  rcases Option.or_eq_some_iff.1 h with h | ⟨-, h⟩
  · exact hbehind.check_of_value? h
  · exact htop.check_of_value? h

theorem returns_parse (e : Environment) (words : List String) :
    Returns (fun i => ∃ top behind : Progress, top.Sound ∧ behind.Sound ∧
      i = assemble e top behind i.task) (parse e words) := by
  refine (sound_start.scan words).bind fun r htop => ?_
  obtain ⟨top, rest⟩ := r
  dsimp only
  split
  next => exact (htop.finish e).bind fun top _ => .error _
  next l rest =>
    refine (sound_start.scan rest).bind fun r hbehind => ?_
    refine (hbehind.finish e).bind fun behind hbehind => ?_
    refine Returns.bind (P := fun _ => True) (fun _ _ => trivial) fun _ _ => ?_
    refine (htop.finish e).bind fun top htop => ?_
    split
    next t _ => exact .ok ⟨top, behind, htop, hbehind, rfl⟩
    next => exact .error _

/-- What the environment says does not matter then. -/
theorem or_eq_of_said? {e : Environment} {top behind : Progress} {p : Parameter} {text : String}
    (h : said? top behind p = some text) :
    (behind.value? p).or ((top.value? p).or (e.value? p)) = some text := by
  rw [← Option.or_assoc]
  exact Option.or_eq_some_iff.2 (.inl h)

theorem timeoutSecs_assemble {e : Environment} {top behind : Progress} {t : Task} {text : String}
    (h : said? top behind .timeout = some text) (hcheck : Parameter.timeout.check text = .ok ()) :
    Seconds.parse text = .ok (assemble e top behind t).timeoutSecs := by
  cases hn : Seconds.parse text with
  | error f => simp [Parameter.check, hn] at hcheck
  | ok n => simp [assemble, or_eq_of_said? h, hn, Except.toOption]

theorem targetDirMode_assemble {e : Environment} {top behind : Progress} {t : Task} {text : String}
    (h : said? top behind .targetDirMode = some text)
    (hcheck : Parameter.targetDirMode.check text = .ok ()) :
    FileMode.parse? text = some (assemble e top behind t).targetDirMode := by
  cases hm : FileMode.parse? text with
  | none => simp [Parameter.check, FileMode.parse, hm] at hcheck
  | some m => simp [assemble, or_eq_of_said? h, hm]

theorem timeoutSecs_lt (e : Environment) (top behind : Progress) (t : Task) :
    (assemble e top behind t).timeoutSecs < Seconds.bound := by
  have h0 : 0 < Seconds.bound := by decide
  dsimp only [assemble]
  cases (behind.value? .timeout).or ((top.value? .timeout).or (e.value? .timeout)) with
  | none => exact h0
  | some text =>
    dsimp only [Option.map_some, Option.bind_some]
    cases hn : Seconds.parse text with
    | error f => exact h0
    | ok n => exact Seconds.lt_of_parse hn

theorem targetDirMode_le (e : Environment) (top behind : Progress) (t : Task) :
    (assemble e top behind t).targetDirMode ≤ FileMode.limit := by
  dsimp only [assemble]
  cases hm : ((behind.value? .targetDirMode).or
      ((top.value? .targetDirMode).or (e.value? .targetDirMode))).bind FileMode.parse? with
  | none => exact (by decide : ({} : Config).targetDirMode ≤ FileMode.limit)
  | some m =>
    obtain ⟨text, -, hp⟩ := Option.bind_eq_some_iff.1 hm
    exact of_decide_eq_true (Option.filter_eq_some_iff.1 hp).2

/-- **What is said on a command line counts.** Each part of a command line that is understood says
nothing twice, and only what is understood itself. So no default stands in for a limit or for
permission bits that are given, and both are always in range. -/
theorem exists_of_parse {e : Environment} {words : List String} {i : Invocation}
    (h : parse e words = .ok i) : ∃ top behind : Progress, top.Sound ∧ behind.Sound ∧
      i = assemble e top behind i.task ∧
      i.timeoutSecs < Seconds.bound ∧ i.targetDirMode ≤ FileMode.limit ∧
      (∀ text, said? top behind .timeout = some text → Seconds.parse text = .ok i.timeoutSecs) ∧
      ∀ text, said? top behind .targetDirMode = some text →
        FileMode.parse? text = some i.targetDirMode := by
  obtain ⟨top, behind, htop, hbehind, hi⟩ := returns_parse e words i h
  refine ⟨top, behind, htop, hbehind, hi, ?_, ?_, fun text ht => ?_, fun text ht => ?_⟩ <;> rw [hi]
  · exact timeoutSecs_lt ..
  · exact targetDirMode_le ..
  · exact timeoutSecs_assemble ht (check_of_said? htop hbehind ht)
  · exact targetDirMode_assemble ht (check_of_said? htop hbehind ht)

end Invocation

end VolumeNode.CommandLine
