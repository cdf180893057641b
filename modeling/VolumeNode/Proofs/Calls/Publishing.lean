import Mathlib.Data.List.TakeWhile
import VolumeNode.Proofs.Calls.Procedure
import VolumeNode.Proofs.Mounts.KernelCalls

/-!
# The steps of a publication

A publication looks at its target, has the image tool make an instance and print its root, looks at the
target again, creates it if it is not there, and mounts the root on it. It goes no further than a step that
fails, a root that is blank, or a target that looks mounted. The collaborators answer as they like, and
each answer may depend on everything before it.

* `rootOf_eq`: a root is what has been printed, unless that is blank.
* `provides_provision`, `carried_publish`: the steps of the two halves.
* `publish_in_turn`: the steps of a publish request, and when it succeeds.
-/

namespace VolumeNode

namespace Text

theorem all_isBlank_of_dropWhile {cs : List Char} (h : ∀ x ∈ cs.dropWhile isBlank, isBlank x = true) :
    ∀ x ∈ cs, isBlank x = true := by
  intro x hx
  rw [← List.takeWhile_append_dropWhile (p := isBlank) (l := cs), List.mem_append] at hx
  exact hx.elim List.mem_takeWhile_imp (h x)

/-- Nothing is left of a text if it is blank. -/
theorem trim_isEmpty (s : String) : (trim s).isEmpty = isBlankText s := by
  refine Bool.eq_iff_iff.2 ?_
  rw [trim, trimChars, isBlankText, String.isEmpty_iff, List.all_eq_true]
  constructor
  · intro h
    have hnil : ((s.toList.dropWhile isBlank).reverse.dropWhile isBlank).reverse = [] := by
      simpa using congrArg String.toList h
    rw [List.reverse_eq_nil_iff, List.dropWhile_eq_nil_iff] at hnil
    exact all_isBlank_of_dropWhile fun x hx => hnil x (List.mem_reverse.2 hx)
  · intro h
    rw [List.dropWhile_eq_nil_iff.2 h]
    rfl

end Text

namespace Node

open Program (World reading)

/-- A root is what has been printed, unless that is blank. -/
theorem rootOf_eq (v : String) (output : Output) :
    Image.rootOf v output =
      if Text.isBlankText (Text.Utf8.decodeLossy output) then .error (.noRootPath v)
      else .ok (Text.trim (Text.Utf8.decodeLossy output)) := by
  rw [← Text.trim_isEmpty]
  unfold Image.rootOf Image.root?
  dsimp only
  cases (Text.trim (Text.Utf8.decodeLossy output)).isEmpty <;> rfl

/-- What the runs of the tool in a record have printed. -/
def printouts (l : List (Asked Action.interface)) : List Output :=
  l.filterMap fun
    | ⟨.runTool _, .ok output⟩ => some output
    | _ => none

/-- Whether an inspection in a record has found no target, counted from zero. -/
def missedAt (n : ℕ) (l : List (Asked Action.interface)) : Bool :=
  match (inspections l)[n]? with
  | some (.error e) => e.isNotFound
  | _ => false

/-- The root that has been printed last. -/
def lastRoot (l : List (Asked Action.interface)) : String :=
  Text.trim (Text.Utf8.decodeLossy ((printouts l).getLast?.getD []))

/-- The runs of the tool by which an instance is made and its root is printed. -/
def toolSteps (c : Config) (p : Publication) : List Action :=
  .runTool ⟨c.toolPath, ["from", "--name", p.volume, "--pull", p.image], c.timeout⟩ ::
    if c.resolveRoot then [.runTool ⟨c.toolPath, ["mount", p.volume], c.timeout⟩] else []

/-- The actions by which a root is mounted on a target that may be missing. -/
def mountSteps (c : Config) (p : Publication) (root : String) (missing : Bool) : List Action :=
  .inspect p.target :: (if missing then [.create p.target c.targetDirMode] else []) ++
    [.mount root p.target none
      ("bind" :: (if p.readOnly then ["ro"] else []) ++ p.access.mountFlags)]

/-- The actions of a publication, given what has been answered. -/
def publishSteps (c : Config) (p : Publication) (l : List (Asked Action.interface)) : List Action :=
  .inspect p.target :: toolSteps c p ++ mountSteps c p (lastRoot l) (missedAt 1 l)

/-- Whether a publication goes no further than an action: it has failed, or the target looks mounted, or
the last of the runs of the tool has printed nothing but blanks. A target that is not there is no
failure. -/
def stopsPublication (c : Config) (p : Publication) : Asked Action.interface → Bool
  | ⟨.inspect _, .ok mounted⟩ => mounted
  | ⟨.inspect _, .error e⟩ => !e.isNotFound
  | ⟨.runTool command, .ok output⟩ =>
    command == rootCommand c p.volume p.image && Text.isBlankText (Text.Utf8.decodeLossy output)
  | ⟨.runTool _, .error _⟩ | ⟨.create .., .error _⟩ | ⟨.mount .., .error _⟩ => true
  | _ => false

/-- Whether an action leaves the target mounted: the mount has succeeded, or the target looks mounted. -/
def exposes : Asked Action.interface → Bool
  | ⟨.inspect _, .ok mounted⟩ => mounted
  | ⟨.mount .., .ok ()⟩ => true
  | _ => false

@[simp] theorem printouts_append (l l' : List (Asked Action.interface)) :
    printouts (l ++ l') = printouts l ++ printouts l' :=
  List.filterMap_append

section

variable {σ : Type} {w : World Action.interface σ} {c : Config} {p : Publication} {k : ℕ} {s : σ}
  {root : String} {l l' : List (Asked Action.interface)}

theorem lastRoot_append (h : printouts l' ≠ []) : lastRoot (l ++ l') = lastRoot l' := by
  rw [lastRoot, printouts_append, List.getLast?_append_of_ne_nil _ h, lastRoot]

theorem lastRoot_append_of_nil (h : printouts l' = []) : lastRoot (l ++ l') = lastRoot l := by
  rw [lastRoot, printouts_append, h, List.append_nil, lastRoot]

/-- The root is what the runs of the tool have printed, and whether the target is missing is what the
inspection after them has said. -/
theorem publishSteps_eq {first : List (Asked Action.interface)} {x : Except FileError Bool}
    (hfirst : inspections first = [x]) (hquiet : inspections l = []) (hne : printouts l ≠ [])
    (hnone : printouts l' = []) :
    publishSteps c p (first ++ (l ++ l')) =
      .inspect p.target :: toolSteps c p ++ mountSteps c p (lastRoot l) (missedAt 0 l') := by
  have hprints : printouts (l ++ l') ≠ [] := by rwa [printouts_append, hnone, List.append_nil]
  have hinspections : inspections (first ++ (l ++ l')) = x :: inspections l' := by
    rw [inspections_append, inspections_append, hfirst, hquiet]
    rfl
  unfold publishSteps missedAt
  rw [lastRoot_append hprints, lastRoot_append_of_nil hnone, hinspections, List.getElem?_cons_succ]

/-- What a publication makes of an inspection. -/
theorem inspection_cases (c : Config) (p : Publication) (x : Except FileError Bool) :
    let y : Asked Action.interface := ⟨.inspect p.target, x⟩
    Target.understood p.target x = .ok true ∧ stopsPublication c p y = true ∧ exposes y = true ∨
      Target.understood p.target x = .ok false ∧ stopsPublication c p y = false ∧ exposes y = false ∨
      ∃ e, Target.understood p.target x = .error e ∧ stopsPublication c p y = true ∧
        exposes y = false := by
  match x with
  | .ok true => exact Or.inl ⟨rfl, rfl, rfl⟩
  | .ok false => exact Or.inr (Or.inl ⟨rfl, rfl, rfl⟩)
  | .error e =>
    cases h : e.isNotFound with
    | true =>
      exact Or.inr (Or.inl ⟨by simp [Target.understood, h], by simp [stopsPublication, h], rfl⟩)
    | false =>
      exact Or.inr (Or.inr ⟨_, by simp [Target.understood, h]; rfl, by simp [stopsPublication, h], rfl⟩)

/-- Whether runs of the tool have been carried out, with a root or none as their result. -/
structure Provides (c : Config) (p : Publication) (steps : List Action)
    (x : Except VolumeError String) (l : List (Asked Action.interface)) : Prop where
  carried : Carried (I := Action.interface) (stopsPublication c p) steps l
  stopped : l.any (stopsPublication c p) = !x.isOk
  inspections_eq : inspections l = []
  not_exposes : l.any exposes = false
  root_eq : ∀ root, x = .ok root → printouts l ≠ [] ∧ root = lastRoot l

/-- The run of the tool from which the root is taken. -/
theorem provides_rootOf :
    Yields (reading w) (fun x _ l =>
      Provides c p [.runTool (rootCommand c p.volume p.image)] x l) k
      ((Action.runTool (rootCommand c p.volume p.image)).take.andThen fun o =>
        .done (Image.rootOf p.volume o)) s := by
  refine (yields_take (.runTool (rootCommand c p.volume p.image))).andThen ?_ ?_
  · rintro k output s _ rfl
    refine yields_done ?_
    rw [rootOf_eq, List.append_nil]
    cases hblank : Text.isBlankText (Text.Utf8.decodeLossy output) with
    | true => exact ⟨carried_single .., by simp [stopsPublication, hblank]; rfl, rfl, rfl, by simp⟩
    | false =>
      refine ⟨carried_single .., by simp [stopsPublication, hblank]; rfl, rfl, rfl, ?_⟩
      rintro root h
      obtain rfl := Except.ok.inj h
      exact ⟨List.cons_ne_nil _ _, rfl⟩
  · rintro e s _ rfl
    exact ⟨carried_single .., rfl, rfl, rfl, by simp⟩

/-- **The runs of the tool for an instance.** -/
theorem provides_provision :
    Yields (reading w) (fun x _ l => Provides c p (toolSteps c p) x l) k
      (Image.provision c p.volume p.image) s := by
  unfold Image.provision toolSteps
  cases hresolve : c.resolveRoot with
  | false =>
    -- the one run makes the instance and prints the root
    have hlast : rootCommand c p.volume p.image = Image.createCommand c p.volume p.image :=
      if_neg (by simp [hresolve])
    have h := provides_rootOf (w := w) (c := c) (p := p) (k := k) (s := s)
    rw [hlast] at h
    exact h
  | true =>
    have hlast : rootCommand c p.volume p.image = Image.mountCommand c p.volume :=
      if_pos hresolve
    -- no root is taken from what the first run prints, so that it may be blank
    have hother : Image.createCommand c p.volume p.image ≠ rootCommand c p.volume p.image := by
      simp [hlast, Image.createCommand, Image.mountCommand, Image.command]
    refine (yields_take (.runTool (Image.createCommand c p.volume p.image))).andThen ?_ ?_
    · rintro k output s _ rfl
      have hgoes : stopsPublication c p ⟨.runTool (Image.createCommand c p.volume p.image), .ok output⟩ =
          false := by
        simp [stopsPublication, hother]
      have h := provides_rootOf (w := w) (c := c) (p := p) (k := k) (s := s)
      rw [hlast] at h
      refine h.mono fun x s l hl => ?_
      refine ⟨.next hgoes hl.carried, ?_, hl.inspections_eq, hl.not_exposes, fun root hx => ?_⟩
      · exact (congrArg (· || l.any _) hgoes).trans hl.stopped
      · obtain ⟨hne, hroot⟩ := hl.root_eq root hx
        exact ⟨List.cons_ne_nil _ _, hroot.trans (lastRoot_append hne).symm⟩
    · rintro e s _ rfl
      exact ⟨.stop rfl, rfl, rfl, rfl, by simp⟩

/-- A target that is not there is created before the root is mounted on it. -/
theorem carried_missing {e : FileError} (he : e.isNotFound = true)
    (h : Carried (I := Action.interface) (stopsPublication c p)
      [.create p.target c.targetDirMode, bindAction p.target root p.readOnly p.access.mountFlags] l) :
    Carried (I := Action.interface) (stopsPublication c p)
      (mountSteps c p root (missedAt 0 (⟨.inspect p.target, .error e⟩ :: l)))
      (⟨.inspect p.target, .error e⟩ :: l) := by
  change Carried (I := Action.interface) _ (mountSteps c p root e.isNotFound) _
  rw [he]
  exact .next (by simp [stopsPublication, he]) h

/-- **The steps by which a root is mounted.** -/
theorem carried_publish :
    Yields (reading w) (fun x _ l =>
      Carried (I := Action.interface) (stopsPublication c p) (mountSteps c p root (missedAt 0 l)) l ∧
        printouts l = [] ∧ l.any exposes = x.isOk) k
      (Target.publish c.targetDirMode p.target root p.readOnly p.access.mountFlags) s := by
  refine (yields_take (.inspect p.target)).bind ?_
  rintro k x s _ rfl
  match x with
  | .ok true => exact yields_done ⟨.stop rfl, rfl, rfl⟩
  | .ok false =>
    refine (yields_take (bindAction p.target root p.readOnly p.access.mountFlags)).mono ?_
    rintro y s _ rfl
    exact ⟨.next rfl (carried_single ..), rfl, by cases y <;> rfl⟩
  | .error e =>
    dsimp only
    cases hfound : e.isNotFound with
    | false => exact yields_done ⟨.stop (by simp [stopsPublication, hfound]), rfl, rfl⟩
    | true =>
      rw [if_pos rfl]
      refine Yields.andThen (yields_take_map (.create p.target c.targetDirMode) _) ?_ ?_
      · rintro k a s _ ⟨x, hx, rfl⟩
        cases x with
        | error f => cases hx
        | ok =>
          refine (yields_take (bindAction p.target root p.readOnly p.access.mountFlags)).mono ?_
          rintro y s _ rfl
          exact ⟨carried_missing hfound (.next rfl (carried_single ..)), rfl, by cases y <;> rfl⟩
      · rintro f s _ ⟨x, hx, rfl⟩
        cases x with
        | ok => cases hx
        | error g => exact ⟨carried_missing hfound (.stop rfl), rfl, rfl⟩

/-- **The steps under the lock of a volume.** -/
theorem carried_publishBody :
    Yields (reading w) (fun x _ l =>
      Carried (I := Action.interface) (stopsPublication c p) (publishSteps c p l) l ∧
        l.any exposes = x.isOk) k (publishBody c p) s := by
  refine (yields_take_map (.inspect p.target) _).andThen ?_ ?_
  · rintro k mounted s _ ⟨x, hx, rfl⟩
    rcases inspection_cases c p x with ⟨hu, hstops, hexposes⟩ | ⟨hu, hstops, hexposes⟩ | ⟨e, hu, -⟩
    · obtain rfl : mounted = true := Except.ok.inj (hx.trans hu)
      exact yields_done ⟨.stop hstops, by simp [hexposes]; rfl⟩
    · -- the target is down, so that the tool is run next
      obtain rfl : mounted = false := Except.ok.inj (hx.trans hu)
      refine provides_provision.andThen (fun k root s l hl => ?_) fun e s l hl => ?_
      · obtain ⟨hne, rfl⟩ := hl.root_eq root rfl
        refine carried_publish.mono fun y s l' ⟨hl', hnone, hy⟩ => ⟨?_, ?_⟩
        · rw [publishSteps_eq (x := x) rfl hl.inspections_eq hne hnone]
          exact .next hstops (hl.carried.append hl.stopped hl')
        · rw [List.any_append, List.any_append, hl.not_exposes, hy]
          simp [hexposes]
      · refine ⟨.next hstops (hl.carried.append_of_stopped hl.stopped _), ?_⟩
        rw [List.any_append, hl.not_exposes]
        simp [hexposes]
        rfl
    · cases hx.trans hu
  · rintro e s _ ⟨x, hx, rfl⟩
    rcases inspection_cases c p x with ⟨hu, -⟩ | ⟨hu, -⟩ | ⟨e, hu, hstops, hexposes⟩
    · cases hx.trans hu
    · cases hx.trans hu
    · exact ⟨.stop hstops, by simp [hexposes]; rfl⟩

end

/-- **A publish request does these steps, in turn, and no others outside of the lock table**, whatever the
collaborators answer. It succeeds if the mount does, or if it stops at a target that looks mounted. -/
theorem publish_in_turn {σ : Type} (c : Config) (r : PublishRequest) (w : World Action.interface σ)
    (s : σ) {capability : Capability} {image : String} (hcapability : r.capability = some capability)
    (hvolume : r.volumeId ≠ "") (htarget : r.targetPath ≠ "")
    (himage : r.volumeContext.get? "image" = some image) (hne : image ≠ "") :
    let p : Publication := ⟨r.volumeId, r.targetPath, image, capability.mount.getD {}, r.readonly⟩
    let actions := external ((publishVolume c r).transcript w s)
    Carried (stopsPublication c p) (publishSteps c p actions) actions ∧
      (((publishVolume c r).run w s).1 = .ok () ↔ ∃ y ∈ actions, exposes y = true) := by
  intro p actions
  have hcheck : checkPublish r = .ok p := by
    simp [checkPublish, hcapability, hvolume, htarget, PublishRequest.imageAttribute, himage, hne,
      Option.filter, p]
  have hcall : publishVolume c r = underLock p.volume (publishBody c p) := by
    simp only [publishVolume, hcheck]
  obtain ⟨s', hactions, hresult⟩ := (Work.publish (c := c) p).external_underLock w s
  obtain ⟨hcarried, hok⟩ := Program.yields_transcript (k := 0)
    (carried_publishBody (w := w) (c := c) (p := p) (s := s'))
  rw [show actions = _ from (congrArg (fun q => external (q.transcript w s)) hcall).trans hactions, hcall,
    hresult]
  refine ⟨hcarried, ?_⟩
  rw [← List.any_eq_true, hok]
  cases ((publishBody c p).run w s').1 <;> simp [Except.isOk, Except.toBool]

/-- The tool prints a root, and the target is removed after it has been inspected. -/
def vanishing : World Action.interface Bool
  | .enter _, s => ((0 : Ticket), s)
  | .acquire _, s | .release _, s | .discard _, s => ((), s)
  | .inspect _, false => (.ok false, true)
  | .inspect _, true => (.error (.os .noEntry), true)
  | .runTool _, s => (.ok [0x20, 0x2F, 0x72, 0x0A], s)
  | .create .., s | .mount .., s | .unmount _, s => (.ok (), s)

/-- A target that is removed in the meantime is created again, and the root is mounted on it. -/
theorem publish_in_turn_vanishing :
    let r : PublishRequest :=
      { volumeId := "v", targetPath := "/t", capability := some ⟨some ⟨"", ["noexec"]⟩⟩,
        volumeContext := Attributes.empty.insert "image" "i", readonly := true }
    let actions := external ((publishVolume {} r).transcript vanishing false)
    r.volumeContext.get? "image" = some "i" ∧
      (actions.map (·.1) : List Action) = [.inspect "/t",
        .runTool ⟨"/bin/buildah", ["from", "--name", "v", "--pull", "i"], none⟩, .inspect "/t",
        .create "/t" 0o750, .mount "/r" "/t" none ["bind", "ro", "noexec"]] ∧
      ((publishVolume {} r).run vanishing false).1 = .ok () := by
  intro r actions
  have himage : r.volumeContext.get? "image" = some "i" := by decide +kernel
  have hcapability : r.capability = some ⟨some ⟨"", ["noexec"]⟩⟩ := rfl
  obtain ⟨-, hok⟩ := publish_in_turn {} r vanishing false hcapability (by decide) (by decide) himage
    (by decide)
  refine ⟨himage, by decide +kernel, hok.2 (List.any_eq_true.1 ?_)⟩
  decide +kernel

end Node

end VolumeNode
