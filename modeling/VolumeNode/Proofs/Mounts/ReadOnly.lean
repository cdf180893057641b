import VolumeNode.Proofs.Mounts.Attempts

/-!
# Read-only publishing, made again and again

A read-only root is mounted by a bind, which is writable, and a remount. When the remount fails the bind
is undone, and a request that is made again starts anew. When that fails too the target stays mounted,
and a request that is made again leaves it alone.

* `attempt_readOnly`: what one attempt does to a target that is not mounted, or mounted read-only.
* `readOnly_of_ok`: a request that succeeds has the target mounted read-only, unless an earlier one has
  failed to undo its bind.
* `writable_of_undoFailed`: such a failure leaves a writable mount that the next request accepts.
-/

namespace VolumeNode.Node

variable {A : Type} {c : Config} {r : PublishRequest} {p : Publication} {e : Conditions A} {w : Site A}

/-- What requests that are made one after the other leave, each under its own conditions. -/
def repeated (c : Config) (r : Request) (w : Site A) (history : List (Conditions A)) : Site A :=
  history.foldl (fun w e => (attempt c r e w).world) w

/-- A mount that nobody can write to. -/
def MountedReadOnly (mounts : List Mounted) : Prop :=
  ∃ m, mounts = [m] ∧ m.flags.holds .readOnly = true

/-- Whether an earlier attempt has left its bind on the target, having failed to remount and to unmount
it. -/
def BindLeft (c : Config) (r : Request) (t : String) (w : Site A) (history : List (Conditions A)) :
    Prop :=
  ∃ before e after, history = before ++ e :: after ∧
    UndoFailed t (attempt c r e (repeated c r w before)).calls

theorem BindLeft.append {t : String} {req : Request} {history : List (Conditions A)}
    (h : BindLeft c req t w history) (e : Conditions A) : BindLeft c req t w (history ++ [e]) := by
  obtain ⟨before, e', after, rfl, hundo⟩ := h
  exact ⟨before, e', after ++ [e], by simp, hundo⟩

theorem repeated_append_singleton (req : Request) (history : List (Conditions A)) :
    repeated c req w (history ++ [e]) = (attempt c req e (repeated c req w history)).world := by
  unfold repeated
  rw [List.foldl_append]
  rfl

/-- Publishing read-only on a target that is not mounted mounts it read-only, or fails, and leaves
nothing mounted unless it cannot undo its bind. -/
theorem Published.readOnly {x y : Option A} {result : Except VolumeError Unit} {mounts : List Mounted}
    {runs : List Command} {calls : List (SystemCall × Except Errno Unit)}
    (h : Published e c p x result y mounts runs calls) (hro : p.readOnly = true)
    (hrw : "rw" ∉ p.access.mountFlags) :
    MountedReadOnly mounts ∨ result ≠ .ok () ∧ (mounts = [] ∨ UndoFailed p.target calls) := by
  cases h with
  | unseen => exact Or.inr ⟨nofun, Or.inl rfl⟩
  | unprovisioned => exact Or.inr ⟨nofun, Or.inl rfl⟩
  | bound _ hbound =>
    cases hbound with
    | mounted =>
      rw [hro]
      exact Or.inl ⟨_, rfl, holds_readOnly_mountedFlags hrw⟩
    | failed => exact Or.inr ⟨nofun, Or.inl rfl⟩
    | stuck _ hundo => exact Or.inr ⟨nofun, Or.inr hundo⟩

/-- **An attempt to publish read-only** leaves the target mounted read-only, or fails, and leaves nothing
mounted unless it cannot undo its bind. -/
theorem attempt_readOnly (h : checkPublish r = .ok p) (hro : p.readOnly = true)
    (hrw : "rw" ∉ p.access.mountFlags)
    (hw : w.targets p.target = [] ∨ MountedReadOnly (w.targets p.target)) :
    MountedReadOnly ((attempt c (.publish r) e w).world.targets p.target) ∨
      (attempt c (.publish r) e w).result ≠ .ok () ∧
        ((attempt c (.publish r) e w).world.targets p.target = [] ∨
          UndoFailed p.target (attempt c (.publish r) e w).calls) := by
  rcases hw with ht | hmounted
  · exact (publish_cases h ht).readOnly hro hrw
  · have hne : w.targets p.target ≠ [] := by
      obtain ⟨m, hm, -⟩ := hmounted
      simp [hm]
    obtain ⟨-, hworld, -⟩ := publish_of_mounted (c := c) (e := e) h hne
    rw [hworld]
    exact Or.inl hmounted

/-- What requests to publish read-only leave, made one after the other. -/
theorem repeated_readOnly (h : checkPublish r = .ok p) (hro : p.readOnly = true)
    (hrw : "rw" ∉ p.access.mountFlags) (ht : w.targets p.target = []) (history : List (Conditions A)) :
    BindLeft c (.publish r) p.target w history ∨
      (repeated c (.publish r) w history).targets p.target = [] ∨
        MountedReadOnly ((repeated c (.publish r) w history).targets p.target) := by
  induction history using List.reverseRecOn with
  | nil => exact Or.inr (Or.inl ht)
  | append_singleton history e ih =>
    rcases ih with hleft | hw
    · exact Or.inl (hleft.append e)
    · rw [repeated_append_singleton]
      rcases attempt_readOnly h hro hrw hw with hmounted | ⟨-, hnone | hundo⟩
      · exact Or.inr (Or.inr hmounted)
      · exact Or.inr (Or.inl hnone)
      · exact Or.inl ⟨history, e, [], rfl, hundo⟩

/-- **A read-only request that succeeds has its target mounted read-only**, unless an earlier one has
failed to undo its bind. The request is made any number of times on a target that was not mounted,
whatever the tool does and whatever fails, and nothing else touches the target. -/
theorem readOnly_of_ok (h : checkPublish r = .ok p) (hro : p.readOnly = true)
    (hrw : "rw" ∉ p.access.mountFlags) (ht : w.targets p.target = []) (history : List (Conditions A))
    (hok : (attempt c (.publish r) e (repeated c (.publish r) w history)).result = .ok ()) :
    MountedReadOnly ((attempt c (.publish r) e (repeated c (.publish r) w history)).world.targets
        p.target) ∨
      BindLeft c (.publish r) p.target w history := by
  rcases repeated_readOnly (c := c) h hro hrw ht history with hleft | hw
  · exact Or.inr hleft
  · rcases attempt_readOnly h hro hrw hw with hmounted | ⟨hfailed, -⟩
    · exact Or.inl hmounted
    · exact (hfailed hok).elim

/-- A request to publish read-only. -/
def readOnlyRequest : PublishRequest :=
  { plainRequest with readonly := true }

/-- The kernel refuses the remount, and the unmount that is to undo the bind (`EBUSY`). -/
def undoRefused : Conditions Instance :=
  .ofFates fun k =>
    { output := [47, 114]
      refusal := if k = 6 then some .notPermitted else if k = 7 then some ⟨16⟩ else none }

/-- The tool prints a root whatever it is asked to, and the kernel refuses a remount at the given step. -/
def remountRefused (step : ℕ) : Conditions Unit :=
  ⟨fun _ _ _ => (.ok [47, 114], some ()), fun k =>
    { refusal := if k = step then some .notPermitted else none }⟩

/-- A remount is refused, the bind is undone, and the request that is made again mounts read-only. -/
theorem readOnly_of_ok_retried :
    let second := attempt {} (.publish readOnlyRequest) (remountRefused 0)
      (repeated {} (.publish readOnlyRequest) ⟨fun _ => none, fun _ => []⟩ [remountRefused 6])
    second.result = .ok () ∧ MountedReadOnly (second.world.targets "/t") := by
  intro second
  have hok : second.result = .ok () := by decide +kernel
  refine ⟨hok, ?_⟩
  rcases readOnly_of_ok (p := ⟨"v", "/t", "i", {}, true⟩) rfl rfl List.not_mem_nil rfl
    [remountRefused 6] hok with hmounted | ⟨before, e, after, hhistory, -, x, hx⟩
  · exact hmounted
  · -- the unmount of the only attempt before has been made
    have hundone : ((attempt {} (.publish readOnlyRequest) (remountRefused 6)
        ⟨fun _ => none, fun _ => []⟩).calls.all fun y => y.1 != .unmount "/t" || y.2.isOk) = true := by
      decide +kernel
    cases before with
    | nil =>
      cases hhistory
      cases List.all_eq_true.1 hundone _ hx
    | cons b before => simp at hhistory

/-- **A bind that could not be undone is accepted** when the request is made again. -/
theorem writable_of_undoFailed :
    let first := attempt {} (.publish readOnlyRequest) undoRefused Premises.empty
    let second := attempt {} (.publish readOnlyRequest) (.unhindered [47, 114]) first.world
    checkPublish readOnlyRequest = .ok ⟨"v", "/t", "i", {}, true⟩ ∧
      first.result = .error (.mount .notPermitted) ∧ second.result = .ok () ∧
      second.world.targets "/t" = [⟨"/r", .empty⟩] ∧ ¬ MountedReadOnly (second.world.targets "/t") := by
  intro first second
  have hmounts : second.world.targets "/t" = [⟨"/r", .empty⟩] := by decide +kernel
  refine ⟨rfl, by decide +kernel, by decide +kernel, hmounts, ?_⟩
  rintro ⟨m, hm, hflags⟩
  rw [hmounts] at hm
  cases hm
  cases hflags

end VolumeNode.Node
