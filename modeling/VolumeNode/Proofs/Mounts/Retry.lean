import VolumeNode.Proofs.Mounts.Attempts

/-!
# Publishing after a timeout

A request to publish that fails for a timeout has mounted nothing, but the run of the tool that was
killed may have made the instance. The request is then refused when it is made again, since the name of
the instance is in use, until the volume is unpublished.

* `Published.timeout`: a timeout leaves nothing mounted.
* `publish_of_refuses`: a volume that has an instance cannot be published.
* `retry_iff`: the request succeeds when it is made again exactly if no instance has been left, and
  always after the volume has been unpublished.
* `retry_refused`: a tool that has made the instance before it was killed refuses to make it again.
-/

namespace VolumeNode.Node

variable {A : Type} {c : Config} {r : PublishRequest} {p : Publication} {e : Conditions A} {w : Site A}

/-- **A timeout leaves nothing mounted.** -/
theorem Published.timeout {x y : Option A} {result : Except VolumeError Unit} {f : VolumeError}
    {mounts : List Mounted} {runs : List Command} {calls : List (SystemCall × Except Errno Unit)}
    (h : Published e c p x result y mounts runs calls) (hresult : result = .error f)
    (hf : f.kind = .timeout) : mounts = [] := by
  cases h with
  | unseen => rfl
  | unprovisioned => rfl
  | bound _ hbound =>
    cases hbound with
    | mounted => cases hresult
    | failed => rfl
    | stuck =>
      -- a refusal of the kernel is no timeout
      cases hresult
      cases hf

/-- A tool that refuses a name in use keeps a volume that has an instance from being published. -/
theorem Published.of_refuses {a : A} {y : Option A} {result : Except VolumeError Unit}
    {mounts : List Mounted} {runs : List Command} {calls : List (SystemCall × Except Errno Unit)}
    (h : Published e c p (some a) result y mounts runs calls) (hhost : e.HostWorks p.target)
    (htool : e.Refuses c p.volume p.image) :
    ∃ k f, e.tool k (Image.createCommand c p.volume p.image) (some a) = (.error f, some a) ∧
      result = .error f ∧ y = some a ∧ mounts = [] := by
  cases h with
  | unseen h => exact (h hhost).elim
  | unprovisioned h =>
    obtain ⟨k, f, hrun, hf, hy⟩ := h.of_refuses htool
    cases hf
    exact ⟨k, _, hrun, rfl, hy, rfl⟩
  | bound h _ =>
    obtain ⟨k, f, -, hf, -⟩ := h.of_refuses htool
    cases hf

/-- **A volume that has an instance cannot be published** on a target that is not mounted, with a tool that
refuses a name in use. Nothing changes. -/
theorem publish_of_refuses {a : A} (h : checkPublish r = .ok p) (ht : w.targets p.target = [])
    (hv : w.instances p.volume = some a) (hhost : e.HostWorks p.target)
    (htool : e.Refuses c p.volume p.image) :
    (attempt c (.publish r) e w).world = w ∧
      ∃ k f, e.tool k (Image.createCommand c p.volume p.image) (some a) = (.error f, some a) ∧
        (attempt c (.publish r) e w).result = .error f := by
  have hcases := publish_cases (e := e) (c := c) h ht
  rw [hv] at hcases
  obtain ⟨k, f, hrun, hresult, hinstance, htarget⟩ := hcases.of_refuses hhost htool
  refine ⟨?_, k, f, hrun, hresult⟩
  have hworld := (attempt_elsewhere (place?_publish h)).eq_update hinstance htarget
  rwa [← hv, ← ht, Function.update_eq_self, Function.update_eq_self] at hworld

/-- **A request that timed out can be made again** exactly if the run of the tool that was killed has left
no instance, or after the volume has been unpublished. Let nothing be mounted on the target, and let the
request fail for a timeout, whatever the tool and the host have done. Nothing is mounted then. With a
tool and a host that work, a tool that refuses a name in use, the request made again succeeds and mounts
the root of the instance if there was none, and fails with the refusal of the tool, changing nothing, if
there was one. After the volume has been unpublished it succeeds. -/
theorem retry_iff {root : A → String} (h : checkPublish r = .ok p) (ht : w.targets p.target = [])
    {e₁ e₂ e₃ : Conditions A} {f : VolumeError}
    (htimeout : (attempt c (.publish r) e₁ w).result = .error f) (hf : f.kind = .timeout)
    (hhost₂ : e₂.HostWorks p.target) (htool₂ : e₂.Creates c p.volume p.image root)
    (hrefuses₂ : e₂.Refuses c p.volume p.image)
    (hhost₃ : e₃.HostWorks p.target) (htool₃ : e₃.Deletes c p.volume) :
    let left := (attempt c (.publish r) e₁ w).world
    let retry := attempt c (.publish r) e₂ left
    let removed := (attempt c (.unpublish { volumeId := p.volume, targetPath := p.target }) e₃ left).world
    let fresh := attempt c (.publish r) e₂ removed
    let flags := mountedFlags p.readOnly p.access.mountFlags
    left.targets p.target = [] ∧
      (retry.result = .ok () ↔ left.instances p.volume = none) ∧
      (retry.result = .ok () → ∃ a, retry.world.instances p.volume = some a ∧
        retry.world.targets p.target = [⟨root a, flags⟩]) ∧
      (∀ a, left.instances p.volume = some a → retry.world = left ∧
        ∃ k f, e₂.tool k (Image.createCommand c p.volume p.image) (some a) = (.error f, some a) ∧
          retry.result = .error f) ∧
      fresh.result = .ok () ∧ ∃ a, fresh.world.instances p.volume = some a ∧
        fresh.world.targets p.target = [⟨root a, flags⟩] := by
  intro left retry removed fresh flags
  have hleft : left.targets p.target = [] := (publish_cases h ht).timeout htimeout hf
  have hremoved : removed =
      ⟨Function.update left.instances p.volume none, Function.update left.targets p.target []⟩ :=
    (unpublish_of_works (checkUnpublish_of_checkPublish h) hhost₃ htool₃
      (by rw [hleft]; exact Nat.zero_le 1)).2.1
  obtain ⟨a, hfresh, hinstance, htarget, -⟩ := publish_of_works (c := c) (e := e₂) (w := removed) h
    (by rw [hremoved]; exact Function.update_self ..) (by rw [hremoved]; exact Function.update_self ..)
    hhost₂ htool₂
  have hnone : left.instances p.volume = none → retry.result = .ok () ∧
      ∃ a, retry.world.instances p.volume = some a ∧
        retry.world.targets p.target = [⟨root a, flags⟩] := by
    intro hv
    obtain ⟨a, hresult, hinstance, htarget, -⟩ := publish_of_works h hleft hv hhost₂ htool₂
    exact ⟨hresult, a, hinstance, htarget⟩
  have hsome : ∀ a, left.instances p.volume = some a → retry.world = left ∧
      ∃ k f, e₂.tool k (Image.createCommand c p.volume p.image) (some a) = (.error f, some a) ∧
        retry.result = .error f :=
    fun a hv => publish_of_refuses h hleft hv hhost₂ hrefuses₂
  have hiff : retry.result = .ok () ↔ left.instances p.volume = none := by
    refine ⟨fun hok => ?_, fun hv => (hnone hv).1⟩
    cases hv : left.instances p.volume with
    | none => rfl
    | some a =>
      obtain ⟨-, k, f, -, hfailed⟩ := hsome a hv
      rw [hok] at hfailed
      cases hfailed
  exact ⟨hleft, hiff, fun hok => (hnone (hiff.1 hok)).2, hsome, hfresh, a, hinstance, htarget⟩

/-- **A tool that has made the instance before it was killed** refuses to make it again. -/
theorem retry_refused :
    let first := attempt {} (.publish plainRequest) (.killed true) Premises.empty
    let retry := attempt {} (.publish plainRequest) (.unhindered [47, 114]) first.world
    first.result = .error (.timeout "from" ⟨1, 0⟩) ∧
      (Conditions.unhindered [47, 114]).HostWorks "/t" ∧
      (Conditions.unhindered [47, 114]).Creates {} "v" "i" Instance.printedRoot ∧
      (Conditions.unhindered [47, 114]).Refuses {} "v" "i" ∧
      retry.result ≠ .ok () ∧ retry.world.targets "/t" = [] := by
  have hroot : Image.root? [47, 114] = some "/r" := by decide +kernel
  exact ⟨by decide +kernel, hostWorks_unhindered (by decide),
    creates_unhindered hroot (by decide), refuses_unhindered, by decide +kernel, by decide +kernel⟩

/-- A tool that was killed before it has made the instance makes it when it is asked again. -/
theorem retry_iff_killed :
    let left := (attempt {} (.publish plainRequest) (.killed false) Premises.empty).world
    let retry := attempt {} (.publish plainRequest) (.unhindered [47, 114]) left
    retry.result = .ok () ∧ ∃ a, retry.world.instances "v" = some a ∧
      retry.world.targets "/t" = [⟨a.printedRoot, mountedFlags false []⟩] := by
  intro left retry
  have hroot : Image.root? [47, 114] = some "/r" := by decide +kernel
  have hnul : SystemCall.hasNul "/t" = false := by decide
  have htimeout : (attempt {} (.publish plainRequest) (.killed false) Premises.empty).result =
      .error (.timeout "from" ⟨1, 0⟩) := by
    decide +kernel
  obtain ⟨-, hiff, hmounted, -⟩ := retry_iff (p := ⟨"v", "/t", "i", {}, false⟩) rfl rfl htimeout rfl
    (hostWorks_unhindered hnul) (creates_unhindered hroot (by decide)) refuses_unhindered
    (hostWorks_unhindered (o := [47, 114]) hnul) deletes_unhindered
  have hok : retry.result = .ok () := hiff.2 (by decide +kernel)
  exact ⟨hok, hmounted hok⟩

end VolumeNode.Node
