import VolumeNode.Proofs.Mounts.Attempts

/-!
# Unpublishing cleans up

A request to publish may fail at any of its steps and leave an instance without a mount, or a mount
without its flags. What is left is no more than one mount and one instance, and unpublishing the volume
takes both down.

* `publish_length_le`: publishing leaves a target that carries one mount at most as such.
* `unpublish_cleans_up`: what an attempt to publish leaves can be unpublished, once and again, and then
  published as on a fresh host.
-/

namespace VolumeNode.Node

variable {A : Type} {c : Config} {r : PublishRequest} {p : Publication} {e : Conditions A} {w : Site A}

theorem Published.length_le {x y : Option A} {result : Except VolumeError Unit} {mounts : List Mounted}
    {runs : List Command} {calls : List (SystemCall × Except Errno Unit)}
    (h : Published e c p x result y mounts runs calls) : mounts.length ≤ 1 := by
  cases h with
  | unseen => exact Nat.zero_le 1
  | unprovisioned => exact Nat.zero_le 1
  | bound _ hbound =>
    cases hbound with
    | mounted => exact le_rfl
    | failed => exact Nat.zero_le 1
    | stuck => exact le_rfl

/-- **Publishing leaves a target that carries one mount at most as such**, wherever it fails. -/
theorem publish_length_le (h : checkPublish r = .ok p) (hlen : (w.targets p.target).length ≤ 1) :
    ((attempt c (.publish r) e w).world.targets p.target).length ≤ 1 := by
  by_cases ht : w.targets p.target = []
  · exact (publish_cases h ht).length_le
  · obtain ⟨-, hworld, -⟩ := publish_of_mounted (c := c) (e := e) h ht
    rw [hworld]
    exact hlen

/-- **Unpublishing cleans up after any attempt to publish.** Let the target carry one mount at most, and
let a request to publish come to whatever it may. Unpublishing with a tool and a host that work then
succeeds, and leaves the target not mounted, the volume without an instance, and everything else as it
was before the request; unpublishing again succeeds, changes nothing and asks nothing of the kernel; and
the request, made again, succeeds with the runs of the tool and the system calls of a fresh host. -/
theorem unpublish_cleans_up {root : A → String} (h : checkPublish r = .ok p)
    (hlen : (w.targets p.target).length ≤ 1) (e₁ : Conditions A) {e₂ e₃ e₄ : Conditions A}
    (hhost₂ : e₂.HostWorks p.target) (htool₂ : e₂.Deletes c p.volume)
    (hhost₃ : e₃.HostWorks p.target) (htool₃ : e₃.Deletes c p.volume)
    (hhost₄ : e₄.HostWorks p.target) (htool₄ : e₄.Creates c p.volume p.image root) :
    let unpublish : Request := .unpublish { volumeId := p.volume, targetPath := p.target }
    let published := attempt c (.publish r) e₁ w
    let first := attempt c unpublish e₂ published.world
    let second := attempt c unpublish e₃ first.world
    let again := attempt c (.publish r) e₄ second.world
    (first.result = .ok () ∧ first.world =
        ⟨Function.update w.instances p.volume none, Function.update w.targets p.target []⟩) ∧
      (second.result = .ok () ∧ second.world = first.world ∧ second.calls = []) ∧
      ∃ a, again.result = .ok () ∧
        again.world = ⟨Function.update w.instances p.volume (some a),
          Function.update w.targets p.target
            [⟨root a, mountedFlags p.readOnly p.access.mountFlags⟩]⟩ ∧
        again.runs = provisionRuns c p.volume p.image ∧
        again.calls =
          (rootCalls p.target (root a) p.readOnly p.access.mountFlags).map (·, .ok ()) ∧
        ∀ fresh : Site A, fresh.instances p.volume = none → fresh.targets p.target = [] →
          again.runs = (attempt c (.publish r) e₄ fresh).runs ∧
            again.calls = (attempt c (.publish r) e₄ fresh).calls := by
  intro unpublish published first second again
  have hplace := place?_publish h
  have hcheck := checkUnpublish_of_checkPublish h
  obtain ⟨hfirst, hworld₁, -⟩ := unpublish_of_works (c := c) (w := published.world) hcheck hhost₂
    htool₂ (publish_length_le h hlen)
  have hinstance₁ : first.world.instances p.volume = none := by
    rw [hworld₁]
    exact Function.update_self ..
  have htarget₁ : first.world.targets p.target = [] := by
    rw [hworld₁]
    exact Function.update_self ..
  -- what is elsewhere stays as it is from one attempt to the next
  have helsewhere₁ : Places.SameBut p.volume p.target w first.world :=
    (attempt_elsewhere hplace).trans (attempt_elsewhere (place?_unpublish hcheck))
  obtain ⟨hsecond, hworld₂, hcalls₂⟩ := unpublish_of_works (c := c) (w := first.world) hcheck hhost₃
    htool₃ (by rw [htarget₁]; exact Nat.zero_le 1)
  have hsame : second.world = first.world := by
    rw [hworld₂, ← hinstance₁, ← htarget₁, Function.update_eq_self, Function.update_eq_self]
  obtain ⟨a, hresult, hinstance, htarget, hruns, hcalls⟩ := publish_of_works (c := c) (e := e₄)
    (w := second.world) h (by rw [hsame, htarget₁]) (by rw [hsame, hinstance₁]) hhost₄ htool₄
  have helsewhere : Places.SameBut p.volume p.target w again.world :=
    (hsame ▸ helsewhere₁ : Places.SameBut p.volume p.target w second.world).trans
      (attempt_elsewhere hplace)
  refine ⟨⟨hfirst, helsewhere₁.eq_update hinstance₁ htarget₁⟩, ⟨hsecond, hsame, hcalls₂ htarget₁⟩, a,
    hresult, helsewhere.eq_update hinstance htarget, hruns, hcalls, fun fresh hv ht => ?_⟩
  exact (attempt_congr hplace (by rw [hsame, hinstance₁, hv]) (by rw [hsame, htarget₁, ht])).2

/-- A run of the tool is killed after it has made the instance. The request can be unpublished, while
another target stays mounted. -/
theorem unpublish_cleans_up_killed :
    let w : Site Instance := ⟨fun _ => none, fun t => if t = "/u" then [⟨"/r", .empty⟩] else []⟩
    let published := attempt {} (.publish plainRequest) (.killed true) w
    let first := attempt {} (.unpublish { volumeId := "v", targetPath := "/t" })
      (.unhindered [47, 114]) published.world
    published.result = .error (.timeout "from" ⟨1, 0⟩) ∧
      published.world.instances "v" = some ⟨none, []⟩ ∧ first.result = .ok () ∧
      first.world = ⟨Function.update w.instances "v" none, Function.update w.targets "/t" []⟩ := by
  intro w published first
  have hroot : Image.root? [47, 114] = some "/r" := by decide +kernel
  have hnul : SystemCall.hasNul "/t" = false := by decide
  obtain ⟨hfirst, -, -⟩ := unpublish_cleans_up (c := {}) (w := w)
    (p := ⟨"v", "/t", "i", {}, false⟩) (r := plainRequest) rfl (Nat.zero_le 1) (.killed true)
    (hostWorks_unhindered hnul) deletes_unhindered (hostWorks_unhindered (o := []) hnul)
    deletes_unhindered
    (hostWorks_unhindered hnul) (creates_unhindered hroot (by decide))
  exact ⟨by decide +kernel, by decide +kernel, hfirst⟩

end VolumeNode.Node
