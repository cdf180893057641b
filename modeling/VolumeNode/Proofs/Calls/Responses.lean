import VolumeNode.Proofs.Calls.Failures

/-!
# What clients learn of failures

A request that lacks something is refused before anything is done. To any other the response is a failure
of the kind of the first step that has failed, or is positive; a failure without a failed step is due to
a name that holds NUL.

* `plan_missing`: a request is refused for the first item that it lacks.
* `reports_underLock`: work under a lock reports what the work does.
* `handle_classified`: the response to a request, whatever the machine does.
-/

namespace VolumeNode.Node

open Program (World reading)

variable {σ α : Type} {c : Config} {m : World Machine.interface σ} {k : ℕ} {s : σ}

/-- The items that a request lacks, in the order in which they are looked for. -/
def missingItems : Request → List MissingItem
  | .publish r =>
    (if r.capability = none then [.capability] else []) ++
      (if r.volumeId = "" then [.volumeId] else []) ++
      (if r.targetPath = "" then [.targetPath] else []) ++
      if (r.volumeContext.get? "image").getD "" = "" then [.image] else []
  | .unpublish r =>
    (if r.volumeId = "" then [.volumeId] else []) ++ if r.targetPath = "" then [.targetPath] else []
  | .stage _ | .unstage _ => []

/-- A publish request is refused for the first item that it lacks. -/
theorem checkPublish_cases (r : PublishRequest) :
    (∃ item, (missingItems (.publish r)).head? = some item ∧ checkPublish r = .error item) ∨
      missingItems (.publish r) = [] ∧ ∃ p, checkPublish r = .ok p := by
  simp only [missingItems, checkPublish, PublishRequest.imageAttribute, String.isEmpty_iff]
  cases hc : r.capability with
  | none => exact Or.inl ⟨.capability, rfl, rfl⟩
  | some capability =>
    by_cases hv : r.volumeId = ""
    · exact Or.inl ⟨.volumeId, by simp [hv], by simp [hv]⟩
    · by_cases ht : r.targetPath = ""
      · exact Or.inl ⟨.targetPath, by simp [hv, ht], by simp [hv, ht]⟩
      · cases hi : r.volumeContext.get? "image" with
        | none => exact Or.inl ⟨.image, by simp [hv, ht], by simp [hv, ht]⟩
        | some image =>
          by_cases he : image = ""
          · exact Or.inl ⟨.image, by simp [hv, ht, he], by simp [hv, ht, he, Option.filter]⟩
          · exact Or.inr ⟨by simp [hv, ht, he], _, by simp [hv, ht, he, Option.filter]; rfl⟩

/-- So is an unpublish request. -/
theorem checkUnpublish_cases (r : UnpublishRequest) :
    (∃ item, (missingItems (.unpublish r)).head? = some item ∧ checkUnpublish r = .error item) ∨
      missingItems (.unpublish r) = [] ∧ checkUnpublish r = .ok () := by
  simp only [missingItems, checkUnpublish, String.isEmpty_iff]
  by_cases hv : r.volumeId = ""
  · exact Or.inl ⟨.volumeId, by simp [hv], by simp [hv]⟩
  · by_cases ht : r.targetPath = ""
    · exact Or.inl ⟨.targetPath, by simp [hv, ht], by simp [hv, ht]⟩
    · exact Or.inr ⟨by simp [hv, ht], by simp [hv, ht]⟩

/-- **A request is refused for the first item that it lacks**, and otherwise is not refused. -/
theorem plan_missing (c : Config) (r : Request) :
    (∃ item, (missingItems r).head? = some item ∧ plan c r = .inr (.error (.missing item))) ∨
      missingItems r = [] ∧
        ((∃ v t work, Work c v t work ∧ plan c r = .inl (v, work)) ∨ plan c r = .inr (.ok ())) := by
  cases r with
  | publish r =>
    rcases checkPublish_cases r with ⟨item, hitems, hcheck⟩ | ⟨hitems, p, hcheck⟩
    · exact Or.inl ⟨item, hitems, by simp only [plan, hcheck]⟩
    · exact Or.inr ⟨hitems, Or.inl ⟨_, _, _, .publish p, by simp only [plan, hcheck]⟩⟩
  | unpublish r =>
    rcases checkUnpublish_cases r with ⟨item, hitems, hcheck⟩ | ⟨hitems, hcheck⟩
    · exact Or.inl ⟨item, hitems, by simp only [plan, hcheck]⟩
    · exact Or.inr ⟨hitems, Or.inl ⟨r.volumeId, r.targetPath, _, .unpublish .., by
        simp only [plan, hcheck]⟩⟩
  | stage r => exact Or.inr ⟨rfl, Or.inr rfl⟩
  | unstage r => exact Or.inr ⟨rfl, Or.inr rfl⟩

/-- **Work under a lock reports what the work does**: no step on the lock fails. -/
theorem reports_underLock {v t : String} {work : Call α}
    (h : ∀ k s, Yields (reading m) (fun r _ l => Reports c (HoldsNul c t l) r l) k
      (onMachine work) s) :
    Yields (reading m) (fun r _ l => Reports c (HoldsNul c t l) r l) k
      (onMachine (underLock v work)) s := by
  unfold underLock
  rw [onMachine_bind]
  refine Yields.bind (yields_step (.enter v)) ?_
  rintro k ticket s l rfl
  rw [onMachine_bind]
  refine Yields.bind (yields_step (.acquire ticket)) ?_
  rintro k _ s l rfl
  rw [onMachine_bind]
  refine (h k s).bind fun k r s l hl => ?_
  rw [onMachine_bind]
  refine Yields.bind (yields_step (.release ticket)) ?_
  rintro k _ s l' rfl
  rw [onMachine_bind]
  refine Yields.map ((yields_step (.discard v)).mono ?_)
  rintro _ s l' rfl
  refine (((hl.append rfl).prepend rfl).prepend rfl).mono fun hnul => hnul.mono fun y hy => ?_
  exact List.mem_append_right _ (List.mem_append_right _ (List.mem_append_left _ hy))

/-- Whether the target of a request, or a root that has been printed for it, holds NUL. -/
def RequestHoldsNul (c : Config) (r : Request) (l : List (Asked Machine.interface)) : Prop :=
  ∃ v t, place? r = some (v, t) ∧ HoldsNul c t l

/-- A call that is not refused reports the failures of its steps. -/
theorem reports_call {r : Request} (h : missingItems r = []) :
    Yields (reading m) (fun result _ l => Reports c (RequestHoldsNul c r l) result l) k
      (onMachine (call c r)) s := by
  rw [call_eq]
  rcases plan_cases c r with ⟨v, t, work, hplace, hwork, hplan⟩ | ⟨x, -, hplan⟩
  · rw [hplan]
    refine (reports_underLock fun _ _ => hwork.reports).mono fun result s' l hl => ?_
    exact hl.mono fun hnul => ⟨v, t, hplace, hnul⟩
  · rcases plan_missing c r with ⟨item, hitems, -⟩ | ⟨-, ⟨v, t, work, -, hplan'⟩ | hplan'⟩
    · rw [h] at hitems
      cases hitems
    · rw [hplan] at hplan'
      cases hplan'
    · rw [hplan']
      exact yields_done (.ok rfl)

/-- The response to a request that is not refused is a result that reports the failures. -/
theorem reports_handle {r : Request} (h : missingItems r = []) :
    Yields (reading m) (fun response _ l =>
      ∃ result, response = Response.ofResult result ∧ Reports c (RequestHoldsNul c r l) result l) k
      (onMachine (handle c r)) s := by
  unfold handle
  rw [onMachine_bind]
  exact Yields.map ((reports_call h).mono fun result _ l hl => ⟨result, rfl, hl⟩)

/-- A call that is refused does nothing. -/
theorem call_of_missing {r : Request} {item : MissingItem}
    (h : (missingItems r).head? = some item) : call c r = .done (.error (.missing item)) := by
  rw [call_eq]
  rcases plan_missing c r with ⟨item', hitem, hplan⟩ | ⟨hitems, -⟩
  · rw [h] at hitem
    cases hitem
    rw [hplan]
  · rw [hitems] at h
    cases h

/-- The response to a request that is refused names the item that it lacks. -/
theorem handle_of_missing {r : Request} {item : MissingItem}
    (h : (missingItems r).head? = some item) :
    handle c r = .done ⟨false, some ⟨.invalidArgument, .invalidArgument, item.message⟩⟩ := by
  unfold handle
  rw [call_of_missing h]
  rfl

/-- **The response of a result that reports failures** is positive if there are none, and else names the
kind of the first one. -/
theorem Reports.response {unmade : Prop} {result : Except VolumeError Unit}
    {l : List (Asked Machine.interface)} (h : Reports c unmade result l) :
    ((Response.ofResult result).error = none → failures c l = []) ∧
      ∀ status, (Response.ofResult result).error = some status → status.code = .internal ∧
        ((failures c l).head? = some status.kind ∨
          failures c l = [] ∧ status.kind = .internal ∧ unmade) := by
  cases h with
  | ok h => exact ⟨fun _ => h, by simp [Response.ofResult]⟩
  | failed hcode h =>
    refine ⟨by simp [Response.ofResult], ?_⟩
    rintro _ ⟨⟩
    exact ⟨hcode, Or.inl h⟩
  | unmade hkind h hnul =>
    refine ⟨by simp [Response.ofResult], ?_⟩
    rintro _ ⟨⟩
    exact ⟨congrArg Kind.code hkind, Or.inr ⟨h, hkind, hnul⟩⟩

/-- **The response to a request, whatever the machine does**: it is refused exactly if it lacks something,
for the first such item, and nothing is done then; otherwise it fails only with the kind of the first step
that has failed. It fails without a failed step only for a name that holds NUL, which no system call can be
made with. -/
theorem handle_classified (c : Config) (m : World Machine.interface σ) (r : Request) (s : σ) :
    let outcome := (onMachine (handle c r)).run m s
    let steps := (onMachine (handle c r)).transcript m s
    (outcome.1.ok = true ↔ outcome.1.error = none) ∧
      ((∃ status, outcome.1.error = some status ∧ status.code = .invalidArgument) ↔
        missingItems r ≠ []) ∧
      (∀ item, (missingItems r).head? = some item → steps = [] ∧
        outcome = (⟨false, some ⟨.invalidArgument, .invalidArgument, item.message⟩⟩, s)) ∧
      (missingItems r = [] → (outcome.1.error = none → failures c steps = []) ∧
        ∀ status, outcome.1.error = some status → status.code = .internal ∧
          ((failures c steps).head? = some status.kind ∨
            failures c steps = [] ∧ status.kind = .internal ∧ RequestHoldsNul c r steps)) := by
  intro outcome steps
  cases hitem : (missingItems r).head? with
  | some item =>
    have hsome : missingItems r ≠ [] := fun h => by simp [h] at hitem
    have hsteps : steps = [] :=
      congrArg (fun p => (onMachine p).transcript m s) (handle_of_missing hitem)
    have houtcome : outcome =
        (⟨false, some ⟨.invalidArgument, .invalidArgument, item.message⟩⟩, s) :=
      congrArg (fun p => (onMachine p).run m s) (handle_of_missing hitem)
    rw [houtcome]
    refine ⟨by simp, by simp [hsome], ?_, fun h => (hsome h).elim⟩
    rintro _ ⟨⟩
    exact ⟨hsteps, rfl⟩
  | none =>
    have hnone : missingItems r = [] := List.head?_eq_none_iff.1 hitem
    obtain ⟨result, houtcome, hresult⟩ : ∃ result,
        outcome.1 = Response.ofResult result ∧ Reports c (RequestHoldsNul c r steps) result steps :=
      Program.yields_transcript (reports_handle hnone (k := 0))
    rw [houtcome, hnone]
    refine ⟨Response.ok_ofResult_iff result, ?_, by simp, fun _ => hresult.response⟩
    refine iff_of_false ?_ (by simp)
    rintro ⟨status, hstatus, hcode⟩
    have hinternal := (hresult.response.2 status hstatus).1
    rw [hcode] at hinternal
    cases hinternal

end VolumeNode.Node
