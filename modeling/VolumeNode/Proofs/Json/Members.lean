import VolumeNode.Proofs.Json.Requests

/-!
# Records from members in any order

The members of an object give a record its fields: each of them stands there once, or is left out and
the field has its default. In which order they stand does not matter, nor does what else stands there.

* `Record.foldlM_addMember`: one member after another, the record has the fields that have been there.
* `Record.ofMembers_eq`: when all members have been there, it has all its fields.
* `PublishRequest.ofMembers_of_describedBy` and its siblings: each kind of record is got from its members.
-/

namespace VolumeNode

namespace Json

/-- The members of one name. -/
def named (name : String) (members : List (String × Json)) : List (String × Json) :=
  members.filter fun m => m.1 = name

variable {α β : Type} {name : String} {members : List (String × Json)} {v : Json} {a : α} {b : β}

theorem named_cons (name : String) (m : String × Json) (members : List (String × Json)) :
    named name (m :: members) = if m.1 = name then m :: named name members else named name members := by
  simp [named, List.filter_cons]

/-- **Whether members give a field its value**: there is one of its name, which states the value, or there
is none and the value is the default. -/
def Gives (members : List (String × Json)) (name : String) (states : β → Json → Prop) (default b : β) :
    Prop :=
  (∃ v, named name members = [(name, v)] ∧ states b v) ∨ (named name members = [] ∧ b = default)

variable {states : β → Json → Prop} {read : Decoder β} {default : β} {put : α → β → α}

theorem Gives.length_le (h : Gives members name states default b) : (named name members).length ≤ 1 := by
  rcases h with ⟨v, hv, -⟩ | ⟨hnil, -⟩
  · rw [hv]
    exact Nat.le_refl 1
  · rw [hnil]
    exact Nat.zero_le 1

/-- The value of a member that is there is what the field is set to. -/
theorem Gives.set (h : Gives members name states default b) (hread : ∀ b v, states b v → read v = .ok b)
    (hv : (name, v) ∈ members) (a : α) : (field name read put).set a v = .ok (put a b) := by
  have hmem : (name, v) ∈ named name members := List.mem_filter.2 ⟨hv, decide_eq_true rfl⟩
  rcases h with ⟨w, hw, hstates⟩ | ⟨hnil, -⟩
  · rw [hw, List.mem_singleton] at hmem
    cases hmem
    unfold field
    dsimp only
    rw [hread b v hstates]
    rfl
  · rw [hnil] at hmem
    cases hmem

/-- A value once its field has been seen, and the default before. -/
def pick (name : String) (seen : List String) (default b : β) : β :=
  if name ∈ seen then b else default

@[simp] theorem pick_cons_self {seen : List String} : pick name (name :: seen) default b = b :=
  if_pos List.mem_cons_self

theorem pick_cons_of_ne {seen : List String} {other : String} (h : name ≠ other) :
    pick name (other :: seen) default b = pick name seen default b := by
  simp [pick, h]

/-- When all members have been seen, each field has its value. -/
theorem Gives.pick_eq {seen : List String} (h : Gives members name states default b)
    (hseen : name ∈ seen ∨ named name members = []) : pick name seen default b = b := by
  unfold pick
  split
  · rfl
  · rename_i hname
    rcases h with ⟨v, hv, -⟩ | ⟨-, hdefault⟩
    · rw [hv] at hseen
      rcases hseen with hseen | hseen
      · exact (hname hseen).elim
      · cases hseen
    · exact hdefault.symm

namespace Record

variable {r : Record α} {seen : List String}

/-- The members of a record one after another. `blend` is the record with the fields that have been
seen: from it a member makes the one with its own field, whatever has been seen before. -/
theorem foldlM_addMember (blend : List String → α)
    (hset : ∀ f ∈ r.fields, ∀ v, (f.name, v) ∈ members → ∀ seen,
      f.set (blend seen) v = .ok (blend (f.name :: seen)))
    (honce : ∀ f ∈ r.fields, (named f.name members).length ≤ 1)
    (hnew : ∀ f ∈ r.fields, f.name ∈ seen → named f.name members = []) :
    ∃ seen', members.foldlM r.addMember (blend seen, seen) = .ok (blend seen', seen') ∧ seen ⊆ seen' ∧
      ∀ f ∈ r.fields, f.name ∈ seen' ∨ named f.name members = [] := by
  induction members generalizing seen with
  | nil => exact ⟨seen, rfl, fun _ h => h, fun _ _ => Or.inr rfl⟩
  | cons m members ih =>
    have hset' : ∀ f ∈ r.fields, ∀ v, (f.name, v) ∈ members → ∀ seen,
        f.set (blend seen) v = .ok (blend (f.name :: seen)) :=
      fun f hf v hv => hset f hf v (List.mem_cons_of_mem _ hv)
    have hcons : ∀ f : Field α, m.1 ≠ f.name → named f.name (m :: members) = named f.name members :=
      fun f hf => (named_cons f.name m members).trans (if_neg hf)
    rw [List.foldlM_cons]
    cases hfind : r.fields.find? (·.name == m.1) with
    | none =>
      -- the member is no field of the record
      have hother : ∀ f ∈ r.fields, f.name ≠ m.1 := by
        intro f hf heq
        exact List.find?_eq_none.1 hfind f hf (by simp [heq])
      rw [addMember_unknown hother]
      have hsame : ∀ f ∈ r.fields, named f.name (m :: members) = named f.name members :=
        fun f hf => hcons f (Ne.symm (hother f hf))
      obtain ⟨seen', hfold, hsub, hall⟩ := ih hset'
        (fun f hf => hsame f hf ▸ honce f hf) (fun f hf hs => hsame f hf ▸ hnew f hf hs)
      exact ⟨seen', hfold, hsub, fun f hf => (hall f hf).imp_right fun h => (hsame f hf).trans h⟩
    | some f =>
      have hf : f ∈ r.fields := List.mem_of_find?_eq_some hfind
      have hname : f.name = m.1 := by simpa using List.find?_some hfind
      have hown : named f.name (m :: members) = m :: named f.name members :=
        (named_cons f.name m members).trans (if_pos hname.symm)
      have hunseen : f.name ∉ seen := by
        intro hs
        rw [hnew f hf hs] at hown
        cases hown
      have hadd : r.addMember (blend seen, seen) m =
          .ok (blend (f.name :: seen), f.name :: seen) := by
        have hm : (f.name, m.2) ∈ m :: members := by
          rw [hname]
          exact List.mem_cons_self
        simp [addMember, hfind, hunseen, hset f hf m.2 hm seen, bind, Except.bind]
      rw [hadd]
      have hlast : named f.name members = [] := by
        have hle := honce f hf
        rw [hown, List.length_cons] at hle
        exact List.length_eq_zero_iff.1 (by omega)
      have honce' : ∀ g ∈ r.fields, (named g.name members).length ≤ 1 := by
        intro g hg
        have hle := honce g hg
        rw [named_cons] at hle
        split at hle
        · rw [List.length_cons] at hle
          omega
        · exact hle
      have hnew' : ∀ g ∈ r.fields, g.name ∈ f.name :: seen → named g.name members = [] := by
        intro g hg hs
        by_cases hgf : g.name = f.name
        · rw [hgf]
          exact hlast
        · have hs' : g.name ∈ seen := (List.mem_cons.1 hs).resolve_left hgf
          rw [← hcons g fun h => hgf (h ▸ hname.symm)]
          exact hnew g hg hs'
      obtain ⟨seen', hfold, hsub, hall⟩ := ih hset' honce' hnew'
      refine ⟨seen', hfold, fun x hx => hsub (List.mem_cons_of_mem _ hx), fun g hg => ?_⟩
      by_cases hgf : g.name = f.name
      · exact Or.inl (hgf ▸ hsub List.mem_cons_self)
      · have hne : m.1 ≠ g.name := fun h => hgf (h ▸ hname.symm)
        exact (hall g hg).imp_right fun h => (hcons g hne).trans h

/-- **A record is got from its members**, in whatever order they stand and whatever stands among them. -/
theorem ofMembers_eq (blend : List String → α) (hstart : blend [] = r.default)
    (hset : ∀ f ∈ r.fields, ∀ v, (f.name, v) ∈ members → ∀ seen,
      f.set (blend seen) v = .ok (blend (f.name :: seen)))
    (honce : ∀ f ∈ r.fields, (named f.name members).length ≤ 1)
    (hend : ∀ seen, (∀ f ∈ r.fields, f.name ∈ seen ∨ named f.name members = []) → blend seen = a) :
    r.ofMembers members = .ok a := by
  obtain ⟨seen, hfold, -, hall⟩ := foldlM_addMember blend hset honce
    fun f _ (hs : f.name ∈ []) => absurd hs List.not_mem_nil
  rw [hstart] at hfold
  unfold ofMembers
  rw [hfold]
  exact congrArg Except.ok (hend seen hall)

/-- A record of two fields is got from the members that give them. -/
theorem ofMembers_pair {γ : Type} {states' : γ → Json → Prop} {read' : Decoder γ} {default' c : γ}
    {put' : α → γ → α} {other : String} (mk : β → γ → α)
    (hfields : r.fields = [field name read put, field other read' put'])
    (hstart : r.default = mk default default') (hname : name ≠ other)
    (hput : ∀ b c b', put (mk b c) b' = mk b' c) (hput' : ∀ b c c', put' (mk b c) c' = mk b c')
    (hread : ∀ b v, states b v → read v = .ok b) (hread' : ∀ c v, states' c v → read' v = .ok c)
    (h : Gives members name states default b) (h' : Gives members other states' default' c) :
    r.ofMembers members = .ok (mk b c) := by
  refine ofMembers_eq (fun seen => mk (pick name seen default b) (pick other seen default' c))
    hstart.symm ?_ ?_ ?_
  · intro f hf v hv seen
    rw [hfields] at hf
    simp only [List.mem_cons, List.not_mem_nil, or_false] at hf
    rcases hf with rfl | rfl
    · rw [h.set hread hv]
      simp [field, hput, pick_cons_of_ne hname.symm]
    · rw [h'.set hread' hv]
      simp [field, hput', pick_cons_of_ne hname]
  · rw [hfields]
    simpa [field] using ⟨h.length_le, h'.length_le⟩
  · intro seen hseen
    rw [hfields] at hseen
    simp only [field, List.forall_mem_cons] at hseen
    rw [h.pick_eq hseen.1, h'.pick_eq hseen.2.1]

end Record

/-- A text as a value. -/
def SaysText (s : String) (v : Json) : Prop :=
  v = .string s

/-- A truth value as a value. -/
def SaysTruth (b : Bool) (v : Json) : Prop :=
  v = .bool b

/-- A list of texts as a value. -/
def SaysTexts (l : List String) (v : Json) : Prop :=
  v = .array (l.map .string)

/-- A map as a value, with its entries in any order. -/
def SaysMap (m : Attributes) (v : Json) : Prop :=
  ∃ es : List (String × String), es.Perm m.entries ∧ v = entriesJson es

/-- A value that may be absent. -/
def SaysOption (states : β → Json → Prop) (o : Option β) (v : Json) : Prop :=
  match o with
  | none => v = .null
  | some b => states b v

/-- A record as a value. -/
def SaysRecord (describedBy : α → List (String × Json) → Prop) (a : α) (v : Json) : Prop :=
  ∃ members, v = .object members ∧ describedBy a members

theorem SaysText.decode (s : String) (v : Json) (h : SaysText s v) : text v = .ok s := by
  rw [h]
  rfl

theorem SaysTruth.decode (b : Bool) (v : Json) (h : SaysTruth b v) : truth v = .ok b := by
  rw [h]
  rfl

theorem SaysTexts.decode (l : List String) (v : Json) (h : SaysTexts l v) : texts v = .ok l := by
  rw [h]
  exact texts_write l

theorem SaysMap.decode (m : Attributes) (v : Json) (h : SaysMap m v) : attributes v = .ok m := by
  obtain ⟨es, hperm, rfl⟩ := h
  rw [attributes_write, Attributes.ofList_of_perm hperm]

theorem SaysRecord.decode {r : Record α} {describedBy : α → List (String × Json) → Prop}
    (h : ∀ a members, describedBy a members → r.ofMembers members = .ok a) (a : α) (v : Json)
    (hv : SaysRecord describedBy a v) : r.decode v = .ok a := by
  obtain ⟨members, rfl, hmembers⟩ := hv
  exact h a members hmembers

/-- A record that may be absent is none exactly if null says so. -/
theorem SaysOption.decode {r : Record α} {describedBy : α → List (String × Json) → Prop}
    (h : ∀ a members, describedBy a members → r.ofMembers members = .ok a) (o : Option α) (v : Json)
    (hv : SaysOption (SaysRecord describedBy) o v) : optional r.decode v = .ok o := by
  cases o with
  | none =>
    have hnull : v = .null := hv
    rw [hnull]
    rfl
  | some a =>
    have hdecode := SaysRecord.decode h a v hv
    obtain ⟨members, rfl, -⟩ := hv
    unfold optional
    dsimp only
    rw [hdecode]
    rfl

end Json

open Json

/-- The members that describe access to a file system. -/
structure MountAccess.DescribedBy (a : MountAccess) (members : List (String × Json)) : Prop where
  fsType : Gives members "fs_type" SaysText "" a.fsType
  mountFlags : Gives members "mount_flags" SaysTexts [] a.mountFlags

theorem MountAccess.ofMembers_of_describedBy (a : MountAccess) (members : List (String × Json))
    (h : a.DescribedBy members) : record.ofMembers members = .ok a :=
  Record.ofMembers_pair MountAccess.mk rfl rfl (by decide) (fun _ _ _ => rfl) (fun _ _ _ => rfl)
    SaysText.decode SaysTexts.decode h.fsType h.mountFlags

/-- The members that describe a capability. -/
structure Capability.DescribedBy (c : Capability) (members : List (String × Json)) : Prop where
  mount : Gives members "mount" (SaysOption (SaysRecord MountAccess.DescribedBy)) none c.mount

theorem Capability.ofMembers_of_describedBy (c : Capability) (members : List (String × Json))
    (h : c.DescribedBy members) : record.ofMembers members = .ok c := by
  refine Record.ofMembers_eq (r := record) (fun seen => { mount := pick "mount" seen none c.mount })
    rfl ?_ ?_ ?_
  · intro f hf v hv seen
    obtain rfl := List.mem_singleton.1 hf
    rw [h.mount.set (SaysOption.decode MountAccess.ofMembers_of_describedBy) hv]
    simp [field]
  · simpa [record, field] using h.mount.length_le
  · intro seen hseen
    simp only [record, field, List.forall_mem_cons] at hseen
    simp [h.mount.pick_eq hseen.1]

/-- The members that describe a publish request. -/
structure PublishRequest.DescribedBy (r : PublishRequest) (members : List (String × Json)) : Prop where
  volumeId : Gives members "volume_id" SaysText "" r.volumeId
  targetPath : Gives members "target_path" SaysText "" r.targetPath
  capability : Gives members "volume_capability" (SaysOption (SaysRecord Capability.DescribedBy)) none
    r.capability
  volumeContext : Gives members "volume_context" SaysMap Attributes.empty r.volumeContext
  publishContext : Gives members "publish_context" SaysMap Attributes.empty r.publishContext
  readonly : Gives members "readonly" SaysTruth false r.readonly

theorem PublishRequest.ofMembers_of_describedBy (r : PublishRequest) (members : List (String × Json))
    (h : r.DescribedBy members) : record.ofMembers members = .ok r := by
  refine Record.ofMembers_eq (r := record) (fun seen =>
    { volumeId := pick "volume_id" seen "" r.volumeId
      targetPath := pick "target_path" seen "" r.targetPath
      capability := pick "volume_capability" seen none r.capability
      volumeContext := pick "volume_context" seen Attributes.empty r.volumeContext
      publishContext := pick "publish_context" seen Attributes.empty r.publishContext
      readonly := pick "readonly" seen false r.readonly }) rfl ?_ ?_ ?_
  · intro f hf v hv seen
    simp only [record, List.mem_cons, List.not_mem_nil, or_false] at hf
    rcases hf with rfl | rfl | rfl | rfl | rfl | rfl
    · rw [h.volumeId.set SaysText.decode hv]
      simp [field, pick_cons_of_ne]
    · rw [h.targetPath.set SaysText.decode hv]
      simp [field, pick_cons_of_ne]
    · rw [h.capability.set (SaysOption.decode Capability.ofMembers_of_describedBy) hv]
      simp [field, pick_cons_of_ne]
    · rw [h.volumeContext.set SaysMap.decode hv]
      simp [field, pick_cons_of_ne]
    · rw [h.publishContext.set SaysMap.decode hv]
      simp [field, pick_cons_of_ne]
    · rw [h.readonly.set SaysTruth.decode hv]
      simp [field, pick_cons_of_ne]
  · simpa [record, field] using ⟨h.volumeId.length_le, h.targetPath.length_le, h.capability.length_le,
      h.volumeContext.length_le, h.publishContext.length_le, h.readonly.length_le⟩
  · intro seen hseen
    simp only [record, field, List.forall_mem_cons] at hseen
    obtain ⟨hvolume, htarget, hcapability, hcontext, hpublish, hreadonly, -⟩ := hseen
    simp [h.volumeId.pick_eq hvolume, h.targetPath.pick_eq htarget, h.capability.pick_eq hcapability,
      h.volumeContext.pick_eq hcontext, h.publishContext.pick_eq hpublish,
      h.readonly.pick_eq hreadonly]

/-- The members that describe an unpublish request. -/
structure UnpublishRequest.DescribedBy (r : UnpublishRequest) (members : List (String × Json)) :
    Prop where
  volumeId : Gives members "volume_id" SaysText "" r.volumeId
  targetPath : Gives members "target_path" SaysText "" r.targetPath

theorem UnpublishRequest.ofMembers_of_describedBy (r : UnpublishRequest)
    (members : List (String × Json)) (h : r.DescribedBy members) :
    record.ofMembers members = .ok r :=
  Record.ofMembers_pair UnpublishRequest.mk rfl rfl (by decide) (fun _ _ _ => rfl) (fun _ _ _ => rfl)
    SaysText.decode SaysText.decode h.volumeId h.targetPath

/-- The members that describe a stage or unstage request. -/
structure StageRequest.DescribedBy (r : StageRequest) (members : List (String × Json)) : Prop where
  volumeId : Gives members "volume_id" SaysText "" r.volumeId
  stagingTargetPath : Gives members "staging_target_path" SaysText "" r.stagingTargetPath

theorem StageRequest.ofMembers_of_describedBy (r : StageRequest) (members : List (String × Json))
    (h : r.DescribedBy members) : record.ofMembers members = .ok r :=
  Record.ofMembers_pair StageRequest.mk rfl rfl (by decide) (fun _ _ _ => rfl) (fun _ _ _ => rfl)
    SaysText.decode SaysText.decode h.volumeId h.stagingTargetPath

end VolumeNode
