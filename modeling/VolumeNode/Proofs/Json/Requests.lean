import VolumeNode.Proofs.Json.Maps
import VolumeNode.Proofs.Json.RoundTrip
import VolumeNode.Request.Wire

/-!
# Requests as clients write them

A request is got back from any text that encodes it. The entries of a map may be written in any order.

* `readTagged_write`: the kind and the fields of a request are read back.
* `decode_encode`: a request is got back from its encodings, and what has been decoded once is decoded
  again from its own encoding.
-/

namespace VolumeNode

open Json

namespace Json

/-- The entries of a map as an object, in the order of a list. -/
def entriesJson (es : List (String × String)) : Json :=
  .object (es.map fun e => (e.1, .string e.2))

theorem texts_write (l : List String) : texts (.array (l.map .string)) = .ok l := by
  change (l.map Json.string).mapM text = .ok l
  induction l with
  | nil => rfl
  | cons s l ih =>
    rw [List.map_cons, List.mapM_cons, ih]
    rfl

theorem attributes_write (es : List (String × String)) :
    attributes (entriesJson es) = .ok (Attributes.ofList es) := by
  have hall : ((es.map fun e => (e.1, Json.string e.2)).mapM fun m => do
      .ok (m.1, ← text m.2) : Except Cause (List (String × String))) = .ok es := by
    induction es with
    | nil => rfl
    | cons e es ih =>
      rw [List.map_cons, List.mapM_cons, ih]
      rfl
  unfold attributes entriesJson
  dsimp only
  rw [hall]
  rfl

theorem optional_write {β : Type} {decode : Decoder β} {f : β → Json}
    (hdecode : ∀ a, decode (f a) = .ok a) (hnull : ∀ a, f a ≠ .null) (o : Option β) :
    optional decode (Request.optionJson f o) = .ok o := by
  cases o with
  | none => rfl
  | some a =>
    unfold optional Request.optionJson
    split
    · exact (hnull a ‹_›).elim
    · rw [hdecode]
      rfl

/-- The entries of a map are not nested. -/
theorem plain_entriesJson {d : ℕ} {es : List (String × String)} : Plain (d + 1) (entriesJson es) := by
  refine .object fun m hm => ?_
  obtain ⟨e, -, rfl⟩ := List.mem_map.1 hm
  exact .string e.2

theorem plain_optionJson {β : Type} {d : ℕ} {f : β → Json} {o : Option β}
    (h : ∀ {a}, Plain d (f a)) : Plain d (Request.optionJson f o) := by
  cases o with
  | none => exact .null
  | some a => exact h

theorem plain_accessJson {d : ℕ} {m : MountAccess} : Plain (d + 2) (Request.accessJson m) := by
  have hflags : Plain (d + 1) (.array (m.mountFlags.map .string)) := by
    refine .array fun v hv => ?_
    obtain ⟨flag, -, rfl⟩ := List.mem_map.1 hv
    exact .string flag
  refine .object fun f hf => ?_
  simp only [List.mem_cons, List.not_mem_nil, or_false] at hf
  rcases hf with rfl | rfl
  · exact .string m.fsType
  · exact hflags

theorem plain_capabilityJson {d : ℕ} {m : Capability} :
    Plain (d + 3) (Request.capabilityJson m) := by
  refine .object fun f hf => ?_
  obtain rfl := List.mem_singleton.1 hf
  exact plain_optionJson plain_accessJson

end Json

theorem MountAccess.decode_write (m : MountAccess) :
    MountAccess.record.decode (Request.accessJson m) = .ok m := by
  simp [Request.accessJson, Record.decode, Record.ofMembers, MountAccess.record, Record.addMember,
    field, texts_write, text, bind, Except.bind, pure, Except.pure]

theorem Capability.decode_write (m : Capability) :
    Capability.record.decode (Request.capabilityJson m) = .ok m := by
  have hmount : optional MountAccess.record.decode
      (Request.optionJson Request.accessJson m.mount) = .ok m.mount :=
    optional_write MountAccess.decode_write (fun _ h => by cases h) m.mount
  simp [Request.capabilityJson, Record.decode, Record.ofMembers, Capability.record,
    Record.addMember, field, hmount, bind, Except.bind, pure, Except.pure]

namespace PublishRequest

/-- The fields of a publish request, with the entries of its maps in some order. -/
def fieldsJson (r : PublishRequest) (volume publish : List (String × String)) :
    List (String × Json) :=
  [("volume_id", .string r.volumeId),
    ("target_path", .string r.targetPath),
    ("volume_capability", Request.optionJson Request.capabilityJson r.capability),
    ("volume_context", entriesJson volume),
    ("publish_context", entriesJson publish),
    ("readonly", .bool r.readonly)]

theorem ofMembers_fieldsJson {r : PublishRequest} {volume publish : List (String × String)}
    (hvolume : volume.Perm r.volumeContext.entries)
    (hpublish : publish.Perm r.publishContext.entries) :
    record.ofMembers (r.fieldsJson volume publish) = .ok r := by
  have hcapability : optional Capability.record.decode
      (Request.optionJson Request.capabilityJson r.capability) = .ok r.capability :=
    optional_write Capability.decode_write (fun _ h => by cases h) r.capability
  simp [fieldsJson, Record.ofMembers, record, Record.addMember, field, text, truth, hcapability,
    attributes_write, Attributes.ofList_of_perm hvolume, Attributes.ofList_of_perm hpublish, bind,
    Except.bind, pure, Except.pure]

/-- The fields of a publish request are not nested deep, and none of them is the kind. -/
theorem plain_fieldsJson {r : PublishRequest} {volume publish : List (String × String)} :
    ∀ f ∈ r.fieldsJson volume publish, f.1 ≠ Request.tag ∧ Plain (maxDepth - 1) f.2 := by
  intro f hf
  simp only [fieldsJson, List.mem_cons, List.not_mem_nil, or_false] at hf
  rcases hf with rfl | rfl | rfl | rfl | rfl | rfl <;> refine ⟨by simp [Request.tag], ?_⟩
  · exact .string _
  · exact .string _
  · exact plain_optionJson plain_capabilityJson
  · exact plain_entriesJson
  · exact plain_entriesJson
  · exact .bool _

end PublishRequest

namespace Request

/-- The name of a kind is read back. -/
theorem readMethod_write (m : Method) (rest : List Char) :
    readMethod (write (.string m.name) ++ rest) = .ok (m, rest) := by
  rw [write, writeString_append]
  unfold readMethod
  rw [skip_cons rfl]
  simp [readString_write, Method.ofName?_name, bind, Except.bind]

/-- The member that names the kind is read back, if it has not been there before. -/
theorem tagMember_tag (m : Method) (fields : List (String × Json)) (rest : List Char) :
    tagMember (none, fields) tag (':' :: (write (.string m.name) ++ rest)) =
      .ok ((some m, fields), rest) := by
  simp [tagMember, readColon_cons, readMethod_write, bind, Except.bind]

/-- A field is read back. -/
theorem tagMember_field {m : String × Json} (hname : m.1 ≠ tag) (hplain : Plain (maxDepth - 1) m.2)
    (seen : Tagged (String × Json)) (rest : List Char) :
    tagMember seen m.1 (':' :: (write m.2 ++ rest)) = .ok ((seen.1, m :: seen.2), rest) := by
  simp [tagMember, hname, readField, readMember_write (readValue_write hplain), bind, Except.bind]

theorem foldl_tagged (fields : List (String × Json)) (seen : Tagged (String × Json)) :
    fields.foldl (fun seen f => (seen.1, f :: seen.2)) seen = (seen.1, fields.reverse ++ seen.2) := by
  induction fields generalizing seen with
  | nil => rfl
  | cons f fields ih => rw [List.foldl_cons, ih, List.reverse_cons, List.append_assoc]; rfl

/-- **The kind and the fields of a request are read back**, in their order. -/
theorem readTagged_write (m : Method) {fields : List (String × Json)}
    (h : ∀ f ∈ fields, f.1 ≠ tag ∧ Plain (maxDepth - 1) f.2) :
    readTagged (write (.object ((tag, .string m.name) :: fields))) = .ok ((m, .members fields), []) := by
  obtain ⟨cs, hcs, hread⟩ : ∃ cs,
      write (.object ((tag, .string m.name) :: fields)) ++ [] = '\x7b' :: cs ∧
        readMembers tagMember (none, []) cs =
          .ok (fields.foldl (fun seen f => (seen.1, f :: seen.2)) (some m, []), []) :=
    readMembers_write (.cons (tagMember_tag m []) (.of_forall fun seen f hf =>
      tagMember_field (h f hf).1 (h f hf).2 seen)) []
  rw [List.append_nil] at hcs
  rw [hcs]
  unfold readTagged
  rw [skip_cons rfl]
  change (readMembers tagMember (none, []) cs >>= fun x => needTag x.1 .members x.2) = _
  rw [hread, foldl_tagged]
  simp [needTag, bind, Except.bind]

/-- **A request is read back** if its fields are read as they have been written. -/
theorem decode_write {m : Method} {fields : List (String × Json)} {r : Request}
    (h : ∀ f ∈ fields, f.1 ≠ tag ∧ Plain (maxDepth - 1) f.2)
    (hr : decodeContent (.members fields) m = .ok r) :
    decode (write (.object ((tag, .string m.name) :: fields))) = .ok r := by
  unfold decode
  rw [readTagged_write m h]
  simp [hr, readEnd, skip, bind, Except.bind]

/-- The texts that encode a request. The entries of a map are written in any order. -/
inductive IsEncoding : Request → String → Prop where
  | publish (r : PublishRequest) {volume publish : List (String × String)}
      (hvolume : volume.Perm r.volumeContext.entries)
      (hpublish : publish.Perm r.publishContext.entries) :
      IsEncoding (.publish r)
        (render (.object ((tag, .string "publish") :: r.fieldsJson volume publish)))
  | unpublish (r : UnpublishRequest) : IsEncoding (.unpublish r) (encode (.unpublish r))
  | stage (r : StageRequest) : IsEncoding (.stage r) (encode (.stage r))
  | unstage (r : StageRequest) : IsEncoding (.unstage r) (encode (.unstage r))

theorem isEncoding_encode (r : Request) : IsEncoding r r.encode := by
  cases r with
  | publish r => exact .publish r (List.Perm.refl _) (List.Perm.refl _)
  | unpublish r => exact .unpublish r
  | stage r => exact .stage r
  | unstage r => exact .unstage r

/-- **A request is got back from its encodings.** -/
theorem decode_of_isEncoding {r : Request} {line : String} (h : IsEncoding r line) :
    decode line.toList = .ok r := by
  -- the requests of the other kinds have two texts for their fields
  have htexts : ∀ {name name' a b : String}, name ≠ tag → name' ≠ tag →
      ∀ f ∈ [(name, Json.string a), (name', .string b)],
        f.1 ≠ tag ∧ Plain (maxDepth - 1) f.2 := by
    intro name name' a b hname hname' f hf
    simp only [List.mem_cons, List.not_mem_nil, or_false] at hf
    rcases hf with rfl | rfl
    · exact ⟨hname, .string a⟩
    · exact ⟨hname', .string b⟩
  have hrender : ∀ v : Json, (render v).toList = write v := fun v => String.toList_ofList
  cases h with
  | publish r hvolume hpublish =>
    rw [hrender]
    refine decode_write (m := .publish) r.plain_fieldsJson ?_
    exact congrArg (Except.map Request.publish)
      (PublishRequest.ofMembers_fieldsJson hvolume hpublish)
  | unpublish r =>
    refine (congrArg decode (hrender _)).trans ?_
    exact decode_write (m := .unpublish) (htexts (by decide) (by decide)) rfl
  | stage r =>
    refine (congrArg decode (hrender _)).trans ?_
    exact decode_write (m := .stage) (htexts (by decide) (by decide)) rfl
  | unstage r =>
    refine (congrArg decode (hrender _)).trans ?_
    exact decode_write (m := .unstage) (htexts (by decide) (by decide)) rfl

/-- **A request is got back from every text that encodes it**, and what has been decoded from any text is
decoded again from its own encoding. -/
theorem decode_encode :
    (∀ r : Request, IsEncoding r r.encode) ∧
      (∀ (r : Request) (line : String), IsEncoding r line → decode line.toList = .ok r) ∧
      ∀ text, ((decode text).bind fun r => decode r.encode.toList) = decode text := by
  refine ⟨isEncoding_encode, fun r line h => decode_of_isEncoding h, fun text => ?_⟩
  cases decode text with
  | error fault => rfl
  | ok r =>
    rw [Except.bind]
    exact decode_of_isEncoding (isEncoding_encode r)

end Request

end VolumeNode
