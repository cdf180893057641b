import VolumeNode.Proofs.Json.Members
import VolumeNode.Proofs.Json.Objects

/-!
# Requests by what their members mean

A request is decoded from any object that has its members, in whatever order they stand, wherever the
member stands that names its kind, and whatever else stands in the object or inside its values.

* `foldMembers_tagMember`: members that are read as values are also read as those of a request.
* `decode_of_describedBy`: an object whose members describe a request is decoded to that request.
-/

namespace VolumeNode

open Json

namespace Json

variable {β : Type} {members : List (String × Json)} {name : String}

/-- The members other than the one that names the kind. -/
def fieldsOf (members : List (String × Json)) : List (String × Json) :=
  members.filter fun m => m.1 ≠ Request.tag

theorem named_fieldsOf (h : name ≠ Request.tag) (members : List (String × Json)) :
    named name (fieldsOf members) = named name members := by
  unfold named fieldsOf
  rw [List.filter_filter]
  refine List.filter_congr fun m _ => ?_
  by_cases hm : m.1 = name <;> simp [hm, h]

theorem Gives.fieldsOf {states : β → Json → Prop} {default b : β}
    (h : Gives members name states default b) (hname : name ≠ Request.tag) :
    Gives (fieldsOf members) name states default b := by
  unfold Gives
  rw [named_fieldsOf hname]
  exact h

end Json

namespace Request

variable {cs text rest : List Char} {n : ℕ} {first : Bool} {m : Method} {k k' : Option Method}
  {members seen all : List (String × Json)}

/-- **The members that describe a request**: one of them names its kind, and they give its fields. -/
def DescribedBy (r : Request) (members : List (String × Json)) : Prop :=
  named tag members = [(tag, .string r.method.name)] ∧
    match r with
    | .publish r => r.DescribedBy members
    | .unpublish r => r.DescribedBy members
    | .stage r | .unstage r => r.DescribedBy members

/-- The name of a kind is read where a value would be. -/
theorem readMethod_of_readField (h : readField cs = .ok (.string m.name, rest)) :
    readMethod cs = .ok (m, rest) := by
  obtain ⟨front, hfront, hname⟩ := readValue_eq_string h
  unfold readMethod
  rw [hfront]
  simp [hname, Method.ofName?_name, bind, Except.bind]

/-- The kind that is known before some members and the one that is known behind them. -/
inductive Tags : Option Method → List (String × Json) → Option Method → Prop where
  | nil {k : Option Method} : Tags k [] k
  | tag {m : Method} {members : List (String × Json)} {k : Option Method}
      (h : Tags (some m) members k) : Tags none ((Request.tag, .string m.name) :: members) k
  | field {k k' : Option Method} {name : String} {v : Json} {members : List (String × Json)}
      (hname : name ≠ Request.tag) (h : Tags k members k') : Tags k ((name, v) :: members) k'

theorem tags_of_named_eq_nil (h : named tag members = []) : Tags k members k := by
  induction members with
  | nil => exact .nil
  | cons f members ih =>
    rw [named_cons] at h
    split at h
    · cases h
    · exact .field ‹_› (ih h)

/-- The kind is known behind members of which one names it. -/
theorem tags_of_named (h : named tag members = [(tag, .string m.name)]) :
    Tags none members (some m) := by
  induction members with
  | nil => cases h
  | cons f members ih =>
    rw [named_cons] at h
    split at h
    · obtain ⟨hf, hmembers⟩ := List.cons.inj h
      rw [hf]
      exact .tag (tags_of_named_eq_nil hmembers)
    · exact .field ‹_› (ih h)

/-- **Members that are read as values are also read as those of a request**, step by step: the one that
names the kind is taken out, wherever it stands. -/
theorem foldMembers_tagMember
    (h : foldMembers (readMember readField) n first seen cs = .ok (all, rest)) :
    ∃ members, all = members.reverse ++ seen ∧ ∀ {k k'} fields, Tags k members k' →
      foldMembers tagMember n first (k, fields) cs =
        .ok ((k', (fieldsOf members).reverse ++ fields), rest) := by
  induction n generalizing first seen cs with
  | zero => cases h
  | succ n ih =>
    obtain ⟨⟨name?, front⟩, hnext, h⟩ := exists_of_bind_eq_ok h
    cases name? with
    | none =>
      cases h
      refine ⟨[], rfl, fun fields htags => ?_⟩
      cases htags
      simp [foldMembers, hnext, fieldsOf, bind, Except.bind]
    | some name =>
      obtain ⟨⟨seen', behind⟩, hmember, h⟩ := exists_of_bind_eq_ok h
      have hread := hmember
      obtain ⟨⟨_, value⟩, hcolon, hmember⟩ := exists_of_bind_eq_ok hmember
      obtain ⟨⟨v, _⟩, hv, hmember⟩ := exists_of_bind_eq_ok hmember
      cases hmember
      obtain ⟨members, hall, hfold⟩ := ih h
      refine ⟨(name, v) :: members, by simpa using hall, fun {k k'} fields htags => ?_⟩
      cases htags with
      | @tag m _ _ htags =>
        have hmethod : tagMember (none, fields) tag front = .ok ((some m, fields), behind) := by
          simp [tagMember, hcolon, readMethod_of_readField hv, bind, Except.bind]
        have hothers := hfold fields htags
        simp [foldMembers, hnext, hmethod, hothers, fieldsOf, bind, Except.bind]
      | field hname htags =>
        have hfield : tagMember (k, fields) name front = .ok ((k, (name, v) :: fields), behind) := by
          simp [tagMember, hname, readMember, hcolon, hv, bind, Except.bind]
        have hothers := hfold ((name, v) :: fields) htags
        simp [foldMembers, hnext, hfield, hothers, fieldsOf, hname, bind, Except.bind]

/-- The kind and the fields of an object that has one member which names the kind. -/
theorem readTagged_of_parse (h : parse text = .ok (.object members))
    (hm : named tag members = [(tag, .string m.name)]) :
    ∃ rest, readTagged text = .ok ((m, .members (fieldsOf members)), rest) ∧
      readEnd rest = .ok () := by
  obtain ⟨rest, hread, hblank⟩ := (parse_eq_ok text _).1 h
  refine ⟨rest, ?_, readEnd_eq_ok.2 hblank⟩
  obtain ⟨front, hfront, hmembers⟩ := readValue_eq_object (d := maxDepth - 1) hread
  obtain ⟨members', hall, hfold⟩ := foldMembers_tagMember hmembers
  rw [List.append_nil] at hall
  obtain rfl := List.reverse_inj.1 hall
  have htagged : readMembers tagMember (none, []) front = _ := hfold [] (tags_of_named hm)
  unfold readTagged
  rw [hfront]
  simp [htagged, needTag, bind, Except.bind]

/-- Members that describe a request give its fields, with or without the one that names the kind. -/
theorem decodeContent_fieldsOf (r : Request) (h : r.DescribedBy members) :
    decodeContent (.members (fieldsOf members)) r.method = .ok r := by
  cases r with
  | publish r =>
    have hfields : r.DescribedBy (fieldsOf members) :=
      ⟨h.2.volumeId.fieldsOf (by decide), h.2.targetPath.fieldsOf (by decide),
        h.2.capability.fieldsOf (by decide), h.2.volumeContext.fieldsOf (by decide),
        h.2.publishContext.fieldsOf (by decide), h.2.readonly.fieldsOf (by decide)⟩
    exact congrArg (Except.map Request.publish) (r.ofMembers_of_describedBy _ hfields)
  | unpublish r =>
    have hfields : r.DescribedBy (fieldsOf members) :=
      ⟨h.2.volumeId.fieldsOf (by decide), h.2.targetPath.fieldsOf (by decide)⟩
    exact congrArg (Except.map Request.unpublish) (r.ofMembers_of_describedBy _ hfields)
  | stage r =>
    have hfields : r.DescribedBy (fieldsOf members) :=
      ⟨h.2.volumeId.fieldsOf (by decide), h.2.stagingTargetPath.fieldsOf (by decide)⟩
    exact congrArg (Except.map Request.stage) (r.ofMembers_of_describedBy _ hfields)
  | unstage r =>
    have hfields : r.DescribedBy (fieldsOf members) :=
      ⟨h.2.volumeId.fieldsOf (by decide), h.2.stagingTargetPath.fieldsOf (by decide)⟩
    exact congrArg (Except.map Request.unstage) (r.ofMembers_of_describedBy _ hfields)

/-- **A request is decoded by what the members of its object mean.** Let members describe a request: one
names the kind and each field stands there once or has its default, in any order, at any place, among any
others. A text put together from the names and values of these members, each accepted on its own, is
accepted as their object, and whatever text is accepted as their object is decoded to the request. -/
theorem decode_of_describedBy {r : Request} {members : List (String × Json)}
    (hr : r.DescribedBy members) :
    (∀ text, IsObject (maxDepth - 1) text members → parse text = .ok (.object members)) ∧
      ∀ text, parse text = .ok (.object members) → decode text = .ok r := by
  refine ⟨fun text => parse_of_isObject, fun text htext => ?_⟩
  obtain ⟨rest, htagged, hend⟩ := readTagged_of_parse htext hr.1
  have hcontent := r.decodeContent_fieldsOf hr
  simp [decode, htagged, hcontent, hend, bind, Except.bind]

/-- The members of a publish request, the kind last, with others in the object, in the capability and in
the access, and without those that have their default. -/
def scattered : List (String × Json) :=
  [("note", .number (.negative 7)),
    ("volume_capability", .object [
      ("method", .string "stage"), ("mount", .object [("y", .array []), ("fs_type", .string "ext4")])]),
    ("readonly", .bool true),
    ("volume_context", .object [("image", .string "i")]),
    ("note", .null),
    ("volume_id", .string "v"),
    ("method", .string "publish")]

/-- A text with these members is decoded to the request. -/
theorem decode_of_describedBy_scattered : ∃ (r : PublishRequest) (text : List Char),
    r.volumeId = "v" ∧ r.targetPath = "" ∧ r.capability = some ⟨some ⟨"ext4", []⟩⟩ ∧ r.readonly = true ∧
      r.volumeContext.entries = [("image", "i")] ∧ DescribedBy (.publish r) scattered ∧
        parse text = .ok (.object scattered) ∧ decode text = .ok (.publish r) := by
  let r : PublishRequest :=
    { volumeId := "v", capability := some ⟨some ⟨"ext4", []⟩⟩
      volumeContext := Attributes.ofList [("image", "i")], readonly := true }
  have hmount : MountAccess.DescribedBy ⟨"ext4", []⟩
      [("y", .array []), ("fs_type", .string "ext4")] :=
    ⟨Or.inl ⟨_, rfl, rfl⟩, Or.inr ⟨rfl, rfl⟩⟩
  have hcapability : Capability.DescribedBy ⟨some ⟨"ext4", []⟩⟩ [("method", .string "stage"),
      ("mount", .object [("y", .array []), ("fs_type", .string "ext4")])] :=
    ⟨Or.inl ⟨_, rfl, _, rfl, hmount⟩⟩
  have hr : DescribedBy (.publish r) scattered :=
    ⟨rfl, Or.inl ⟨_, rfl, rfl⟩, Or.inr ⟨rfl, rfl⟩, Or.inl ⟨_, rfl, _, rfl, hcapability⟩,
      Or.inl ⟨_, rfl, _, List.Perm.refl _, rfl⟩, Or.inr ⟨rfl, rfl⟩, Or.inl ⟨_, rfl, rfl⟩⟩
  have hwrite : ∀ {d v}, Plain d v → Accepts d (write v) v := accepts_write
  have hnumber : Accepts (maxDepth - 1) [' ', '-', '7', '\n'] (.number (.negative 7)) :=
    ⟨['\n'], rfl, rfl⟩
  have hobject : ∃ text, IsObject (maxDepth - 1) text scattered := by
    refine ⟨_, @IsObject.members _ [] _ ['\r'] _ rfl
      (.cons (hwrite (.string _)) hnumber (.cons (hwrite (.string _)) (hwrite ?_)
        (.cons (hwrite (.string _)) (hwrite (.bool _)) (.cons (hwrite (.string _)) (hwrite ?_)
          (.cons (hwrite (.string _)) (hwrite .null) (.cons (hwrite (.string _)) (hwrite (.string _))
            (.one (hwrite (.string _)) (hwrite (.string _))))))))) rfl⟩
    · refine .object (d := maxDepth - 2) fun m hm => ?_
      simp only [List.mem_cons, List.not_mem_nil, or_false] at hm
      rcases hm with rfl | rfl
      · exact .string _
      · refine .object (d := maxDepth - 3) fun m hm => ?_
        simp only [List.mem_cons, List.not_mem_nil, or_false] at hm
        rcases hm with rfl | rfl
        · exact .array (d := maxDepth - 4) fun _ hv => absurd hv List.not_mem_nil
        · exact .string _
    · exact (plain_entriesJson : Plain (maxDepth - 2 + 1) (entriesJson [("image", "i")]))
  obtain ⟨text, htext⟩ := hobject
  obtain ⟨hparse, hdecode⟩ := decode_of_describedBy hr
  exact ⟨r, text, rfl, rfl, rfl, rfl, rfl, hr, hparse text htext, hdecode text (hparse text htext)⟩

end Request

end VolumeNode
