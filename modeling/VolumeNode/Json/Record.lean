import VolumeNode.Json.Value
import VolumeNode.Json.Fault
import VolumeNode.Attributes

/-!
# Records as JSON values

A record is read from an object, by the names of its fields, or from a list, by their order. A field
that is absent keeps its default, and a member that is no field is passed over. Main statement:
`addMember_unknown`: a member that is no field changes nothing.
-/

namespace VolumeNode.Json

/-- The value of one kind of field, or the cause why there is none. -/
abbrev Decoder (α : Type) :=
  Json → Except Cause α

/-- A field: its name, and how its value goes into the record. -/
structure Field (α : Type) where
  name : String
  set : α → Json → Except Cause α

/-- A kind of record: what it is called where one was expected, the record of defaults, and the
fields in the order of a list. -/
structure Record (α : Type) where
  label : String
  default : α
  fields : List (Field α)

variable {α : Type}

/-- A field whose value is decoded and then put into the record. -/
def field {β : Type} (name : String) (decode : Decoder β) (put : α → β → α) : Field α :=
  ⟨name, fun a v => do .ok (put a (← decode v))⟩

namespace Record

/-- The record so far and the fields it has been given. -/
abbrev Partial (α : Type) :=
  α × List String

/-- One member of an object. -/
def addMember (r : Record α) (p : Partial α) (m : String × Json) : Except Cause (Partial α) :=
  match r.fields.find? (·.name == m.1) with
  | none => .ok p
  | some f =>
    if f.name ∈ p.2 then .error (.duplicateField f.name)
    else do .ok (← f.set p.1 m.2, f.name :: p.2)

/-- The record of an object. -/
def ofMembers (r : Record α) (members : List (String × Json)) : Except Cause α := do
  .ok (← members.foldlM r.addMember (r.default, [])).1

/-- The values of a list given to the fields in order. -/
def setAll : List (Field α) → α → List Json → Except Cause α
  | f :: fields, a, v :: values => do setAll fields (← f.set a v) values
  | _, a, _ => .ok a

/-- A count of elements. -/
def elements (n : Nat) : String :=
  if n = 1 then "1 element in sequence" else toString n ++ " elements in sequence"

/-- The record of a list. -/
def ofItems (r : Record α) (items : List Json) : Except Cause α := do
  let a ← setAll r.fields r.default items
  if r.fields.length < items.length then
    .error (.invalidLength items.length (elements r.fields.length))
  else .ok a

/-- The record of a value. -/
def decode (r : Record α) : Decoder α
  | .object members => r.ofMembers members
  | .array items => r.ofItems items
  | v => .error (.wrongType v.described r.label)

theorem addMember_unknown {r : Record α} {name : String} (h : ∀ f ∈ r.fields, f.name ≠ name)
    (p : Partial α) (v : Json) : r.addMember p (name, v) = .ok p := by
  have : r.fields.find? (·.name == name) = none := by
    rw [List.find?_eq_none]
    intro f hf
    simpa using h f hf
  simp [addMember, this]

end Record

/-- A text. -/
def text : Decoder String
  | .string s => .ok s
  | v => .error (.wrongType v.described "a string")

/-- A truth value. -/
def truth : Decoder Bool
  | .bool b => .ok b
  | v => .error (.wrongType v.described "a boolean")

/-- A list of texts. -/
def texts : Decoder (List String)
  | .array items => items.mapM text
  | v => .error (.wrongType v.described "a sequence")

/-- A map from names to texts. A name may be repeated; the last text counts. -/
def attributes : Decoder Attributes
  | .object members => do
    .ok (Attributes.ofList (← members.mapM fun m => do .ok (m.1, ← text m.2)))
  | v => .error (.wrongType v.described "a map")

/-- A value that may be absent, which null says. -/
def optional {β : Type} (decode : Decoder β) : Decoder (Option β)
  | .null => .ok none
  | v => do .ok (some (← decode v))

end VolumeNode.Json
