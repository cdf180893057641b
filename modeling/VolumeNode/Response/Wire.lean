import VolumeNode.Response
import VolumeNode.Json.Reader
import VolumeNode.Json.Printer

/-!
# Responses as JSON text

Unlike a request, a response is decoded while its text is read, so every fault has a place, and the
first one in the text is reported. Members that are no field are skipped.
-/

namespace VolumeNode

open Json

/-- The name of a code in a response. -/
def Code.name : Code → String
  | .invalidArgument => "invalid_argument"
  | .internal => "internal"

/-- The name of a kind in a response. -/
def Kind.name : Kind → String
  | .invalidArgument => "invalid_argument"
  | .timeout => "timeout"
  | .processFailure => "process_failure"
  | .internal => "internal"

namespace Response

/-- The codes by their names. -/
def codes : List (String × Code) :=
  [Code.invalidArgument, .internal].map fun c => (c.name, c)

/-- The kinds by their names. -/
def kinds : List (String × Kind) :=
  [Kind.invalidArgument, .timeout, .processFailure, .internal].map fun k => (k.name, k)

/-- One of several names, from its opening quote. -/
def readName {α : Type} (known : List (String × α)) : Reader α := fun cs =>
  match cs with
  | '"' :: rest => do
    let (name, rest) ← readString true rest
    match known.lookup name with
    | some a => .ok (a, rest)
    | none => .error (.before (.unknownVariant name (known.map (·.1))) rest)
  | rest => .error (wrongType "variant identifier" rest)

/-- Nothing, which null says. -/
def readNothing : Reader Unit := fun cs =>
  match skip cs with
  | 'n' :: rest => do .ok ((), ← readIdent ['u', 'l', 'l'] rest)
  | rest => .error (wrongType "unit" rest)

/-- One of several names, or an object with that name as its only member, which is null. -/
def readVariant {α : Type} (known : List (String × α)) : Reader α := fun cs =>
  match skip cs with
  | [] => .error (.at .eofValue [])
  | '"' :: rest => readName known ('"' :: rest)
  | '\x7b' :: rest => do
    let (a, rest) ← readName known (skip rest)
    let (_, rest) ← readColon rest
    let (_, rest) ← readNothing rest
    match skip rest with
    | '\x7d' :: rest => .ok (a, rest)
    | [] => .error (.before .eofObject [])
    | rest => .error (.before .expectedValue rest)
  | rest => .error (.at .expectedValue rest)

/-- A text. -/
def readText : Reader String := fun cs =>
  match skip cs with
  | '"' :: rest => readString true rest
  | rest => .error (wrongType "a string" rest)

/-- A truth value. -/
def readTruth : Reader Bool := fun cs =>
  match skip cs with
  | 't' :: rest => do .ok (true, ← readIdent ['r', 'u', 'e'] rest)
  | 'f' :: rest => do .ok (false, ← readIdent ['a', 'l', 's', 'e'] rest)
  | rest => .error (wrongType "a boolean" rest)

/-- A field that must not have been read before. -/
def readOnce {α : Type} (name : String) (seen : Option α) (value : Reader α) : Reader (Option α) :=
  fun cs =>
    if seen.isSome then .error (.before (.duplicateField name) (behindName cs))
    else do
      let (_, rest) ← readColon cs
      let (a, rest) ← value rest
      .ok (some a, rest)

/-- A member that is no field. -/
def skipMember : Reader Unit := fun cs => do
  let (_, rest) ← readColon cs
  skipValue rest

/-- A field that must have been read. -/
def need {α : Type} (name : String) (seen : Option α) : Reader α := fun cs =>
  match seen with
  | some a => .ok (a, cs)
  | none => .error (.before (.missingField name) cs)

/-- The next item of a list of fields, of which `index` have been read. -/
def readNext {α : Type} (label : String) (index : Nat) (value : Reader α) : Reader α := fun cs => do
  match ← nextItem (index == 0) cs with
  | (none, rest) => .error (.before (.invalidLength index label) (rest.drop 1))
  | (some rest, _) => value rest

/-- The fields of a status that have been read. -/
structure PartialStatus where
  code : Option Code
  kind : Option Kind
  message : Option String

/-- One member of a status. -/
def statusMember (s : PartialStatus) (name : String) : Reader PartialStatus := fun cs =>
  if name = "code" then do
    let (v, rest) ← readOnce name s.code (readVariant codes) cs
    .ok (⟨v, s.kind, s.message⟩, rest)
  else if name = "kind" then do
    let (v, rest) ← readOnce name s.kind (readVariant kinds) cs
    .ok (⟨s.code, v, s.message⟩, rest)
  else if name = "message" then do
    let (v, rest) ← readOnce name s.message readText cs
    .ok (⟨s.code, s.kind, v⟩, rest)
  else do
    let (_, rest) ← skipMember cs
    .ok (s, rest)

/-- A status: an object, or a list of its three fields. -/
def readStatus : Reader Status := fun cs =>
  match skip cs with
  | '\x7b' :: rest => do
    let (s, rest) ← readMembers statusMember ⟨none, none, none⟩ rest
    let (code, rest) ← need "code" s.code rest
    let (kind, rest) ← need "kind" s.kind rest
    let (message, rest) ← need "message" s.message rest
    .ok (⟨code, kind, message⟩, rest)
  | '[' :: rest => do
    let label := "struct Status with 3 elements"
    let (code, rest) ← readNext label 0 (readVariant codes) rest
    let (kind, rest) ← readNext label 1 (readVariant kinds) rest
    let (message, rest) ← readNext label 2 readText rest
    let (_, rest) ← closeList rest
    .ok (⟨code, kind, message⟩, rest)
  | rest => .error (wrongType "struct Status" rest)

/-- A status or null. -/
def readError : Reader (Option Status) := fun cs =>
  match skip cs with
  | 'n' :: rest => do .ok (none, ← readIdent ['u', 'l', 'l'] rest)
  | rest => do
    let (s, rest) ← readStatus rest
    .ok (some s, rest)

/-- The fields of a response that have been read. -/
structure PartialResponse where
  ok : Option Bool
  error : Option (Option Status)

/-- One member of a response. -/
def responseMember (r : PartialResponse) (name : String) : Reader PartialResponse := fun cs =>
  if name = "ok" then do
    let (v, rest) ← readOnce name r.ok readTruth cs
    .ok (⟨v, r.error⟩, rest)
  else if name = "error" then do
    let (v, rest) ← readOnce name r.error readError cs
    .ok (⟨r.ok, v⟩, rest)
  else do
    let (_, rest) ← skipMember cs
    .ok (r, rest)

/-- A response: an object, or a list of its two fields, the second of which may be absent. -/
def readResponse : Reader Response := fun cs =>
  match skip cs with
  | '\x7b' :: rest => do
    let (r, rest) ← readMembers responseMember ⟨none, none⟩ rest
    let (ok, rest) ← need "ok" r.ok rest
    .ok (⟨ok, r.error.getD none⟩, rest)
  | '[' :: rest => do
    let (ok, rest) ← readNext "struct NodeResponse with 2 elements" 0 readTruth rest
    match ← nextItem false rest with
    | (none, rest) => .ok (⟨ok, none⟩, rest.drop 1)
    | (some rest, _) => do
      let (error, rest) ← readError rest
      let (_, rest) ← closeList rest
      .ok (⟨ok, error⟩, rest)
  | rest => .error (wrongType "struct NodeResponse" rest)

/-- The response that a text is. -/
def decode (text : List Char) : Except Fault Response := do
  let (r, rest) ← readResponse text
  readEnd rest
  .ok r

/-- A status as an object. -/
def statusJson (s : Status) : Json :=
  .object [("code", .string s.code.name), ("kind", .string s.kind.name),
    ("message", .string s.message)]

/-- A response as an object; without a failure it has no second member. -/
def toJson (r : Response) : Json :=
  match r.error with
  | none => .object [("ok", .bool r.ok)]
  | some s => .object [("ok", .bool r.ok), ("error", statusJson s)]

/-- A response as text. -/
def encode (r : Response) : String :=
  r.toJson.render

end Response

end VolumeNode
