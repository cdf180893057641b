import VolumeNode.Json.Text

/-!
# Lists and objects of a JSON text

How a reader walks through the items of a list and the members of an object, whatever it reads them
as: `foldItems` and `foldMembers` hand a state from one to the next. Main statements:
`nextItem_close` and `nextMember_close`: a closing bracket ends the walk in front of it.
-/

namespace VolumeNode.Json

/-- A reader takes what it reads from the front of the text and leaves the rest. -/
abbrev Reader (α : Type) :=
  List Char → Except Fault (α × List Char)

/-- The blanks between the tokens. -/
def isSpace (c : Char) : Bool :=
  c == ' ' || c == '\n' || c == '\t' || c == '\r'

/-- The text behind the blanks at its front. -/
def skip (cs : List Char) : List Char :=
  cs.dropWhile isSpace

/-- The front of the next item, or `none` in front of the bracket that closes the list. -/
def nextItem (first : Bool) (cs : List Char) : Except Fault (Option (List Char) × List Char) :=
  match skip cs with
  | [] => .error (.at .eofList [])
  | ']' :: rest => .ok (none, ']' :: rest)
  | c :: rest =>
    if first then .ok (some (c :: rest), c :: rest)
    else if c = ',' then
      match skip rest with
      | [] => .error (.at .eofValue [])
      | ']' :: rest => .error (.at .trailingComma (']' :: rest))
      | rest => .ok (some rest, rest)
    else .error (.at .expectedListEnd (c :: rest))

/-- The bracket that closes a list of known length; another item is refused. -/
def closeList : Reader Unit := fun cs =>
  match skip cs with
  | [] => .error (.at .eofList [])
  | ']' :: rest => .ok ((), rest)
  | ',' :: rest =>
    match skip rest with
    | ']' :: rest => .error (.at .trailingComma (']' :: rest))
    | rest => .error (.at .trailingCharacters rest)
  | rest => .error (.at .trailingCharacters rest)

/-- The name of the next member, or `none` in front of the bracket that closes the object. -/
def nextMember (first : Bool) (cs : List Char) : Except Fault (Option String × List Char) :=
  match skip cs with
  | [] => .error (.at .eofObject [])
  | '\x7d' :: rest => .ok (none, '\x7d' :: rest)
  | c :: rest =>
    if first then
      if c = '"' then do
        let (name, rest) ← readString true rest
        .ok (some name, rest)
      else .error (.at .keyNotString (c :: rest))
    else if c = ',' then
      match skip rest with
      | [] => .error (.at .eofValue [])
      | '"' :: rest => do
        let (name, rest) ← readString true rest
        .ok (some name, rest)
      | '\x7d' :: rest => .error (.at .trailingComma ('\x7d' :: rest))
      | rest => .error (.at .keyNotString rest)
    else .error (.at .expectedObjectEnd (c :: rest))

/-- The colon between a name and its value. -/
def readColon : Reader Unit := fun cs =>
  match skip cs with
  | [] => .error (.at .eofObject [])
  | c :: rest => if c = ':' then .ok ((), rest) else .error (.at .expectedColon (c :: rest))

/-- The place of a fault in the name of a member: behind the blanks that follow it, and behind the
bracket if that closes the object there. -/
def behindName (cs : List Char) : List Char :=
  match skip cs with
  | '\x7d' :: rest => rest
  | rest => rest

variable {σ : Type}

/-- The items of a list, from behind its opening bracket to behind its closing one. The first number
bounds the items; a text has no more of them than characters. -/
def foldItems (item : σ → Reader σ) : Nat → Bool → σ → Reader σ
  | 0, _, _, cs => .error (.at .eofList cs)
  | n + 1, first, s, cs => do
    match ← nextItem first cs with
    | (none, rest) => .ok (s, rest.drop 1)
    | (some front, _) => do
      let (s, rest) ← item s front
      foldItems item n false s rest

/-- The members of an object, from behind its opening bracket to behind its closing one. The reader
of a member stands behind its name. -/
def foldMembers (member : σ → String → Reader σ) : Nat → Bool → σ → Reader σ
  | 0, _, _, cs => .error (.at .eofObject cs)
  | n + 1, first, s, cs => do
    match ← nextMember first cs with
    | (none, rest) => .ok (s, rest.drop 1)
    | (some name, rest) => do
      let (s, rest) ← member s name rest
      foldMembers member n false s rest

/-- All items of a list. -/
def readItems (item : σ → Reader σ) (s : σ) : Reader σ := fun cs =>
  foldItems item (cs.length + 1) true s cs

/-- All members of an object. -/
def readMembers (member : σ → String → Reader σ) (s : σ) : Reader σ := fun cs =>
  foldMembers member (cs.length + 1) true s cs

theorem nextItem_close (first : Bool) (rest : List Char) :
    nextItem first (']' :: rest) = .ok (none, ']' :: rest) := by
  simp [nextItem, skip, isSpace]

theorem nextMember_close (first : Bool) (rest : List Char) :
    nextMember first ('\x7d' :: rest) = .ok (none, '\x7d' :: rest) := by
  simp [nextMember, skip, isSpace]

end VolumeNode.Json
