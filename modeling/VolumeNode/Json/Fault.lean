/-!
# Faults of a JSON text

A fault is a cause and, where it was met while reading, its place: how many octets of the text were
not yet counted then. The message names the place by line and column. Main statement: `locate_behind`:
the line counts the line feeds in front of a place, the column the octets behind the last of them.
-/

namespace VolumeNode.Json

/-- Why a text is refused. -/
inductive Cause where
  | eofValue
  | eofList
  | eofObject
  | eofString
  | expectedValue
  | expectedIdent
  | expectedListEnd
  | expectedObjectEnd
  | expectedColon
  | keyNotString
  | trailingComma
  | trailingCharacters
  | invalidNumber
  | numberOutOfRange
  | controlCharacter
  | invalidEscape
  | loneSurrogate
  | brokenSurrogatePair
  | tooDeep
  /-- A value of another kind than the expected one. -/
  | wrongType (found expected : String)
  /-- A name that is none of the known ones. -/
  | unknownVariant (name : String) (known : List String)
  | missingField (name : String)
  | duplicateField (name : String)
  /-- A list of the wrong length. -/
  | invalidLength (length : Nat) (expected : String)
  deriving Repr, DecidableEq

/-- Names between back quotes, as alternatives. -/
def alternatives : List String → String
  | [a, b] => "`" ++ a ++ "` or `" ++ b ++ "`"
  | names => "one of " ++ ", ".intercalate (names.map fun a => "`" ++ a ++ "`")

/-- The wording of a cause. -/
def Cause.message : Cause → String
  | eofValue => "EOF while parsing a value"
  | eofList => "EOF while parsing a list"
  | eofObject => "EOF while parsing an object"
  | eofString => "EOF while parsing a string"
  | expectedValue => "expected value"
  | expectedIdent => "expected ident"
  | expectedListEnd => "expected `,` or `]`"
  | expectedObjectEnd => "expected `,` or `\x7d`"
  | expectedColon => "expected `:`"
  | keyNotString => "key must be a string"
  | trailingComma => "trailing comma"
  | trailingCharacters => "trailing characters"
  | invalidNumber => "invalid number"
  | numberOutOfRange => "number out of range"
  | controlCharacter => "control character (\\u0000-\\u001F) found while parsing a string"
  | invalidEscape => "invalid escape"
  | loneSurrogate => "lone leading surrogate in hex escape"
  | brokenSurrogatePair => "unexpected end of hex escape"
  | tooDeep => "recursion limit exceeded"
  | wrongType found expected => "invalid type: " ++ found ++ ", expected " ++ expected
  | unknownVariant name known =>
    "unknown variant `" ++ name ++ "`, expected " ++ alternatives known
  | missingField name => "missing field `" ++ name ++ "`"
  | duplicateField name => "duplicate field `" ++ name ++ "`"
  | invalidLength length expected =>
    "invalid length " ++ toString length ++ ", expected " ++ expected

/-- A cause, and the number of octets of the text that follow the place of the fault. -/
structure Fault where
  cause : Cause
  left : Option Nat
  deriving Repr, DecidableEq

/-- How many octets the characters take in UTF-8. -/
def octets (cs : List Char) : Nat :=
  cs.foldr (fun c n => c.utf8Size + n) 0

/-- A fault met in front of `rest`. -/
def Fault.before (cause : Cause) (rest : List Char) : Fault :=
  ⟨cause, some (octets rest)⟩

/-- A fault that counts the first octet of `rest`, if there is one, as read. -/
def Fault.at (cause : Cause) (rest : List Char) : Fault :=
  ⟨cause, some (octets rest - 1)⟩

/-- A fault of the content, without a place. -/
def Fault.unplaced (cause : Cause) : Fault :=
  ⟨cause, none⟩

/-- The line and column behind the first `n` octets, counted from the given ones: a line feed begins
a line, all else counts its octets. -/
def locate (line column : Nat) : List Char → Nat → Nat × Nat
  | _, 0 => (line, column)
  | [], _ => (line, column)
  | c :: rest, n =>
    if c = '\n' then locate (line + 1) 0 rest (n - 1)
    else if n ≤ c.utf8Size then (line, column + n)
    else locate line (column + c.utf8Size) rest (n - c.utf8Size)

/-- The message for a fault of the given text. -/
def Fault.message (f : Fault) (text : List Char) : String :=
  match f.left with
  | none => f.cause.message
  | some left =>
    let (line, column) := locate 1 0 text (octets text - left)
    f.cause.message ++ " at line " ++ toString line ++ " column " ++ toString column

theorem octets_cons (c : Char) (cs : List Char) : octets (c :: cs) = c.utf8Size + octets cs := rfl

theorem octets_append (cs ds : List Char) : octets (cs ++ ds) = octets cs + octets ds := by
  induction cs with
  | nil => simp [octets]
  | cons c cs ih => rw [List.cons_append, octets_cons, octets_cons, ih, Nat.add_assoc]

/-- A line feed begins a line; any other character counts its octets. -/
theorem locate_cons (line column : Nat) (c : Char) (rest : List Char) (n : Nat) :
    locate line column (c :: rest) (c.utf8Size + n) =
      if c = '\n' then locate (line + 1) 0 rest n
      else locate line (column + c.utf8Size) rest n := by
  have hpos := c.utf8Size_pos
  rw [locate.eq_3 _ _ _ _ _ (by omega)]
  split
  next hc =>
    have : c.utf8Size + n - 1 = n := by
      subst hc
      exact Nat.add_sub_cancel_left ..
    rw [this]
  next =>
    split
    next hle =>
      obtain rfl : n = 0 := by omega
      cases rest <;> simp [locate]
    next => rw [Nat.add_sub_cancel_left]

theorem locate_of_not_mem {cs : List Char} (h : '\n' ∉ cs) (line column : Nat) (rest : List Char) :
    locate line column (cs ++ rest) (octets cs) = (line, column + octets cs) := by
  induction cs generalizing column with
  | nil => cases rest <;> simp [octets, locate]
  | cons c cs ih =>
    rw [List.mem_cons, not_or] at h
    rw [List.cons_append, octets_cons, locate_cons, if_neg (Ne.symm h.1), ih h.2, Nat.add_assoc]

theorem locate_append (line column : Nat) (cs rest : List Char) (n : Nat) :
    locate line column (cs ++ '\n' :: rest) (octets cs + ('\n'.utf8Size + n)) =
      locate (line + cs.count '\n' + 1) 0 rest n := by
  induction cs generalizing line column with
  | nil =>
    change locate line column ('\n' :: rest) (0 + _) = _
    rw [Nat.zero_add, locate_cons, if_pos rfl, List.count_nil, Nat.add_zero]
  | cons c cs ih =>
    rw [List.cons_append, octets_cons, Nat.add_assoc, locate_cons, List.count_cons]
    split
    next hc =>
      rw [ih]
      simp [hc, Nat.add_comm, Nat.add_left_comm]
    next hc =>
      rw [ih]
      simp [hc]

theorem locate_behind {last : List Char} (h : '\n' ∉ last) (front rest : List Char) :
    locate 1 0 (front ++ '\n' :: (last ++ rest)) (octets (front ++ '\n' :: last)) =
      (front.count '\n' + 2, octets last) := by
  rw [octets_append, octets_cons, locate_append, locate_of_not_mem h, Nat.zero_add]
  congr 1
  omega

end VolumeNode.Json
