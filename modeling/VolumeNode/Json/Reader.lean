import VolumeNode.Json.Structure
import VolumeNode.Json.Value

/-!
# Reading JSON values

A value is read from the front of a text and the rest of the text is left. Lists and objects may be
nested only so deep. A value that is only skipped is held to the grammar but may be nested at will,
and neither the size of its numbers nor the pairing of its surrogates counts.
-/

namespace VolumeNode.Json

/-- The decimal digits. -/
def isDigit (c : Char) : Bool :=
  '0' ≤ c && c ≤ '9'

/-- The value of a decimal digit. -/
def digitValue (c : Char) : Nat :=
  c.toNat - 0x30

/-- The letters of a literal behind its first one. -/
def readIdent : List Char → List Char → Except Fault (List Char)
  | [], cs => .ok cs
  | _ :: _, [] => .error (.before .eofValue [])
  | a :: word, c :: rest =>
    if c = a then readIdent word rest else .error (.at .expectedIdent (c :: rest))

/-- Digits added to a significand as long as it stays below 2 ^ 64, and how many of them were
taken. -/
def addDigits (significand : Nat) : List Char → Nat × Nat
  | [] => (significand, 0)
  | d :: rest =>
    let next := significand * 10 + digitValue d
    if next ≤ Number.limit then
      let (total, taken) := addDigits next rest
      (total, taken + 1)
    else (significand, 0)

/-- The digits of an exponent, added while the sum stays below 2 ^ 31; else what follows the digit
that does not fit. -/
def addExponent (sum : Nat) : List Char → Except (List Char) (Nat × List Char)
  | [] => .ok (sum, [])
  | c :: rest =>
    if isDigit c then
      let next := sum * 10 + digitValue c
      if next < 0x80000000 then addExponent next rest else .error rest
    else .ok (sum, c :: rest)

/-- The number with the given significand and exponent, unless it is too large. -/
def scaled (minus : Bool) (significand : Nat) (exponent : Int) : Reader Number := fun cs =>
  match Number.ofDecimal? significand exponent with
  | some m => .ok (.float minus m, cs)
  | none => .error (.before .numberOutOfRange cs)

/-- The exponent of a number, from behind its letter. -/
def readExponent (minus : Bool) (significand : Nat) (exponent : Int) : Reader Number := fun cs =>
  let (down, cs) := match cs with
    | '+' :: rest => (false, rest)
    | '-' :: rest => (true, rest)
    | _ => (false, cs)
  match cs with
  | [] => .error (.before .eofValue [])
  | c :: rest =>
    if isDigit c then
      match addExponent (digitValue c) rest with
      | .ok (e, rest) => scaled minus significand (if down then exponent - e else exponent + e) rest
      | .error rest =>
        if significand ≠ 0 ∧ !down then .error (.before .numberOutOfRange rest)
        else .ok (.float minus ⟨0⟩, rest.dropWhile isDigit)
    else .error (.at .invalidNumber (c :: rest))

/-- What may follow the whole digits and those of the fraction. -/
def readScale (minus : Bool) (significand : Nat) (exponent : Int) : Reader Number := fun cs =>
  match cs with
  | 'e' :: rest => readExponent minus significand exponent rest
  | 'E' :: rest => readExponent minus significand exponent rest
  | _ => scaled minus significand exponent cs

/-- The fraction of a number, from behind its point. -/
def readFraction (minus : Bool) (significand : Nat) (exponent : Int) : Reader Number := fun cs =>
  let digits := cs.takeWhile isDigit
  let rest := cs.dropWhile isDigit
  if digits.isEmpty then
    match rest with
    | [] => .error (.before .eofValue [])
    | rest => .error (.at .invalidNumber rest)
  else
    let (total, taken) := addDigits significand digits
    readScale minus total (exponent - taken) rest

/-- What may follow the whole digits. `exact` says that no digit was left out. -/
def readTail (minus exact : Bool) (significand : Nat) (exponent : Int) : Reader Number := fun cs =>
  match cs with
  | '.' :: rest => readFraction minus significand exponent rest
  | 'e' :: rest => readExponent minus significand exponent rest
  | 'E' :: rest => readExponent minus significand exponent rest
  | _ =>
    if exact then .ok (Number.ofInteger minus significand, cs)
    else scaled minus significand exponent cs

/-- A number, from behind its sign. Digits that do not fit into 64 bits only count as places. -/
def readNumber (minus : Bool) : Reader Number
  | [] => .error (.before .eofValue [])
  | c :: rest =>
    if c = '0' then
      match rest with
      | d :: more =>
        if isDigit d then .error (.at .invalidNumber (d :: more)) else readTail minus true 0 0 rest
      | [] => readTail minus true 0 0 []
    else if isDigit c then
      let digits := c :: rest.takeWhile isDigit
      let (total, taken) := addDigits 0 digits
      let left := digits.length - taken
      readTail minus (left == 0) total left (rest.dropWhile isDigit)
    else .error (.at .invalidNumber (c :: rest))

/-- A value that is no list and no object. -/
def readScalar : Reader Json
  | [] => .error (.at .eofValue [])
  | c :: rest =>
    if c = 'n' then do .ok (.null, ← readIdent ['u', 'l', 'l'] rest)
    else if c = 't' then do .ok (.bool true, ← readIdent ['r', 'u', 'e'] rest)
    else if c = 'f' then do .ok (.bool false, ← readIdent ['a', 'l', 's', 'e'] rest)
    else if c = '"' then do
      let (s, rest) ← readString true rest
      .ok (.string s, rest)
    else if c = '-' then do
      let (n, rest) ← readNumber true rest
      .ok (.number n, rest)
    else if isDigit c then do
      let (n, rest) ← readNumber false (c :: rest)
      .ok (.number n, rest)
    else .error (.at .expectedValue (c :: rest))

/-- A list, from behind its opening bracket, whose items are read by `item`. -/
def readArray (item : Reader Json) : Reader Json := fun cs => do
  let step : List Json → Reader (List Json) := fun seen cs => do
    let (x, rest) ← item cs
    .ok (x :: seen, rest)
  let (seen, rest) ← readItems step [] cs
  .ok (.array seen.reverse, rest)

/-- The value of a member, behind its name. -/
def readMember (value : Reader Json) (seen : List (String × Json)) (name : String) :
    Reader (List (String × Json)) := fun cs => do
  let (_, rest) ← readColon cs
  let (v, rest) ← value rest
  .ok ((name, v) :: seen, rest)

/-- An object, from behind its opening bracket, whose values are read by `value`. -/
def readObject (value : Reader Json) : Reader Json := fun cs => do
  let (seen, rest) ← readMembers (readMember value) [] cs
  .ok (.object seen.reverse, rest)

/-- A value in which lists and objects are nested at most `depth` deep. -/
def readValue : Nat → Reader Json
  | 0, cs =>
    match skip cs with
    | '[' :: rest => .error (.at .tooDeep ('[' :: rest))
    | '\x7b' :: rest => .error (.at .tooDeep ('\x7b' :: rest))
    | rest => readScalar rest
  | depth + 1, cs =>
    match skip cs with
    | '[' :: rest => readArray (readValue depth) rest
    | '\x7b' :: rest => readObject (readValue depth) rest
    | rest => readScalar rest

/-- How deep a text may be nested. -/
def maxDepth : Nat :=
  127

/-- Nothing but blanks may follow. -/
def readEnd (cs : List Char) : Except Fault Unit :=
  match skip cs with
  | [] => .ok ()
  | rest => .error (.at .trailingCharacters rest)

/-- The value that the whole text is. -/
def parse (text : List Char) : Except Fault Json := do
  let (v, rest) ← readValue maxDepth text
  readEnd rest
  .ok v

/-- The fault of a value that is not of the expected kind: one in the value itself, or one in front
of a list or object and behind any other value. -/
def wrongType (expected : String) (cs : List Char) : Fault :=
  match cs with
  | '[' :: rest => .before (.wrongType (described (.array [])) expected) ('[' :: rest)
  | '\x7b' :: rest => .before (.wrongType (described (.object [])) expected) ('\x7b' :: rest)
  | cs =>
    match readScalar cs with
    | .error fault => fault
    | .ok (v, rest) => .before (.wrongType v.described expected) rest

/-- The digits of a number that is skipped and what stands between them. -/
def skipNumber : List Char → Except Fault (List Char)
  | [] => .error (.before .invalidNumber [])
  | c :: rest => do
    let rest ←
      if c = '0' then
        match rest with
        | d :: more => if isDigit d then .error (.at .invalidNumber (d :: more)) else .ok rest
        | [] => .ok []
      else if isDigit c then .ok (rest.dropWhile isDigit)
      else .error (.at .invalidNumber (c :: rest))
    let rest ← match rest with
      | '.' :: more =>
        if (more.takeWhile isDigit).isEmpty then .error (.at .invalidNumber more)
        else .ok (more.dropWhile isDigit)
      | rest => .ok rest
    match rest with
    | c :: more =>
      if c = 'e' ∨ c = 'E' then
        let more := match more with
          | '+' :: more => more
          | '-' :: more => more
          | more => more
        match more with
        | d :: more =>
          if isDigit d then .ok (more.dropWhile isDigit) else .error (.at .invalidNumber (d :: more))
        | [] => .error (.before .invalidNumber [])
      else .ok (c :: more)
    | [] => .ok []

/-- A value that is no list and no object, skipped. -/
def skipScalar : List Char → Except Fault (List Char)
  | [] => .error (.at .eofValue [])
  | c :: rest =>
    if c = 'n' then readIdent ['u', 'l', 'l'] rest
    else if c = 't' then readIdent ['r', 'u', 'e'] rest
    else if c = 'f' then readIdent ['a', 'l', 's', 'e'] rest
    else if c = '"' then do .ok (← readString false rest).2
    else if c = '-' then skipNumber rest
    else if isDigit c then skipNumber (c :: rest)
    else .error (.at .expectedValue (c :: rest))

/-- What stands in front of the next value inside the brackets that are open, the innermost first:
`true` for a list. `opened` says that the innermost has just been opened. The number bounds the
brackets that close here. -/
def skipClosing (opened : Bool) : List Bool → List Char → Except Fault (List Bool × List Char)
  | [], cs => .ok ([], cs)
  | inList :: outer, cs =>
    match skip cs with
    | [] => .error (.at (if inList then .eofList else .eofObject) [])
    | c :: rest =>
      if c = ',' ∧ !opened then .ok (inList :: outer, rest)
      else if (c = ']' ∧ inList) ∨ (c = '\x7d' ∧ !inList) then skipClosing false outer rest
      else if opened then .ok (inList :: outer, c :: rest)
      else .error (.at (if inList then .expectedListEnd else .expectedObjectEnd) (c :: rest))

/-- The name and colon in front of a skipped member. -/
def skipName (cs : List Char) : Except Fault (List Char) :=
  match skip cs with
  | [] => .error (.at .eofObject [])
  | '"' :: rest => do
    let (_, rest) ← readString false rest
    .ok (← readColon rest).2
  | rest => .error (.at .keyNotString rest)

/-- Skips values until no bracket is open. The number bounds the values; a text has no more of them
than characters. -/
def skipOpen : Nat → List Bool → List Char → Except Fault (List Char)
  | 0, _, cs => .error (.at .eofValue cs)
  | n + 1, brackets, cs => do
    let (brackets, rest) ← match skip cs with
      | '[' :: rest => skipClosing true (true :: brackets) rest
      | '\x7b' :: rest => skipClosing true (false :: brackets) rest
      | rest => do skipClosing false brackets (← skipScalar rest)
    match brackets with
    | [] => .ok rest
    | true :: _ => skipOpen n brackets rest
    | false :: _ => do skipOpen n brackets (← skipName rest)

/-- A value that is skipped, however deep it is nested. -/
def skipValue : Reader Unit := fun cs => do
  .ok ((), ← skipOpen (cs.length + 1) [] cs)

end VolumeNode.Json
