import VolumeNode.Json.Fault

/-!
# Strings of a JSON text

Writing escapes the quote, the backslash and the characters below U+0020; reading also takes the
other escapes. Surrogate escapes stand in pairs; where a value is only skipped they are not looked
at. Main statement: `readPiece_escape`: a written character is read back.
-/

namespace VolumeNode.Json

/-- A hexadecimal digit, in lower case. -/
def hexDigit (n : Nat) : Char :=
  Char.ofNat (if n < 10 then 0x30 + n else 0x57 + n)

/-- A character as it is written between the quotes. -/
def escape (c : Char) : List Char :=
  if c = '"' then ['\\', '"']
  else if c = '\\' then ['\\', '\\']
  else if c = '\n' then ['\\', 'n']
  else if c = '\r' then ['\\', 'r']
  else if c = '\t' then ['\\', 't']
  else if c.toNat = 8 then ['\\', 'b']
  else if c.toNat = 12 then ['\\', 'f']
  else if c.toNat < 0x20 then
    ['\\', 'u', '0', '0', hexDigit (c.toNat / 16), hexDigit (c.toNat % 16)]
  else [c]

/-- A string as it is written, with its quotes. -/
def writeString (s : String) : List Char :=
  '"' :: s.toList.flatMap escape ++ ['"']

/-- The value of a hexadecimal digit of either case. -/
def hexValue? (c : Char) : Option Nat :=
  let n := c.toNat
  if 0x30 ≤ n ∧ n ≤ 0x39 then some (n - 0x30)
  else if 0x61 ≤ n ∧ n ≤ 0x66 then some (n - 0x57)
  else if 0x41 ≤ n ∧ n ≤ 0x46 then some (n - 0x37)
  else none

/-- Four hexadecimal digits. The four octets behind the letter are taken together, so that the
fault lies behind all of them. -/
def readHex (cs : List Char) : Except Fault (Nat × List Char) :=
  if octets cs < 4 then .error (.before .eofString [])
  else
    match (cs.take 4).mapM hexValue? with
    | some [a, b, c, d] => .ok (((a * 16 + b) * 16 + c) * 16 + d, cs.drop 4)
    | _ => .error ⟨.invalidEscape, some (octets cs - 4)⟩

/-- The code units that begin a pair. -/
def isLeading (n : Nat) : Bool :=
  0xD800 ≤ n && n ≤ 0xDBFF

/-- The code units that end a pair. -/
def isTrailing (n : Nat) : Bool :=
  0xDC00 ≤ n && n ≤ 0xDFFF

/-- The character that a code unit and the escape behind it stand for. -/
def readUnit (n : Nat) (cs : List Char) : Except Fault (Char × List Char) :=
  if isTrailing n then .error (.before .loneSurrogate cs)
  else if isLeading n then
    match cs with
    | [] => .error (.before .eofString [])
    | ['\\'] => .error (.before .eofString [])
    | '\\' :: 'u' :: rest => do
      let (m, rest) ← readHex rest
      if isTrailing m then
        .ok (Char.ofNat ((n - 0xD800) * 0x400 + (m - 0xDC00) + 0x10000), rest)
      else .error (.before .loneSurrogate rest)
    | '\\' :: rest => .error (.at .brokenSurrogatePair rest)
    | _ => .error (.at .brokenSurrogatePair cs)
  else .ok (Char.ofNat n, cs)

/-- What a backslash and the characters behind it stand for. `checked` says whether surrogates have
to be paired. -/
def readEscape (checked : Bool) : List Char → Except Fault (Char × List Char)
  | [] => .error (.before .eofString [])
  | 'u' :: rest => do
    let (n, rest) ← readHex rest
    if checked then readUnit n rest else .ok (Char.ofNat n, rest)
  | c :: rest =>
    if c = '"' ∨ c = '\\' ∨ c = '/' then .ok (c, rest)
    else if c = 'b' then .ok ('\x08', rest)
    else if c = 'f' then .ok ('\x0c', rest)
    else if c = 'n' then .ok ('\n', rest)
    else if c = 'r' then .ok ('\r', rest)
    else if c = 't' then .ok ('\t', rest)
    else .error (.at .invalidEscape (c :: rest))

/-- One character of a string, or `none` for the quote that ends it. -/
def readPiece (checked : Bool) : List Char → Except Fault (Option Char × List Char)
  | [] => .error (.before .eofString [])
  | c :: rest =>
    if c = '"' then .ok (none, rest)
    else if c = '\\' then do
      let (d, rest) ← readEscape checked rest
      .ok (some d, rest)
    else if c.toNat < 0x20 then .error (.at .controlCharacter (c :: rest))
    else .ok (some c, rest)

/-- The characters up to the quote that ends the string, behind those already read; a string has no
more pieces than the text has characters. -/
def readPieces (checked : Bool) : Nat → List Char → List Char → Except Fault (String × List Char)
  | 0, _, _ => .error (.before .eofString [])
  | n + 1, seen, cs => do
    match ← readPiece checked cs with
    | (none, rest) => .ok (String.ofList seen.reverse, rest)
    | (some c, rest) => readPieces checked n (c :: seen) rest

/-- A string, from behind its first quote. -/
def readString (checked : Bool) (cs : List Char) : Except Fault (String × List Char) :=
  readPieces checked (cs.length + 1) [] cs

theorem hexValue?_hexDigit : ∀ n < 16, hexValue? (hexDigit n) = some n := by
  decide

theorem length_le_octets (cs : List Char) : cs.length ≤ octets cs := by
  induction cs with
  | nil => simp [octets]
  | cons c cs ih =>
    have := Char.utf8Size_pos c
    rw [octets_cons, List.length_cons]
    omega

theorem readHex_digits {a b c d : Char} {w x y z : Nat} (ha : hexValue? a = some w)
    (hb : hexValue? b = some x) (hc : hexValue? c = some y) (hd : hexValue? d = some z)
    (rest : List Char) :
    readHex (a :: b :: c :: d :: rest) = .ok (((w * 16 + x) * 16 + y) * 16 + z, rest) := by
  have hlen : ¬ octets (a :: b :: c :: d :: rest) < 4 := by
    have := length_le_octets (a :: b :: c :: d :: rest)
    simp only [List.length_cons] at this
    omega
  simp [readHex, hlen, ha, hb, hc, hd]

theorem char_eq_ofNat {c : Char} {n : Nat} (h : c.toNat = n) : c = Char.ofNat n := by
  rw [← h, Char.ofNat_toNat]

/-- A written character is read back. -/
theorem readPiece_escape (checked : Bool) (c : Char) (rest : List Char) :
    readPiece checked (escape c ++ rest) = .ok (some c, rest) := by
  rw [escape]
  split
  · subst c; rfl
  split
  · subst c; rfl
  split
  · subst c; rfl
  split
  · subst c; rfl
  split
  · subst c; rfl
  split
  · rename_i h; rw [char_eq_ofNat h]; rfl
  split
  · rename_i h; rw [char_eq_ofNat h]; rfl
  split
  · rename_i h
    have hx : readHex ('0' :: '0' :: hexDigit (c.toNat / 16) :: hexDigit (c.toNat % 16) :: rest)
        = .ok (c.toNat, rest) := by
      have h0 : hexValue? '0' = some 0 := rfl
      rw [readHex_digits h0 h0 (hexValue?_hexDigit _ (by omega)) (hexValue?_hexDigit _ (by omega))]
      simp only [Except.ok.injEq, Prod.mk.injEq, and_true]
      omega
    have ht : isTrailing c.toNat = false := by simp [isTrailing]; omega
    have hl : isLeading c.toNat = false := by simp [isLeading]; omega
    simp [readPiece, readEscape, hx, readUnit, ht, hl, bind, Except.bind]
  · rename_i h1 h2 _ _ _ _ _ h3
    simp [readPiece, h1, h2, h3]

end VolumeNode.Json
