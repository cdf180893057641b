/-!
# Permission bits as octal text

Any number of `0o`, at most one plus sign and at least one octal digit; the value has at most the
twelve permission bits. The digits are read into a word of 32 bits, and a text of which the value does
not fit is refused like any other that is not understood.
-/

namespace VolumeNode.FileMode

/-- The largest set of permission bits. -/
def limit : Nat :=
  0o7777

/-- The text behind all leading `0o`. -/
def dropMarks : List Char → List Char
  | '0' :: 'o' :: rest => dropMarks rest
  | cs => cs

/-- The text behind one leading plus sign. -/
def dropPlus : List Char → List Char
  | '+' :: rest => rest
  | cs => cs

/-- The octal digits. -/
def isOctal (c : Char) : Bool :=
  '0' ≤ c && c ≤ '7'

/-- The value of a digit. -/
def digit (c : Char) : Nat :=
  c.toNat - 0x30

/-- The product of a word and a number, if it fits into a word. -/
def times? (n : UInt32) (k : Nat) : Option UInt32 :=
  if n.toNat * k < UInt32.size then some (n * UInt32.ofNat k) else none

/-- The sum of a word and a number, if it fits into a word. -/
def plus? (n : UInt32) (k : Nat) : Option UInt32 :=
  if n.toNat + k < UInt32.size then some (n + UInt32.ofNat k) else none

/-- A word with one octal digit more. -/
def push? (n : UInt32) (c : Char) : Option UInt32 :=
  if isOctal c then (times? n 8).bind (plus? · (digit c)) else none

/-- A word with more octal digits. -/
def readFrom? (n : UInt32) : List Char → Option UInt32
  | [] => some n
  | c :: rest =>
    match push? n c with
    | some m => readFrom? m rest
    | none => none

/-- The word that octal digits stand for; there must be one digit at least. -/
def read? : List Char → Option UInt32
  | [] => none
  | digits => readFrom? 0 digits

/-- The permission bits of a text. -/
def parse? (s : String) : Option Nat :=
  ((read? (dropPlus (dropMarks s.toList))).map UInt32.toNat).filter (· ≤ limit)

/-- What is said of a text that is refused. -/
def refusal (s : String) : String :=
  "invalid octal mode: " ++ s

/-- The permission bits of a text, or what is said of it. -/
def parse (s : String) : Except String Nat :=
  match parse? s with
  | some m => .ok m
  | none => .error (refusal s)

end VolumeNode.FileMode
