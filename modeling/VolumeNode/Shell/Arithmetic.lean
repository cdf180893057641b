/-!
# Expressions

An expression of whole numbers, as in C: operators that bind more tightly come first, those that bind
alike from the left. A name stands for the value of a parameter and can be assigned to.
-/

namespace VolumeNode.Shell.Arithmetic

/-- Why an expression has no value. -/
inductive Fault where
  | expectingPrimary
  | expectingEnd
  | expectingColon
  | expectingBracket
  | divisionByZero
  /-- The value of a name is no number. -/
  | illegalNumber (value : List Char)
  deriving DecidableEq, Repr

/-- What is said of an expression that has no value. -/
def Fault.message (f : Fault) (expression : List Char) : String :=
  let whole (problem : String) : String :=
    "arithmetic expression: " ++ problem ++ ": \"" ++ String.ofList expression ++ "\""
  match f with
  | expectingPrimary => whole "expecting primary"
  | expectingEnd => whole "expecting EOF"
  | expectingColon => whole "expecting ':'"
  | expectingBracket => whole "expecting ')'"
  | divisionByZero => whole "division by zero"
  | illegalNumber value => "Illegal number: " ++ String.ofList value

/-- Values are the same that differ by a multiple of this. -/
def modulus : Nat :=
  0x10000000000000000

/-- The value in 64 bits. -/
def wrap (n : Int) : Int :=
  Int.bmod n modulus

/-- A word of an expression. -/
inductive Token where
  | number (n : Int)
  | name (cs : List Char)
  | operator (s : String)
  /-- A character that begins no word. -/
  | junk
  deriving DecidableEq, Repr

/-- The operators, longer ones first. -/
def operators : List String :=
  ["<<=", ">>=", "<<", ">>", "<=", ">=", "==", "!=", "&&", "||", "+=", "-=", "*=", "/=", "%=", "&=",
   "|=", "^=", "+", "-", "*", "/", "%", "<", ">", "&", "|", "^", "!", "~", "?", ":", "(", ")", "="]

/-- The largest value. -/
def greatest : Nat :=
  0x7FFFFFFFFFFFFFFF

/-- The value of a digit in the bases that numbers have. -/
def digit? (base : Nat) (c : Char) : Option Nat :=
  let d := if c.isDigit then c.toNat - 0x30
    else if 'a' ≤ c && c ≤ 'f' then c.toNat - 0x57
    else if 'A' ≤ c && c ≤ 'F' then c.toNat - 0x37
    else 16
  if d < base then some d else none

/-- The number made of the digits at the front of a text, none larger than the largest value, and the
text behind them. -/
def readDigits (base : Nat) (cs : List Char) : Nat × List Char :=
  let (ds, rest) := cs.span fun c => (digit? base c).isSome
  (min greatest ((ds.filterMap (digit? base)).foldl (fun n d => n * base + d) 0), rest)

/-- The number at the front of a text, in base 8 behind a zero and in base 16 behind `0x`, and the text
behind it. -/
def readNumber (cs : List Char) : Nat × List Char :=
  match cs with
  | '0' :: x :: d :: rest =>
    if (x = 'x' || x = 'X') && (digit? 16 d).isSome then readDigits 16 (d :: rest)
    else readDigits 8 cs
  | '0' :: _ => readDigits 8 cs
  | _ => readDigits 10 cs

/-- The value of a whole text; a blank text is zero. -/
def integer? (cs : List Char) : Option Int :=
  let isBlank (c : Char) : Bool := c = ' ' || c = '\t' || c = '\n'
  let cs := cs.dropWhile isBlank
  let (minus, digits) := match cs with
    | '-' :: rest => (true, rest)
    | '+' :: rest => (false, rest)
    | _ => (false, cs)
  let (n, rest) := readNumber digits
  if rest.length = digits.length && !cs.isEmpty then none
  else if rest.all isBlank then some (if minus then -(n : Int) else n)
  else none

/-- The words of an expression. A word that is none ends it. The number bounds its length. -/
def tokens : Nat → List Char → List Token
  | 0, _ | _ + 1, [] => []
  | n + 1, c :: cs =>
    if c = ' ' || c = '\t' || c = '\n' then tokens n cs
    else if c.isDigit then
      let (value, rest) := readNumber (c :: cs)
      .number value :: tokens n rest
    else if c.isAlpha || c = '_' then
      let (name, rest) := (c :: cs).span fun c => c.isAlphanum || c = '_'
      .name name :: tokens n rest
    else
      match operators.find? fun s => s.toList.isPrefixOf (c :: cs) with
      | some s => .operator s :: tokens n ((c :: cs).drop s.length)
      | none => [.junk]

/-- How tightly an operator between two expressions binds. -/
def power? : String → Option Nat
  | "||" => some 1
  | "&&" => some 2
  | "|" => some 3
  | "^" => some 4
  | "&" => some 5
  | "==" | "!=" => some 6
  | "<" | ">" | "<=" | ">=" => some 7
  | "<<" | ">>" => some 8
  | "+" | "-" => some 9
  | "*" | "/" | "%" => some 10
  | _ => none

/-- One for a condition that holds. -/
def truth (b : Bool) : Int :=
  if b then 1 else 0

/-- The value of an operator between two values. -/
def apply (operator : String) (a b : Int) : Except Fault Int :=
  let bits (f : Nat → Nat → Nat) : Int :=
    wrap (f (a % modulus).toNat (b % modulus).toNat)
  match operator with
  | "||" => .ok (truth (a != 0 || b != 0))
  | "&&" => .ok (truth (a != 0 && b != 0))
  | "|" => .ok (bits Nat.lor)
  | "^" => .ok (bits Nat.xor)
  | "&" => .ok (bits Nat.land)
  | "==" => .ok (truth (a == b))
  | "!=" => .ok (truth (a != b))
  | "<" => .ok (truth (a < b))
  | ">" => .ok (truth (b < a))
  | "<=" => .ok (truth (a ≤ b))
  | ">=" => .ok (truth (b ≤ a))
  | "<<" => .ok (wrap (a * (1 <<< (b % 64).toNat : Nat)))
  | ">>" => .ok (a / (1 <<< (b % 64).toNat : Nat))
  | "+" => .ok (wrap (a + b))
  | "-" => .ok (wrap (a - b))
  | "*" => .ok (wrap (a * b))
  | "/" => if b = 0 then .error .divisionByZero else .ok (wrap (Int.tdiv a b))
  | _ => if b = 0 then .error .divisionByZero else .ok (Int.tmod a b)

/-- What is left of an expression, and the values of names. -/
structure Progress where
  rest : List Token
  values : List (List Char × Int)

/-- The value of a name. -/
def Progress.value (p : Progress) (outer : List Char → Except Fault Int) (name : List Char) :
    Except Fault Int :=
  match p.values.lookup name with
  | some v => .ok v
  | none => outer name

/-- The value of an operator between two values; what is only read over has none that matters. -/
def applied (live : Bool) (operator : String) (a b : Int) : Except Fault Int :=
  if live then apply operator a b else .ok 0

/-- Progress with the value of a name, unless the assignment is only read over. -/
def Progress.assign (p : Progress) (live : Bool) (name : List Char) (v : Int) : Progress :=
  if live then { p with values := (name, v) :: p.values } else p

mutual

/-- An expression, with assignments and conditions. What is not live is only read over. -/
def full (outer : List Char → Except Fault Int) (live : Bool) :
    Nat → Progress → Except Fault (Int × Progress)
  | 0, _ => .error .expectingPrimary
  | n + 1, p => do
    match p.rest with
    | .name name :: .operator s :: rest =>
      if s = "=" then do
        let (v, p) ← full outer live n { p with rest := rest }
        return (v, p.assign live name v)
      else if s.length ≥ 2 && s.endsWith "=" && (power? s).isNone then do
        let (v, after) ← full outer live n { p with rest := rest }
        let v ← applied live (String.ofList s.toList.dropLast) (← p.value outer name) v
        return (v, after.assign live name v)
      else condition outer live n p
    | _ => condition outer live n p

/-- An expression that may choose between two others. -/
def condition (outer : List Char → Except Fault Int) (live : Bool) :
    Nat → Progress → Except Fault (Int × Progress)
  | 0, _ => .error .expectingPrimary
  | n + 1, p => do
    let (a, p) ← unary outer live n p
    let (a, p) ← binary outer live 0 a n p
    match p.rest with
    | .operator "?" :: rest => do
      let (yes, p) ← full outer (live && a != 0) n { p with rest := rest }
      match p.rest with
      | .operator ":" :: rest => do
        let (no, p) ← condition outer (live && a == 0) n { p with rest := rest }
        return (if a != 0 then yes else no, p)
      | _ => .error .expectingColon
    | _ => return (a, p)

/-- Operators that bind more tightly than a bound, behind a first value. -/
def binary (outer : List Char → Except Fault Int) (live : Bool) (least : Nat) (a : Int) :
    Nat → Progress → Except Fault (Int × Progress)
  | 0, _ => .error .expectingPrimary
  | n + 1, p => do
    match p.rest with
    | .operator s :: rest =>
      match power? s with
      | none => return (a, p)
      | some power =>
        if power ≤ least then return (a, p)
        else do
          let needed := live && !(s = "&&" && a = 0) && !(s = "||" && a != 0)
          let (b, p) ← unary outer needed n { p with rest := rest }
          let (b, p) ← binary outer needed power b n p
          binary outer live least (← applied live s a b) n p
    | _ => return (a, p)

/-- A value with the operators in front of it. -/
def unary (outer : List Char → Except Fault Int) (live : Bool) :
    Nat → Progress → Except Fault (Int × Progress)
  | 0, _ => .error .expectingPrimary
  | n + 1, p => do
    match p.rest with
    | .number v :: rest => return (v, { p with rest := rest })
    | .name name :: rest => return (← p.value outer name, { p with rest := rest })
    | .operator "-" :: rest => do
      let (v, p) ← unary outer live n { p with rest := rest }
      return (wrap (-v), p)
    | .operator "+" :: rest => unary outer live n { p with rest := rest }
    | .operator "!" :: rest => do
      let (v, p) ← unary outer live n { p with rest := rest }
      return (truth (v == 0), p)
    | .operator "~" :: rest => do
      let (v, p) ← unary outer live n { p with rest := rest }
      return (-v - 1, p)
    | .operator "(" :: rest => do
      let (v, p) ← full outer live n { p with rest := rest }
      match p.rest with
      | .operator ")" :: rest => return (v, { p with rest := rest })
      | _ => .error .expectingBracket
    | _ => .error .expectingPrimary

end

/-- The value of an expression, and the new values of names, the last first. -/
def evaluate (outer : List Char → Except Fault Int) (cs : List Char) :
    Except Fault (Int × List (List Char × Int)) := do
  let ts := tokens (cs.length + 1) cs
  let (v, p) ← full outer true (8 * ts.length + 8) ⟨ts, []⟩
  if p.rest.isEmpty then .ok (v, p.values) else .error .expectingEnd

end VolumeNode.Shell.Arithmetic
