import VolumeNode.Text.Octets

/-!
# Formatted output

A format is text with escapes and conversions; it is used again as long as arguments are left. An
argument that is missing is empty, or zero. Main statement: `width_le_length_convert`: a conversion
fills its width.
-/

namespace VolumeNode.Utility.Format

/-- The value of an octal digit. -/
def octal? (c : Char) : Option Nat :=
  if '0' ≤ c && c ≤ '7' then some (c.toNat - 0x30) else none

/-- The value of at most so many octal digits, and what stands behind them. -/
def octalValue : Nat → Nat → List Char → Nat × List Char
  | 0, n, cs => (n, cs)
  | _ + 1, n, [] => (n, [])
  | k + 1, n, c :: rest =>
    match octal? c with
    | some d => octalValue k (n * 8 + d) rest
    | none => (n, c :: rest)

/-- The character that a backslash makes of what stands behind it, and what is left. -/
def escape : List Char → Char × List Char
  | '\\' :: rest => ('\\', rest)
  | 'a' :: rest => ('\x07', rest)
  | 'b' :: rest => ('\x08', rest)
  | 'e' :: rest => ('\x1b', rest)
  | 'f' :: rest => ('\x0c', rest)
  | 'n' :: rest => ('\n', rest)
  | 'r' :: rest => ('\r', rest)
  | 't' :: rest => ('\t', rest)
  | 'v' :: rest => ('\x0b', rest)
  | cs =>
    match cs with
    | c :: _ =>
      if (octal? c).isSome then
        let (n, rest) := octalValue 3 0 cs
        (Char.ofNat (n % 256), rest)
      else ('\\', cs)
    | [] => ('\\', [])

/-- A text with its escapes replaced, and whether it asks for an end of all output. Octal digits may
have a zero more in front. The number bounds the length of the text. -/
def unescape : Nat → List Char → List Char × Bool
  | 0, _ => ([], false)
  | _ + 1, [] => ([], false)
  | _ + 1, '\\' :: 'c' :: _ => ([], true)
  | n + 1, '\\' :: cs =>
    let body := match cs with
      | '0' :: d :: rest => if (octal? d).isSome then d :: rest else cs
      | _ => cs
    let (c, rest) := escape body
    let (tail, stop) := unescape n rest
    (c :: tail, stop)
  | n + 1, c :: cs =>
    let (tail, stop) := unescape n cs
    (c :: tail, stop)

/-- A text with its escapes replaced. -/
def unescaped (cs : List Char) : List Char × Bool :=
  unescape (cs.length + 1) cs

/-- How a conversion is written. -/
structure Spec where
  left : Bool := false
  zero : Bool := false
  plus : Bool := false
  blank : Bool := false
  alternate : Bool := false
  width : Option Nat := none
  precision : Option Nat := none
  /-- Whether an argument gives the width. -/
  asksWidth : Bool := false
  /-- Whether an argument gives the precision. -/
  asksPrecision : Bool := false
  deriving DecidableEq, Repr, Inhabited

/-- A piece of a format. -/
inductive Piece where
  | octet (c : Char)
  | conversion (s : Spec) (letter : Char)
  /-- The format ends within a conversion. -/
  | unfinished
  deriving DecidableEq, Repr

/-- The flags of a conversion, and what stands behind them. -/
def flags (s : Spec) : List Char → Spec × List Char
  | '-' :: rest => flags { s with left := true } rest
  | '0' :: rest => flags { s with zero := true } rest
  | '+' :: rest => flags { s with plus := true } rest
  | ' ' :: rest => flags { s with blank := true } rest
  | '#' :: rest => flags { s with alternate := true } rest
  | cs => (s, cs)

/-- The value of leading digits if there are any, and what stands behind them. -/
def digits (cs : List Char) : Option Nat × List Char :=
  let ds := cs.takeWhile Char.isDigit
  (if ds.isEmpty then none else some (ds.foldl (fun n c => n * 10 + (c.toNat - 0x30)) 0),
    cs.dropWhile Char.isDigit)

/-- A conversion and what stands behind it, given what stands behind the percent sign. -/
def conversion (cs : List Char) : Piece × List Char :=
  let (s, cs) := flags {} cs
  let (s, cs) := match cs with
    | '*' :: rest => ({ s with asksWidth := true }, rest)
    | _ => ({ s with width := (digits cs).1 }, (digits cs).2)
  let (s, cs) := match cs with
    | '.' :: '*' :: rest => ({ s with asksPrecision := true }, rest)
    | '.' :: rest => ({ s with precision := some ((digits rest).1.getD 0) }, (digits rest).2)
    | _ => (s, cs)
  match cs with
  | [] => (.unfinished, [])
  | letter :: rest => (.conversion s letter, rest)

/-- The pieces of a format. The number bounds its length. -/
def pieces : Nat → List Char → List Piece
  | 0, _ => []
  | _ + 1, [] => []
  | n + 1, '%' :: '%' :: rest => .octet '%' :: pieces n rest
  | n + 1, '%' :: cs =>
    let (p, rest) := conversion cs
    p :: pieces n rest
  | n + 1, '\\' :: cs =>
    let (c, rest) := escape cs
    .octet c :: pieces n rest
  | n + 1, c :: cs => .octet c :: pieces n cs

/-- Characters filled up to a width. -/
def pad (s : Spec) (cs : List Char) : List Char :=
  let fill := List.replicate (s.width.getD 0 - cs.length) ' '
  if s.left then cs ++ fill else fill ++ cs

/-- The value of a digit in any base up to sixteen. -/
def digit? (c : Char) : Option Nat :=
  if '0' ≤ c && c ≤ '9' then some (c.toNat - 0x30)
  else if 'a' ≤ c && c ≤ 'f' then some (c.toNat - 0x57)
  else if 'A' ≤ c && c ≤ 'F' then some (c.toNat - 0x37)
  else none

/-- The value of the leading digits of a base, and what stands behind them. -/
def inBase (base : Nat) (cs : List Char) : Nat × List Char :=
  let isDigit (c : Char) : Bool := (digit? c).any (· < base)
  ((cs.takeWhile isDigit).foldl (fun n c => n * base + (digit? c).getD 0) 0, cs.dropWhile isDigit)

/-- The value of a number, and what stands behind it. A quote stands for the octet behind it. -/
def number (cs : List Char) : Int × List Char :=
  let magnitude : List Char → Nat × List Char
    | '0' :: 'x' :: rest => inBase 16 rest
    | '0' :: 'X' :: rest => inBase 16 rest
    | '0' :: rest => inBase 8 rest
    | rest => inBase 10 rest
  match cs with
  | '\'' :: c :: _ | '"' :: c :: _ => (c.toNat, [])
  | '-' :: rest =>
    let (n, rest) := magnitude rest
    (-n, rest)
  | '+' :: rest =>
    let (n, rest) := magnitude rest
    (n, rest)
  | rest =>
    let (n, rest) := magnitude rest
    (n, rest)

/-- The digits of a number in a base. -/
def digitsOf (base : Nat) (upper : Bool) (n : Nat) : List Char :=
  let ds := Nat.toDigits base n
  if upper then ds.map Char.toUpper else ds

/-- A number as a conversion writes it. -/
def writeNumber (s : Spec) (sign : List Char) (ds : List Char) : List Char :=
  let ds := List.replicate (s.precision.getD 1 - ds.length) '0' ++ ds
  if s.zero && !s.left && s.precision.isNone then
    sign ++ List.replicate (s.width.getD 0 - sign.length - ds.length) '0' ++ ds
  else pad s (sign ++ ds)

/-- Numbers without a sign wrap here. -/
def wordSize : Int :=
  0x10000000000000000

/-- A converted argument, what is wrong with it, and whether all output ends with it. -/
def convert (s : Spec) (letter : Char) (argument : List Char) : List Char × Option String × Bool :=
  let cut (cs : List Char) : List Char := match s.precision with
    | some p => cs.take p
    | none => cs
  let (n, rest) := number argument
  let problem (fits : Bool) : Option String :=
    if argument.isEmpty then none
    else if rest.length = argument.length then
      some (Text.textOf argument ++ ": expected numeric value")
    else if !rest.isEmpty then some (Text.textOf argument ++ ": not completely converted")
    else if fits then none
    else some (Text.textOf argument ++ ": Numerical result out of range")
  let signed := max (-0x8000000000000000) (min n 0x7FFFFFFFFFFFFFFF)
  let fitsUnsigned : Bool := n.natAbs < wordSize
  let unsigned := if fitsUnsigned then (n % wordSize).toNat else 0xFFFFFFFFFFFFFFFF
  let problem := if letter = 'd' || letter = 'i' then problem (n == signed) else problem fitsUnsigned
  match letter with
  | 's' => (pad s (cut argument), none, false)
  | 'b' =>
    let (cs, stop) := unescaped argument
    (pad s (cut cs), none, stop)
  | 'c' => (pad s (argument.take 1), none, false)
  | 'd' | 'i' =>
    let sign := if n < 0 then ['-'] else if s.plus then ['+'] else if s.blank then [' '] else []
    (writeNumber s sign (digitsOf 10 false signed.natAbs), problem, false)
  | 'u' => (writeNumber s [] (digitsOf 10 false unsigned), problem, false)
  | 'o' =>
    (writeNumber s (if s.alternate then ['0'] else []) (digitsOf 8 false unsigned), problem, false)
  | 'x' =>
    (writeNumber s (if s.alternate then ['0', 'x'] else []) (digitsOf 16 false unsigned), problem,
      false)
  | 'X' =>
    (writeNumber s (if s.alternate then ['0', 'X'] else []) (digitsOf 16 true unsigned), problem,
      false)
  | _ => ([], none, true)

/-- What was written, what was wrong, and what is left of the arguments. -/
structure Result where
  output : List Char := []
  problems : List String := []
  arguments : List (List Char)
  stopped : Bool := false
  /-- Whether the format itself is wrong. -/
  refused : Bool := false

/-- The number that the next argument gives. -/
def Result.takeNumber (r : Result) : Int × Result :=
  ((number (r.arguments.headD [])).1, { r with arguments := r.arguments.drop 1 })

/-- The letters of the conversions. -/
def letters : List Char :=
  ['s', 'b', 'c', 'd', 'i', 'u', 'o', 'x', 'X']

/-- Uses the pieces of a format once. -/
def once : List Piece → Result → Result
  | [], r => r
  | .octet c :: rest, r => once rest { r with output := r.output ++ [c] }
  | .unfinished :: _, r =>
    { r with problems := r.problems ++ ["missing format character"], stopped := true, refused := true }
  | .conversion s letter :: rest, r =>
    let (s, r) :=
      if s.asksWidth then
        let (n, r) := r.takeNumber
        ({ s with width := some n.natAbs, left := s.left || n < 0 }, r)
      else (s, r)
    let (s, r) :=
      if s.asksPrecision then
        let (n, r) := r.takeNumber
        ({ s with precision := if n < 0 then none else some n.natAbs }, r)
      else (s, r)
    if !letters.contains letter then
      { r with
        problems := r.problems ++ ["%" ++ String.ofList [letter] ++ ": invalid directive"]
        stopped := true
        refused := true }
    else
      let (cs, problem, stop) := convert s letter (r.arguments.headD [])
      let r := { r with
        output := r.output ++ cs
        problems := r.problems ++ problem.toList
        arguments := r.arguments.drop 1
        stopped := stop }
      if stop then r else once rest r

/-- Uses a format as long as arguments are left. -/
def again (ps : List Piece) : Nat → Result → Result
  | 0, r => r
  | n + 1, r =>
    let next := once ps r
    if next.stopped || next.arguments.isEmpty || next.arguments.length = r.arguments.length then next
    else again ps n next

/-- What a format makes of arguments. -/
def format (f : List Char) (arguments : List (List Char)) : Result :=
  again (pieces (f.length + 1) f) (arguments.length + 1) { arguments := arguments }

theorem length_pad (s : Spec) (cs : List Char) :
    (pad s cs).length = max (s.width.getD 0) cs.length := by
  unfold pad
  dsimp only
  split <;> simp only [List.length_append, List.length_replicate] <;> omega

theorem width_le_length_writeNumber (s : Spec) (sign ds : List Char) :
    s.width.getD 0 ≤ (writeNumber s sign ds).length := by
  unfold writeNumber
  dsimp only
  split
  · simp only [List.length_append, List.length_replicate]
    omega
  · rw [length_pad]
    exact Nat.le_max_left ..

/-- What a conversion writes fills its width. -/
theorem width_le_length_convert (s : Spec) {letter : Char} (argument : List Char)
    (h : letter ∈ letters) : s.width.getD 0 ≤ (convert s letter argument).1.length := by
  have hpad (cs : List Char) : s.width.getD 0 ≤ (pad s cs).length := by
    rw [length_pad]
    exact Nat.le_max_left ..
  simp only [letters, List.mem_cons, List.not_mem_nil, or_false] at h
  rcases h with rfl | rfl | rfl | rfl | rfl | rfl | rfl | rfl | rfl
  · exact hpad _
  · exact hpad _
  · exact hpad _
  all_goals exact width_le_length_writeNumber ..

end VolumeNode.Utility.Format
