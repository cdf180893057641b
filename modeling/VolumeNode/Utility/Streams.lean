import VolumeNode.Utility.Basic
import VolumeNode.Utility.Format

/-!
# Programs that pass octets on

Programs that copy, cut, count, translate and make octets, and one that only waits. Main statement:
`firstLines_eq`: what is kept of a text is its first lines.
-/

namespace VolumeNode.Utility

open Execution

/-- The program that copies files, one after the other. -/
def cat (paths : List String) : Part ExitStatus :=
  let copy (path : String) : Part Bool := do
    match ← openInput path with
    | .error e => do
      complain ("cat: " ++ path ++ ": " ++ e.wording ++ "\n")
      pure false
    | .ok fd =>
      match ← passOn fd patience with
      | .ok () => pure true
      | .error e => do
        complain ("cat: " ++ (if e = .badDescriptor then "write error" else path) ++ ": "
          ++ e.wording ++ "\n")
        pure false
  let rec all : List String → Bool → Part ExitStatus
    | [], ok => exit (if ok then 0 else 1)
    | path :: rest, ok => do all rest ((← copy path) && ok)
  all (if paths.isEmpty then ["-"] else paths) true

/-- What a program that cuts is asked for. -/
structure Cut where
  octets : Bool := false
  count : Nat := 10
  paths : List String := []

/-- The options of a program that cuts. -/
def Cut.parse (c : Cut) : List String → Option Cut
  | [] => some c
  | "-c" :: n :: rest => do ({ c with octets := true, count := ← number? n } : Cut).parse rest
  | "-n" :: n :: rest => do ({ c with octets := false, count := ← number? n } : Cut).parse rest
  | word :: rest =>
    match word.toList with
    | '-' :: 'c' :: n => do
      ({ c with octets := true, count := ← number? (String.ofList n) } : Cut).parse rest
    | '-' :: 'n' :: n => do
      ({ c with octets := false, count := ← number? (String.ofList n) } : Cut).parse rest
    | '-' :: d :: n => do
      ({ c with octets := false, count := ← number? (String.ofList (d :: n)) } : Cut).parse rest
    | _ => ({ c with paths := c.paths ++ [word] } : Cut).parse rest

/-- The first lines, so many of them, and how many are still missing. -/
def firstLines : Nat → List Char → List Char × Nat
  | 0, _ => ([], 0)
  | n, [] => ([], n)
  | n + 1, c :: rest =>
    let (front, left) := firstLines (if c = '\n' then n else n + 1) rest
    (c :: front, left)

/-- Passes the first octets or lines on. -/
def passFirst (octets : Bool) (fd : Nat) : Nat → Nat → Part (Except Errno Unit)
  | 0, _ => .done (.ok ())
  | _, 0 => .done (.ok ())
  | n + 1, count + 1 => do
    match ← read fd (if octets then min (count + 1) blockSize else blockSize) with
    | .error e => .done (.error e)
    | .ok [] => .done (.ok ())
    | .ok cs =>
      let (front, left) := if octets then (cs, count + 1 - cs.length) else firstLines (count + 1) cs
      match ← write 1 front with
      | .error e => .done (.error e)
      | .ok () => passFirst octets fd n left

/-- The program that keeps the front. -/
def head (arguments : List String) : Part ExitStatus :=
  match ({} : Cut).parse arguments with
  | none => usage "head" "invalid number"
  | some c => do
    let path := c.paths.headD "-"
    match ← openInput path with
    | .error e => do
      complain ("head: cannot open '" ++ path ++ "' for reading: " ++ e.wording ++ "\n")
      exit 1
    | .ok fd =>
      match ← passFirst c.octets fd patience c.count with
      | .ok () => exit 0
      | .error e => do
        complain ("head: error reading '" ++ path ++ "': " ++ e.wording ++ "\n")
        exit 1

/-- The last lines, so many of them. -/
def lastLines (count : Nat) (cs : List Char) : List Char :=
  let back := cs.reverse
  let (last, back) := match back with
    | '\n' :: rest => (['\n'], rest)
    | _ => ([], back)
  let (front, left) := firstLines count back
  let front := if left = 0 && front.getLast? = some '\n' then front.dropLast else front
  (last ++ front).reverse

/-- The program that keeps the back. -/
def tail (arguments : List String) : Part ExitStatus :=
  match ({} : Cut).parse arguments with
  | none => usage "tail" "invalid number"
  | some c => do
    let path := c.paths.headD "-"
    match ← openInput path with
    | .error e => do
      complain ("tail: cannot open '" ++ path ++ "' for reading: " ++ e.wording ++ "\n")
      exit 1
    | .ok fd =>
      match ← readAll fd patience [] with
      | .error e => do
        complain ("tail: error reading '" ++ path ++ "': " ++ e.wording ++ "\n")
        exit 1
      | .ok cs =>
        if c.count = 0 then exit 0
        else answer "tail" (if c.octets then cs.drop (cs.length - c.count) else lastLines c.count cs)

/-- The octets between two others, both included. -/
def range (a b : Char) : List Char :=
  (List.range (b.toNat + 1 - a.toNat)).map fun i => Char.ofNat (a.toNat + i)

/-- The octets of a class. -/
def classOf (name : List Char) : List Char :=
  match String.ofList name with
  | "upper" => range 'A' 'Z'
  | "lower" => range 'a' 'z'
  | "digit" => range '0' '9'
  | "alpha" => range 'A' 'Z' ++ range 'a' 'z'
  | "alnum" => range '0' '9' ++ range 'A' 'Z' ++ range 'a' 'z'
  | "space" => range '\t' '\r' ++ [' ']
  | "blank" => ['\t', ' ']
  | _ => []

/-- The octets of a set. The number bounds the length of its text. -/
def octetSet : Nat → List Char → List Char
  | 0, _ => []
  | _ + 1, [] => []
  | n + 1, '[' :: ':' :: rest =>
    classOf (rest.takeWhile (· != ':')) ++ octetSet n ((rest.dropWhile (· != ':')).drop 2)
  | n + 1, cs =>
    let (c, rest) := match cs with
      | '\\' :: rest => Format.escape rest
      | c :: rest => (c, rest)
      | [] => ('\\', [])
    match rest with
    | '-' :: d :: rest =>
      let (d, rest) := if d = '\\' then Format.escape rest else (d, rest)
      range c d ++ octetSet n rest
    | _ => c :: octetSet n rest

/-- Octets replaced by those in the same places of another set, whose last one is repeated. -/
def translate (source target : List Char) (cs : List Char) : List Char :=
  let replacement (c : Char) : Char :=
    match source.idxOf? c with
    | none => c
    | some i => (target[i]?).getD (target.getLast?.getD c)
  cs.map replacement

/-- Octets of a set that stand in a row are one. -/
def squeeze (set : List Char) : List Char → List Char
  | c :: d :: rest => if c = d && set.contains c then squeeze set (d :: rest) else c :: squeeze set (d :: rest)
  | cs => cs

/-- Passes octets on, block by block, after a change. -/
def passChanged (f : List Char → List Char) : Nat → Part (Except Errno Unit)
  | 0 => .done (.ok ())
  | n + 1 => do
    match ← read 0 blockSize with
    | .error e => .done (.error e)
    | .ok [] => .done (.ok ())
    | .ok cs =>
      match ← write 1 (f cs) with
      | .error e => .done (.error e)
      | .ok () => passChanged f n

/-- The program that translates octets. -/
def tr (arguments : List String) : Part ExitStatus := do
  let isOption (a : String) : Bool := a.startsWith "-" && a.length > 1
  let letters := (arguments.takeWhile isOption).flatMap fun a => a.toList.drop 1
  let sets := (arguments.dropWhile isOption).map fun a =>
    let cs := Text.octetsOf a
    octetSet (cs.length + 1) cs
  let complement (set : List Char) : List Char :=
    if letters.contains 'c' || letters.contains 'C' then
      (range '\x00' '\xff').filter fun c => !set.contains c
    else set
  let change? : Option (List Char → List Char) :=
    match sets with
    | [one] =>
      let one := complement one
      if letters.contains 'd' then some fun cs => cs.filter fun c => !one.contains c
      else if letters.contains 's' then some (squeeze one)
      else none
    | [one, two] =>
      let one := complement one
      if letters.contains 'd' then
        some fun cs => squeeze two (cs.filter fun c => !one.contains c)
      else if letters.contains 's' then some fun cs => squeeze two (translate one two cs)
      else some (translate one two)
    | _ => none
  match change? with
  | none => usage "tr" "missing operand"
  | some f =>
    match ← passChanged f patience with
    | .ok () => exit 0
    | .error e => do
      complain ("tr: write error: " ++ e.wording ++ "\n")
      exit 1

/-- The number of words. -/
def words : Bool → List Char → Nat
  | _, [] => 0
  | inside, c :: rest =>
    let blank := c = ' ' || ('\t' ≤ c && c ≤ '\r')
    (if !blank && !inside then 1 else 0) + words (!blank) rest

/-- A number filled up with blanks on the left. -/
def rightAligned (width n : Nat) : String :=
  let digits := toString n
  String.ofList (List.replicate (width - digits.length) ' ') ++ digits

/-- The program that counts. -/
def wc (arguments : List String) : Part ExitStatus := do
  let letters := (arguments.filter (·.startsWith "-")).flatMap fun a => a.toList.drop 1
  let paths := arguments.filter fun a => !a.startsWith "-"
  let path := paths.headD "-"
  match ← openInput path with
  | .error e => do
    complain ("wc: " ++ path ++ ": " ++ e.wording ++ "\n")
    exit 1
  | .ok fd =>
    match ← readAll fd patience [] with
    | .error e => do
      complain ("wc: " ++ path ++ ": " ++ e.wording ++ "\n")
      exit 1
    | .ok cs =>
      let all := letters.isEmpty
      let counts := (if all || letters.contains 'l' then [cs.count '\n'] else [])
        ++ (if all || letters.contains 'w' then [words false cs] else [])
        ++ (if all || letters.contains 'c' || letters.contains 'm' then [cs.length] else [])
      let width :=
        if counts.length ≤ 1 then 0
        else if paths.isEmpty then 7
        else (toString cs.length).length
      let line := " ".intercalate (counts.map (rightAligned width) ++ paths)
      answer "wc" (Text.octetsOf (line ++ "\n"))

/-- The program that repeats a line. -/
def yes (arguments : List String) : Part ExitStatus :=
  let line := Text.octetsOf ((if arguments.isEmpty then "y" else " ".intercalate arguments) ++ "\n")
  let block := (List.replicate (8192 / line.length + 1) line).flatten
  let rec go : Nat → Part ExitStatus
    | 0 => exit 1
    | n + 1 => do
      match ← write 1 block with
      | .ok () => go n
      | .error e => do
        complain ("yes: standard output: " ++ e.wording ++ "\n")
        exit 1
  go patience

/-- The program that counts up. -/
def seq (arguments : List String) : Part ExitStatus :=
  let bounds : Option (Int × Int × Int) :=
    match arguments.map String.toInt? with
    | [some b] => some (1, 1, b)
    | [some a, some b] => some (a, 1, b)
    | [some a, some s, some b] => some (a, s, b)
    | _ => none
  match bounds with
  | none => usage "seq" "invalid floating point argument"
  | some (a, s, b) =>
    let count := if s = 0 then 0 else if (b - a) / s < 0 then 0 else ((b - a) / s).toNat + 1
    answer "seq" ((List.range count).flatMap fun (i : Nat) =>
      (toString (a + s * (i : Int))).toList ++ ['\n'])

/-- The nanoseconds of a time in seconds, or in the unit that is named. -/
def nanos? (s : String) : Option Nat :=
  let cs := s.toList
  let (unit, cs) := match cs.getLast? with
    | some 's' => (1, cs.dropLast)
    | some 'm' => (60, cs.dropLast)
    | some 'h' => (3600, cs.dropLast)
    | some 'd' => (86400, cs.dropLast)
    | _ => (1, cs)
  let whole := cs.takeWhile (· != '.')
  let places := (cs.dropWhile (· != '.')).drop 1
  if (whole ++ places).isEmpty || !(whole ++ places).all Char.isDigit then none
  else
    let value (ds : List Char) : Nat := ds.foldl (fun n c => n * 10 + (c.toNat - 0x30)) 0
    let nine := (places ++ List.replicate 9 '0').take 9
    some ((value whole * 1000000000 + value nine) * unit)

/-- The program that waits. -/
def sleep (arguments : List String) : Part ExitStatus :=
  if arguments.isEmpty then usage "sleep" "missing operand"
  else
    match arguments.find? fun a => (nanos? a).isNone && a != "infinity" with
    | some a => usage "sleep" ("invalid time interval '" ++ a ++ "'")
    | none => do
      let nanos := arguments.map nanos?
      let total := (nanos.filterMap id).foldl (· + ·) 0
      (Query.sleep (if nanos.all Option.isSome then some total else none)).take
      exit 0

/-- The program that writes its arguments. -/
def echo (arguments : List String) : Part ExitStatus :=
  let isOption (a : String) : Bool :=
    a.startsWith "-" && a.length > 1 && (a.toList.drop 1).all fun c => c = 'n' || c = 'e' || c = 'E'
  let letters := (arguments.takeWhile isOption).flatMap fun a => a.toList.drop 1
  let text := Text.octetsOf (" ".intercalate (arguments.dropWhile isOption))
  let (text, stopped) := if letters.contains 'e' then Format.unescaped text else (text, false)
  answer "echo" (text ++ if letters.contains 'n' || stopped then [] else ['\n'])

/-- The program that writes its arguments in a format. -/
def printf : List String → Part ExitStatus
  | [] => usage "printf" "missing operand"
  | f :: arguments => do
    let r := Format.format (Text.octetsOf f) (arguments.map Text.octetsOf)
    r.problems.forM fun p => complain ("printf: " ++ p ++ "\n")
    let s ← answer "printf" r.output
    if r.problems.isEmpty then pure s else exit 1

/-- What is kept is a front of the text: so many lines have ended there, or it is the whole text. -/
theorem firstLines_eq (n : Nat) (cs : List Char) :
    ∃ back, cs = (firstLines n cs).1 ++ back ∧
      (firstLines n cs).1.count '\n' + (firstLines n cs).2 = n ∧
      ((firstLines n cs).2 = 0 ∨ back = []) := by
  induction cs generalizing n with
  | nil => cases n <;> simp [firstLines]
  | cons c cs ih =>
    cases n with
    | zero => exact ⟨c :: cs, rfl, rfl, .inl rfl⟩
    | succ n =>
      obtain ⟨back, h1, h2, h3⟩ := ih (if c = '\n' then n else n + 1)
      refine ⟨back, congrArg (c :: ·) h1, ?_, h3⟩
      rw [firstLines, List.count_cons]
      by_cases hc : c = '\n'
      · simp only [hc, if_true, beq_self_eq_true] at h2 ⊢
        omega
      · simp only [hc, if_false, beq_iff_eq] at h2 ⊢
        omega

end VolumeNode.Utility
