/-!
# Durations

A duration is a count of seconds and nanoseconds. Its text uses the largest unit of which it has at
least one, with as many decimal places as needed.
-/

namespace VolumeNode

/-- So many seconds and, below a second, nanoseconds. -/
structure Duration where
  seconds : Nat
  nanos : Nat
  deriving DecidableEq, Repr, Inhabited

namespace Duration

/-- No time at all. -/
def zero : Duration :=
  ⟨0, 0⟩

/-- The length in nanoseconds. -/
def totalNanos (d : Duration) : Nat :=
  d.seconds * 1000000000 + d.nanos

/-- Whether the duration is zero. -/
def isZero (d : Duration) : Bool :=
  d.seconds == 0 && d.nanos == 0

/-- The decimal places of `n` / 10 ^ `places` behind its point, without the zeros at their end. -/
def places (places n : Nat) : List Char :=
  let digits := Nat.toDigits 10 n
  ((List.replicate (places - digits.length) '0' ++ digits).reverse.dropWhile (· == '0')).reverse

/-- A count of a unit with its decimal places. -/
def inUnit (whole width rest : Nat) (unit : String) : String :=
  let fraction := places width rest
  toString whole ++ (if fraction.isEmpty then "" else "." ++ String.ofList fraction) ++ unit

/-- The text of a duration. -/
def text (d : Duration) : String :=
  if 0 < d.seconds then inUnit d.seconds 9 d.nanos "s"
  else if 1000000 ≤ d.nanos then inUnit (d.nanos / 1000000) 6 (d.nanos % 1000000) "ms"
  else if 1000 ≤ d.nanos then inUnit (d.nanos / 1000) 3 (d.nanos % 1000) "µs"
  else toString d.nanos ++ "ns"

/-- A limit of zero is no limit. -/
def asLimit (d : Duration) : Option Duration :=
  if d.isZero then none else some d

end Duration

end VolumeNode
