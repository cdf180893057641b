import VolumeNode.Decimal.Shortest

/-!
# Numbers of a JSON text

A number without fraction and exponent is kept as it is while it fits into 64 bits, with or without
a sign; every other number, and `-0`, becomes a binary64 value.
-/

namespace VolumeNode

open Decimal

namespace Json

/-- A number as the reader keeps it. -/
inductive Number where
  /-- A whole number of at least zero, below 2 ^ 64. -/
  | natural (n : Nat)
  /-- The whole number `-n`, `n` being at least one and at most 2 ^ 63. -/
  | negative (n : Nat)
  /-- A binary64 value: whether it has a minus sign, and its magnitude. -/
  | float (minus : Bool) (magnitude : Binary64)
  deriving Repr, DecidableEq

namespace Number

/-- The largest whole number that is kept. -/
def limit : Nat :=
  0xFFFFFFFFFFFFFFFF

/-- The binary64 value of 10 ^ `k`, for `k` up to 308. -/
def powerOfTen (k : Nat) : Binary64 :=
  (Binary64.ofNat? (Nat.pow 10 k)).getD ⟨0⟩

/-- A magnitude divided by 10 ^ `k`, by at most 10 ^ 308 at a time and rounded each time. -/
def shrink (m : Binary64) (k : Nat) : Option Binary64 :=
  if k ≤ 308 then m.div? (powerOfTen k)
  else if m.units = 0 then some m
  else do shrink (← m.div? (powerOfTen 308)) (k - 308)
termination_by k

/-- The magnitude that `significand` · 10 ^ `exponent` is read as: the significand is rounded, then
the product or quotient with a rounded power of ten. `none` when it is too large. -/
def ofDecimal? (significand : Nat) (exponent : Int) : Option Binary64 := do
  let m ← Binary64.ofNat? significand
  if exponent < 0 then shrink m exponent.natAbs
  else if exponent ≤ 308 then m.mul? (powerOfTen exponent.natAbs)
  else if m.units = 0 then some m
  else none

/-- A whole number below 2 ^ 64 with its sign. -/
def ofInteger (minus : Bool) (n : Nat) : Number :=
  if !minus then .natural n
  else if 0 < n ∧ n ≤ 0x8000000000000000 then .negative n
  else .float true ((Binary64.ofNat? n).getD ⟨0⟩)

/-- The digits of a binary64 value: positional while the leading digit stands for 10 ^ -4 up to
10 ^ 15, always with a point; else with an exponent that has a sign and at least two digits. -/
def floatText (minus : Bool) (magnitude : Binary64) : String :=
  let body :=
    if magnitude.units = 0 then ['0', '.', '0']
    else
      let s := magnitude.shortest
      let digits := s.digits
      let k := s.leading
      if 0 ≤ k ∧ k ≤ 15 then
        let whole := digits.take (k.toNat + 1)
        let rest := digits.drop (k.toNat + 1)
        whole ++ List.replicate (k.toNat + 1 - whole.length) '0' ++ ['.']
          ++ (if rest.isEmpty then ['0'] else rest)
      else if -4 ≤ k ∧ k < 0 then
        ['0', '.'] ++ List.replicate (k.natAbs - 1) '0' ++ digits
      else
        let power := Nat.toDigits 10 k.natAbs
        digits.take 1 ++ (if digits.length = 1 then [] else '.' :: digits.drop 1)
          ++ ['e', if k < 0 then '-' else '+']
          ++ (if power.length = 1 then '0' :: power else power)
  String.ofList (if minus then '-' :: body else body)

end Number

end Json

end VolumeNode
