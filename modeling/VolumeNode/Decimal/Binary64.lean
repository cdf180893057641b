/-!
# Finite binary64 magnitudes

A magnitude of the binary64 format is a whole number of the least positive one, 2 ^ -1074. Sums are not
needed; products and quotients are rounded to the nearest magnitude, halves to the even one.
-/

namespace VolumeNode.Decimal

/-- A magnitude, counted in units of 2 ^ -1074. -/
structure Binary64 where
  units : Nat
  deriving Repr, DecidableEq

/-- How many units make one. -/
def unitsPerOne : Nat :=
  1 <<< 1074

namespace Binary64

/-- The nearest whole number to `num / den`; of two equally near the even one. -/
def roundDiv (num den : Nat) : Nat :=
  let q := num / den
  let r := num % den
  if 2 * r < den then q
  else if den < 2 * r then q + 1
  else if q % 2 = 0 then q else q + 1

/-- The distance between neighbours of the format at a magnitude of `n` units: 53 bits are kept. -/
def spacing (n : Nat) : Nat :=
  1 <<< (n.log2 - 52)

/-- The format's value for `num / den` units. -/
def round (num den : Nat) : Nat :=
  let s := spacing (num / den)
  roundDiv num (den * s) * s

/-- The magnitude of so many units, unless the format has none so large: it ends below 2 ^ 1024. -/
def ofUnits? (units : Nat) : Option Binary64 :=
  if units < unitsPerOne <<< 1024 then some ⟨units⟩ else none

/-- The magnitude nearest to a whole number. -/
def ofNat? (n : Nat) : Option Binary64 :=
  ofUnits? (round (n * unitsPerOne) 1)

/-- The rounded product. -/
def mul? (a b : Binary64) : Option Binary64 :=
  ofUnits? (round (a.units * b.units) unitsPerOne)

/-- The rounded quotient. -/
def div? (a b : Binary64) : Option Binary64 :=
  ofUnits? (round (a.units * unitsPerOne) b.units)

end Binary64

end VolumeNode.Decimal
