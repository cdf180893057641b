import VolumeNode.Decimal.Binary64

/-!
# The fewest digits that read back

Of all decimals that round to a given binary64 magnitude the shortest is taken, and of the shortest
the nearest. A decimal with `n` digits that rounds to the magnitude exists only if one of the two
neighbours of the magnitude on the grid of `n` digits does, so these two are tried for rising `n`.
Main statement: `shortest_cases`: what is taken rounds to the magnitude, and nothing shorter does.
-/

namespace VolumeNode.Decimal

/-- The decimal `coefficient` · 10 ^ `exponent`. -/
structure Scientific where
  coefficient : Nat
  exponent : Int
  deriving Repr, DecidableEq

namespace Binary64

/-- The exponent of the leading decimal digit of `num / den`. -/
def decimalExponent (num den : Nat) : Int :=
  if den ≤ num then ((Nat.toDigits 10 (num / den)).length : Int) - 1
  else
    let guess := (Nat.toDigits 10 den).length - (Nat.toDigits 10 num).length
    if den ≤ num * Nat.pow 10 guess then -(guess : Int) else -((guess : Int) + 1)

/-- The reals that round to the magnitude, in quarters of a unit, and whether the ends belong to
them: halfway to the neighbours, and the lower neighbour of a power of two is nearer. -/
structure Interval where
  least : Nat
  most : Nat
  closed : Bool
  deriving Repr, DecidableEq

/-- The interval of the magnitude. -/
def interval (b : Binary64) : Interval :=
  let s := spacing b.units
  let below := if b.units = 1 <<< b.units.log2 && 1 < s then s else 2 * s
  ⟨4 * b.units - below, 4 * b.units + 2 * s, b.units / s % 2 == 0⟩

/-- Whether `num / den` quarters lie in the interval. -/
def Interval.holds (i : Interval) (num den : Nat) : Bool :=
  if i.closed then i.least * den ≤ num && num ≤ i.most * den
  else i.least * den < num && num < i.most * den

/-- `c` · 10 ^ `p` in quarters of a unit, as a fraction. -/
def quarters (c : Nat) (p : Int) : Nat × Nat :=
  (c * Nat.pow 10 p.toNat * (4 * unitsPerOne), Nat.pow 10 (-p).toNat)

/-- Whether `c` · 10 ^ `p` rounds to the magnitude. -/
def readBy (b : Binary64) (c : Nat) (p : Int) : Bool :=
  let (num, den) := quarters c p
  b.interval.holds num den

/-- The neighbours of the magnitude among the multiples of 10 ^ `p` that round to it. -/
def candidates (b : Binary64) (p : Int) : List Nat :=
  let c := b.units * Nat.pow 10 (-p).toNat / (unitsPerOne * Nat.pow 10 p.toNat)
  [c, c + 1].filter (b.readBy · p)

/-- Which of two neighbours is nearer; of two equally near the even one. -/
def nearer (b : Binary64) (p : Int) (c d : Nat) : Nat :=
  let sum := (c + d) * Nat.pow 10 p.toNat * unitsPerOne
  let twice := 2 * b.units * Nat.pow 10 (-p).toNat
  if twice < sum then c else if sum < twice then d else if c % 2 = 0 then c else d

/-- The shortest decimal on the grid of 10 ^ `p`, if any of its points rounds to the magnitude. -/
def onGrid? (b : Binary64) (p : Int) : Option Scientific :=
  match b.candidates p with
  | [] => none
  | [c] => some ⟨c, p⟩
  | c :: d :: _ => some ⟨b.nearer p c d, p⟩

/-- The shortest decimal that rounds to the magnitude; seventeen digits always do. -/
def shortest (b : Binary64) : Scientific :=
  let k := decimalExponent b.units unitsPerOne
  ((List.range 17).findSome? fun (n : Nat) => b.onGrid? (k - n)).getD ⟨0, 0⟩

theorem readBy_of_mem_candidates {b : Binary64} {p : Int} {c : Nat} (h : c ∈ b.candidates p) :
    b.readBy c p = true :=
  (List.mem_filter.1 h).2

theorem nearer_eq_or (b : Binary64) (p : Int) (c d : Nat) :
    b.nearer p c d = c ∨ b.nearer p c d = d := by
  rw [nearer]
  generalize 2 * b.units * Nat.pow 10 (-p).toNat = twice
  generalize (c + d) * Nat.pow 10 p.toNat * unitsPerOne = sum
  by_cases h1 : twice < sum
  · exact .inl (if_pos h1)
  by_cases h2 : sum < twice
  · exact .inr (by simp [h1, h2])
  by_cases h3 : c % 2 = 0
  · exact .inl (by simp [h1, h2, h3])
  · exact .inr (by simp [h1, h2, h3])

/-- What the grid gives rounds to the magnitude. -/
theorem readBy_of_onGrid? {b : Binary64} {p : Int} {s : Scientific} (h : b.onGrid? p = some s) :
    b.readBy s.coefficient s.exponent = true := by
  have hmem := fun c (hc : c ∈ b.candidates p) => readBy_of_mem_candidates hc
  rw [onGrid?] at h
  revert h hmem
  generalize b.candidates p = cs
  intro h hmem
  match cs, h with
  | [c], h =>
    rw [← Option.some.inj h]
    exact hmem c List.mem_cons_self
  | c :: d :: _, h =>
    rw [← Option.some.inj h]
    rcases nearer_eq_or b p c d with hn | hn <;> simp only [hn]
    · exact hmem c List.mem_cons_self
    · exact hmem d (List.mem_cons_of_mem _ List.mem_cons_self)

theorem exponent_of_onGrid? {b : Binary64} {p : Int} {s : Scientific} (h : b.onGrid? p = some s) :
    s.exponent = p := by
  rw [onGrid?] at h
  split at h <;> cases h <;> rfl

theorem onGrid?_eq_none_iff {b : Binary64} {p : Int} : b.onGrid? p = none ↔ b.candidates p = [] := by
  rw [onGrid?]
  split <;> simp_all

/-- What is taken rounds to the magnitude, and no coarser grid has a decimal that does; else no grid up
to the finest one has any. -/
theorem shortest_cases (b : Binary64) :
    (∃ n < 17, b.shortest.exponent = decimalExponent b.units unitsPerOne - (n : Nat) ∧
      b.readBy b.shortest.coefficient b.shortest.exponent = true ∧
      ∀ m < n, b.candidates (decimalExponent b.units unitsPerOne - (m : Nat)) = []) ∨
    ∀ n < 17, b.candidates (decimalExponent b.units unitsPerOne - (n : Nat)) = [] := by
  rw [shortest]
  cases h : (List.range 17).findSome? fun (n : Nat) =>
      b.onGrid? (decimalExponent b.units unitsPerOne - n) with
  | none =>
    refine .inr fun n hn => onGrid?_eq_none_iff.1 ?_
    exact List.findSome?_eq_none_iff.1 h n (List.mem_range.2 hn)
  | some s =>
    obtain ⟨front, n, back, hrange, hs, hfront⟩ := List.findSome?_eq_some_iff.1 h
    have hn : n < 17 := List.mem_range.1 (hrange ▸ by simp)
    refine .inl ⟨n, hn, exponent_of_onGrid? hs, readBy_of_onGrid? hs, fun m hm => ?_⟩
    refine onGrid?_eq_none_iff.1 (hfront m ?_)
    -- the grids are tried in order, so those before this one were tried before it
    have hsorted := List.pairwise_append.1 (hrange ▸ List.pairwise_lt_range (n := 17))
    have hmem : m ∈ front ++ n :: back := hrange ▸ List.mem_range.2 (Nat.lt_trans hm hn)
    rcases List.mem_append.1 hmem with hm' | hm'
    · exact hm'
    · rcases List.mem_cons.1 hm' with rfl | hback
      · exact absurd hm (Nat.lt_irrefl _)
      · have := (List.pairwise_cons.1 hsorted.2.1).1 m hback
        exact absurd hm (Nat.lt_asymm this)

end Binary64

/-- The digits of the coefficient without the zeros at its end. -/
def Scientific.digits (s : Scientific) : List Char :=
  ((Nat.toDigits 10 s.coefficient).reverse.dropWhile (· == '0')).reverse

/-- The exponent of the leading digit. -/
def Scientific.leading (s : Scientific) : Int :=
  s.exponent + (Nat.toDigits 10 s.coefficient).length - 1

end VolumeNode.Decimal
