/-!
# Patterns

A pattern is matched against a whole text: a star stands for any text, a question mark for any
character, and brackets for one of some characters. A quoted character stands for itself. Main
statements:

* `isMatch_append`: two patterns in a row match two texts in a row.
* `isMatch_quoted`: a quoted text matches itself alone.
* `dropFront_eq`: only a match is taken from the front of a text.
-/

namespace VolumeNode.Shell.Pattern

/-- A piece of a pattern. -/
inductive Element where
  | octet (c : Char)
  | one
  | many
  | among (negated : Bool) (ranges : List (Char × Char))
  deriving DecidableEq, Repr

/-- Whether a character is one that brackets stand for. -/
def isAmong (negated : Bool) (ranges : List (Char × Char)) (c : Char) : Bool :=
  (ranges.any fun r => r.1 ≤ c && c ≤ r.2) != negated

/-- Whether a text matches. -/
def isMatch : List Element → List Char → Bool
  | [], cs => cs.isEmpty
  | .octet d :: ps, c :: cs => c = d && isMatch ps cs
  | .one :: ps, _ :: cs => isMatch ps cs
  | .among negated ranges :: ps, c :: cs => isAmong negated ranges c && isMatch ps cs
  | .many :: ps, [] => isMatch ps []
  | .many :: ps, c :: cs => isMatch ps (c :: cs) || isMatch (.many :: ps) cs
  | _ :: _, [] => false
termination_by ps cs => ps.length + cs.length

/-- The ranges in brackets and what stands behind them, given what stands behind the opening one. -/
def ranges (first : Bool) : Nat → List (Char × Bool) → Option (List (Char × Char) × List (Char × Bool))
  | 0, _ => none
  | _ + 1, [] => none
  | n + 1, (c, quoted) :: rest =>
    if c = ']' && !quoted && !first then some ([], rest)
    else
      match rest with
      | ('-', false) :: (d, q) :: rest =>
        if d = ']' && !q then
          (ranges false n (('-', true) :: (d, q) :: rest)).map fun (rs, rest) => ((c, c) :: rs, rest)
        else (ranges false n rest).map fun (rs, rest) => ((c, d) :: rs, rest)
      | _ => (ranges false n rest).map fun (rs, rest) => ((c, c) :: rs, rest)

/-- The pieces of a pattern, each character of which may be quoted. The number bounds its length. -/
def elements : Nat → List (Char × Bool) → List Element
  | 0, _ => []
  | _ + 1, [] => []
  | n + 1, ('*', false) :: rest => .many :: elements n rest
  | n + 1, ('?', false) :: rest => .one :: elements n rest
  | n + 1, ('[', false) :: rest =>
    let (negated, body) := match rest with
      | ('!', false) :: body => (true, body)
      | ('^', false) :: body => (true, body)
      | _ => (false, rest)
    match ranges true (body.length + 1) body with
    | some (rs, rest) => .among negated rs :: elements n rest
    | none => .octet '[' :: elements n rest
  | n + 1, (c, _) :: rest => .octet c :: elements n rest

/-- The pattern of characters that may be quoted. -/
def ofMarked (cs : List (Char × Bool)) : List Element :=
  elements (cs.length + 1) cs

/-- Whether something in a pattern stands for more than itself. -/
def isProper (ps : List Element) : Bool :=
  ps.any fun
    | .octet _ => false
    | _ => true

/-- The lengths of the fronts of a text that match, the shortest first. -/
def frontLengths (ps : List Element) (cs : List Char) : List Nat :=
  (List.range (cs.length + 1)).filter fun n => isMatch ps (cs.take n)

/-- The text without a match at its front. -/
def dropFront (longest : Bool) (ps : List Element) (cs : List Char) : List Char :=
  let lengths := frontLengths ps cs
  cs.drop ((if longest then lengths.getLast? else lengths.head?).getD 0)

/-- The text without a match at its back. -/
def dropBack (longest : Bool) (ps : List Element) (cs : List Char) : List Char :=
  let kept := (List.range (cs.length + 1)).filter fun n => isMatch ps (cs.drop n)
  cs.take ((if longest then kept.head? else kept.getLast?).getD cs.length)

theorem isMatch_nil {cs : List Char} : isMatch [] cs = true ↔ cs = [] := by
  rw [isMatch, List.isEmpty_iff]

theorem isMatch_many_cons {ps : List Element} {cs : List Char} :
    isMatch (.many :: ps) cs = true ↔ ∃ a b, cs = a ++ b ∧ isMatch ps b = true := by
  induction cs with
  | nil =>
    rw [isMatch]
    refine ⟨fun h => ⟨[], [], rfl, h⟩, ?_⟩
    rintro ⟨a, b, hab, h⟩
    exact (List.nil_eq_append_iff.1 hab).2 ▸ h
  | cons c cs ih =>
    rw [isMatch, Bool.or_eq_true, ih]
    constructor
    · rintro (h | ⟨a, b, rfl, h⟩)
      · exact ⟨[], _, rfl, h⟩
      · exact ⟨c :: a, b, rfl, h⟩
    · rintro ⟨a, b, h, hb⟩
      cases a with
      | nil => exact .inl (h ▸ hb)
      | cons d a =>
        cases h
        exact .inr ⟨a, b, rfl, hb⟩

/-- Whether an element stands for one given character. -/
def Element.takes (c : Char) : Element → Bool
  | .octet d => c = d
  | .one => true
  | .many => false
  | .among negated ranges => isAmong negated ranges c

theorem isMatch_cons {p : Element} (hp : p ≠ .many) {ps : List Element} {cs : List Char} :
    isMatch (p :: ps) cs = true ↔
      ∃ c rest, cs = c :: rest ∧ p.takes c = true ∧ isMatch ps rest = true := by
  cases cs with
  | nil => cases p <;> simp_all [isMatch]
  | cons c cs =>
    have : isMatch (p :: ps) (c :: cs) = (p.takes c && isMatch ps cs) := by
      cases p <;> simp_all [isMatch, Element.takes]
    rw [this, Bool.and_eq_true]
    refine ⟨fun h => ⟨c, cs, rfl, h⟩, ?_⟩
    rintro ⟨_, _, ⟨⟩, h⟩
    exact h

/-- A pattern put together from two matches what is put together from a match of each. -/
theorem isMatch_append {ps qs : List Element} {cs : List Char} :
    isMatch (ps ++ qs) cs = true ↔
      ∃ a b, cs = a ++ b ∧ isMatch ps a = true ∧ isMatch qs b = true := by
  induction ps generalizing cs with
  | nil =>
    refine ⟨fun h => ⟨[], cs, rfl, isMatch_nil.2 rfl, h⟩, ?_⟩
    rintro ⟨_, b, rfl, ha, hb⟩
    rwa [isMatch_nil.1 ha]
  | cons p ps ih =>
    rw [List.cons_append]
    by_cases hp : p = .many
    · subst hp
      simp only [isMatch_many_cons, ih]
      constructor
      · rintro ⟨a, _, rfl, b, d, rfl, hb, hd⟩
        exact ⟨a ++ b, d, (List.append_assoc ..).symm, ⟨a, b, rfl, hb⟩, hd⟩
      · rintro ⟨_, d, rfl, ⟨a, b, rfl, hb⟩, hd⟩
        exact ⟨a, b ++ d, List.append_assoc .., b, d, rfl, hb, hd⟩
    · simp only [isMatch_cons hp, ih]
      constructor
      · rintro ⟨c, _, rfl, hc, a, b, rfl, ha, hb⟩
        exact ⟨c :: a, b, rfl, ⟨c, a, rfl, hc, ha⟩, hb⟩
      · rintro ⟨_, b, rfl, ⟨c, a, rfl, hc, ha⟩, hb⟩
        exact ⟨c, a ++ b, rfl, hc, a, b, rfl, ha, hb⟩

theorem isMatch_octets {ds cs : List Char} : isMatch (ds.map .octet) cs = true ↔ cs = ds := by
  induction ds generalizing cs with
  | nil => exact isMatch_nil
  | cons d ds ih => cases cs <;> simp [isMatch, ih]

theorem ofMarked_quoted (cs : List Char) : ofMarked (cs.map (·, true)) = cs.map .octet := by
  have (n : Nat) (hn : cs.length < n) : elements n (cs.map (·, true)) = cs.map .octet := by
    induction n generalizing cs with
    | zero => omega
    | succ n ih =>
      cases cs with
      | nil => rfl
      | cons c cs => simp [elements, ih cs (Nat.lt_of_succ_lt_succ hn)]
  exact this _ (by simp)

/-- A quoted text is a pattern that nothing but the text itself matches. -/
theorem isMatch_quoted {ds cs : List Char} :
    isMatch (ofMarked (ds.map (·, true))) cs = true ↔ cs = ds := by
  rw [ofMarked_quoted, isMatch_octets]

theorem mem_frontLengths {ps : List Element} {cs : List Char} {n : Nat} :
    n ∈ frontLengths ps cs ↔ n ≤ cs.length ∧ isMatch ps (cs.take n) = true := by
  rw [frontLengths, List.mem_filter, List.mem_range, Nat.lt_succ_iff]

/-- What is dropped at the front matches, unless no front does and nothing is dropped. -/
theorem dropFront_eq (longest : Bool) (ps : List Element) (cs : List Char) :
    (∃ front, isMatch ps front = true ∧ cs = front ++ dropFront longest ps cs) ∨
      dropFront longest ps cs = cs ∧
        ∀ front rest, cs = front ++ rest → isMatch ps front = false := by
  let chosen := if longest then (frontLengths ps cs).getLast? else (frontLengths ps cs).head?
  have hdrop : dropFront longest ps cs = cs.drop (chosen.getD 0) := rfl
  cases h : chosen with
  | some n =>
    have hn : n ∈ frontLengths ps cs := by
      cases longest
      · exact List.mem_of_head? h
      · exact List.mem_of_getLast? h
    refine .inl ⟨cs.take n, (mem_frontLengths.1 hn).2, ?_⟩
    rw [hdrop, h, Option.getD_some, List.take_append_drop]
  | none =>
    have hnone : frontLengths ps cs = [] := by
      cases longest
      · exact List.head?_eq_none_iff.1 h
      · exact List.getLast?_eq_none_iff.1 h
    refine .inr ⟨by rw [hdrop, h, Option.getD_none, List.drop_zero], fun front rest hcs => ?_⟩
    have hout : front.length ∉ frontLengths ps cs := by simp [hnone]
    subst hcs
    simpa [mem_frontLengths] using hout

end VolumeNode.Shell.Pattern
