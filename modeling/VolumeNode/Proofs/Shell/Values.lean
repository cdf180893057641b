import Mathlib.Data.Int.Notation
import Mathlib.Tactic.Linarith
import VolumeNode.Proofs.Programs
import VolumeNode.Shell.Arithmetic

/-!
# Values of expressions

A shell reckons with 64 bits. The numbers that are read fit into them, each operator keeps to them, and
the four parts of the evaluation, which call each other, pass on only values that fit.

* `returns_apply`: an operator.
* `returns_parts`: the parts of the evaluation, by induction on their common bound.
* `fits_of_evaluate`: a whole expression.
-/

namespace VolumeNode.Shell.Arithmetic

/-- A value of 64 bits with a sign. -/
def Fits (n : ℤ) : Prop :=
  -0x8000000000000000 ≤ n ∧ n < 0x8000000000000000

theorem fits_wrap (n : ℤ) : Fits (wrap n) := by
  unfold Fits wrap modulus
  rw [Int.bmod_def]
  omega

theorem fits_truth (b : Bool) : Fits (truth b) := by
  cases b <;> simp [Fits, truth]

theorem Fits.ediv {a : ℤ} (h : Fits a) {d : ℕ} (hd : 0 < d) : Fits (a / (d : ℤ)) := by
  have hd' : (1 : ℤ) ≤ d := by exact_mod_cast hd
  refine ⟨Int.le_ediv_of_mul_le (by omega) ?_, Int.ediv_lt_of_lt_mul (by omega) ?_⟩
  · have := h.1
    nlinarith
  · have := h.2
    nlinarith

theorem Fits.not {a : ℤ} (h : Fits a) : Fits (-a - 1) := by
  obtain ⟨h1, h2⟩ := h
  constructor <;> omega

theorem Fits.tmod {a : ℤ} (h : Fits a) (b : ℤ) : Fits (a.tmod b) := by
  have hle : (a.tmod b).natAbs ≤ a.natAbs := by
    rw [Int.natAbs_tmod]
    exact Nat.mod_le ..
  obtain ⟨h1, h2⟩ := h
  rcases le_total 0 a with ha | ha
  · have := Int.tmod_nonneg b ha
    constructor <;> omega
  · have := Int.tmod_nonneg b (neg_nonneg.2 ha)
    rw [Int.neg_tmod] at this
    constructor <;> omega

/-- The value of an operator fits into 64 bits if the value in front of it does. -/
theorem returns_apply (operator : String) {a : ℤ} (b : ℤ) (ha : Fits a) :
    Returns Fits (apply operator a b) := by
  have hpos (k : ℕ) : 0 < (1 <<< k : ℕ) := by simp [Nat.shiftLeft_eq]
  unfold apply
  dsimp only
  split
  -- comparisons are 0 or 1, and all but shifts to the right and remainders wrap
  case h_1 | h_2 | h_6 | h_7 | h_8 | h_9 | h_10 | h_11 => exact .ok (fits_truth _)
  case h_3 | h_4 | h_5 | h_12 | h_14 | h_15 | h_16 => exact .ok (fits_wrap _)
  case h_13 => exact .ok (ha.ediv (hpos _))
  case h_17 =>
    split
    · exact .error _
    · exact .ok (fits_wrap _)
  case h_18 =>
    split
    · exact .error _
    · exact .ok (ha.tmod b)

/-- Progress in which every number that is left and every value of a name fits. -/
structure Progress.Fit (p : Progress) : Prop where
  rest : ∀ n, .number n ∈ p.rest → Fits n
  values : ∀ e ∈ p.values, Fits e.2

variable {outer : List Char → Except Fault ℤ} {live : Bool} {p : Progress}

theorem Progress.Fit.drop (hp : p.Fit) {t : Token} {rest : List Token} (h : p.rest = t :: rest) :
    Progress.Fit { p with rest := rest } where
  rest n hn := hp.rest n (h ▸ List.mem_cons_of_mem _ hn)
  values := hp.values

theorem Progress.Fit.assign (hp : p.Fit) (live : Bool) (name : List Char) {v : ℤ} (hv : Fits v) :
    (p.assign live name v).Fit := by
  unfold Progress.assign
  split
  · exact ⟨hp.rest, List.forall_mem_cons.2 ⟨hv, hp.values⟩⟩
  · exact hp

theorem Progress.Fit.value (hp : p.Fit) (ho : ∀ name, Returns Fits (outer name)) (name : List Char) :
    Returns Fits (p.value outer name) := by
  unfold Progress.value
  split
  next v h =>
    obtain ⟨l, l', hl, -⟩ := List.lookup_eq_some_iff.1 h
    exact .ok (hp.values (name, v) (by simp [hl]))
  next => exact ho name

theorem returns_applied (live : Bool) (operator : String) {a : ℤ} (b : ℤ) (ha : Fits a) :
    Returns Fits (applied live operator a b) := by
  unfold applied
  split
  · exact returns_apply operator b ha
  · exact .ok (by simp [Fits])

/-- A value that fits, with what is left. -/
def FitsWith (r : ℤ × Progress) : Prop :=
  Fits r.1 ∧ r.2.Fit

theorem returns_parts (ho : ∀ name, Returns Fits (outer name)) (n : ℕ) :
    (∀ live p, p.Fit → Returns FitsWith (full outer live n p)) ∧
      (∀ live p, p.Fit → Returns FitsWith (condition outer live n p)) ∧
      (∀ live least a p, Fits a → p.Fit → Returns FitsWith (binary outer live least a n p)) ∧
      ∀ live p, p.Fit → Returns FitsWith (unary outer live n p) := by
  -- each part calls the others with one less, so one induction has to settle all four
  induction n with
  | zero =>
    exact ⟨fun _ _ _ => nofun, fun _ _ _ => nofun, fun _ _ _ _ _ _ => nofun, fun _ _ _ => nofun⟩
  | succ n ih =>
    obtain ⟨ihFull, ihCondition, ihBinary, ihUnary⟩ := ih
    refine ⟨fun live p hp => ?full, fun live p hp => ?condition, fun live least a p ha hp => ?binary,
      fun live p hp => ?unary⟩
    case full =>
      rw [full]
      split
      · next name s rest h =>
        have hrest := (hp.drop h).drop rfl
        split
        · refine (ihFull live _ hrest).bind fun r hr => .ok ⟨hr.1, hr.2.assign live name hr.1⟩
        · split
          · refine (ihFull live _ hrest).bind fun r hr => ?_
            refine (hp.value ho name).bind fun before hbefore => ?_
            refine (returns_applied live _ r.1 hbefore).bind fun v hv => ?_
            exact .ok ⟨hv, hr.2.assign live name hv⟩
          · exact ihCondition live p hp
      · exact ihCondition live p hp
    case condition =>
      rw [condition]
      refine (ihUnary live p hp).bind fun first hfirst => ?_
      refine (ihBinary live 0 _ _ hfirst.1 hfirst.2).bind fun a ha => ?_
      dsimp only
      split
      · next rest h =>
        refine (ihFull _ _ (ha.2.drop h)).bind fun yes hyes => ?_
        split
        · next rest h =>
          refine (ihCondition _ _ (hyes.2.drop h)).bind fun no hno => .ok ⟨?_, hno.2⟩
          dsimp only
          split
          · exact hyes.1
          · exact hno.1
        · nofun
      · exact .ok ha
    case binary =>
      rw [binary]
      split
      · next s rest h =>
        split
        · exact .ok ⟨ha, hp⟩
        · next power _ =>
          split
          · exact .ok ⟨ha, hp⟩
          · refine (ihUnary _ _ (hp.drop h)).bind fun first hfirst => ?_
            refine (ihBinary _ power _ _ hfirst.1 hfirst.2).bind fun b hb => ?_
            exact (returns_applied live s b.1 ha).bind fun v hv => ihBinary live least v _ hv hb.2
      · exact .ok ⟨ha, hp⟩
    case unary =>
      rw [unary]
      split
      · next v rest h => exact .ok ⟨hp.rest v (h ▸ List.mem_cons_self), hp.drop h⟩
      · next name rest h => exact (hp.value ho name).bind fun v hv => .ok ⟨hv, hp.drop h⟩
      · next rest h =>
        exact (ihUnary live _ (hp.drop h)).bind fun r hr => .ok ⟨fits_wrap _, hr.2⟩
      · next rest h => exact ihUnary live _ (hp.drop h)
      · next rest h =>
        exact (ihUnary live _ (hp.drop h)).bind fun r hr => .ok ⟨fits_truth _, hr.2⟩
      · next rest h =>
        exact (ihUnary live _ (hp.drop h)).bind fun r hr => .ok ⟨hr.1.not, hr.2⟩
      · next rest h =>
        refine (ihFull live _ (hp.drop h)).bind fun r hr => ?_
        dsimp only
        split
        · next rest h => exact .ok ⟨hr.1, hr.2.drop h⟩
        · nofun
      · nofun

theorem fits_of_le {n : ℕ} (h : n ≤ greatest) : Fits n ∧ Fits (-n) := by
  unfold greatest at h
  refine ⟨⟨?_, ?_⟩, ?_, ?_⟩ <;> omega

theorem readDigits_le (base : ℕ) (cs : List Char) : (readDigits base cs).1 ≤ greatest :=
  Nat.min_le_left ..

theorem readNumber_le (cs : List Char) : (readNumber cs).1 ≤ greatest := by
  unfold readNumber
  split
  · split <;> exact readDigits_le ..
  · exact readDigits_le ..
  · exact readDigits_le ..

theorem fits_of_mem_tokens {n : ℤ} {k : Nat} {cs : List Char} (h : .number n ∈ tokens k cs) :
    Fits n := by
  induction k generalizing cs with
  | zero => simp [tokens] at h
  | succ k ih =>
    cases cs with
    | nil => simp [tokens] at h
    | cons c cs =>
      rw [tokens] at h
      split at h
      · exact ih h
      split at h
      · rcases List.mem_cons.1 h with hn | h
        · cases hn
          exact (fits_of_le (readNumber_le _)).1
        · exact ih h
      split at h
      · exact ih (by simpa using h)
      · split at h
        · exact ih (by simpa using h)
        · simp at h

/-- A text that is a number is one that fits. -/
theorem fits_integer? {cs : List Char} {n : ℤ} (h : integer? cs = some n) : Fits n := by
  unfold integer? at h
  dsimp only at h
  -- behind a sign or none, the digits are read alike
  split at h <;>
    simp only [Option.ite_none_left_eq_some, Option.ite_none_right_eq_some, Option.some.injEq] at h <;>
    obtain ⟨-, -, rfl⟩ := h
  · exact (fits_of_le (readNumber_le _)).2
  · exact (fits_of_le (readNumber_le _)).1
  · exact (fits_of_le (readNumber_le _)).1

theorem returns_evaluate (ho : ∀ name, Returns Fits (outer name)) (cs : List Char) :
    Returns (fun r => Fits r.1 ∧ ∀ e ∈ r.2, Fits e.2) (evaluate outer cs) := by
  have hp : Progress.Fit ⟨tokens (cs.length + 1) cs, []⟩ :=
    ⟨fun _ => fits_of_mem_tokens, by simp⟩
  dsimp only [evaluate]
  refine ((returns_parts ho _).1 true _ hp).bind fun r hr => ?_
  split
  · exact .ok ⟨hr.1, hr.2.values⟩
  · exact .error _

/-- **Values fit into 64 bits.** Whatever texts the names of an expression stand for, its value and every
value that it assigns have 64 bits with a sign. -/
theorem fits_of_evaluate {text : List Char → List Char} {cs : List Char} {v : ℤ}
    {assigned : List (List Char × ℤ)}
    (h : evaluate (fun name => (integer? (text name)).elim (.error (.illegalNumber (text name))) .ok)
      cs = .ok (v, assigned)) : Fits v ∧ ∀ e ∈ assigned, Fits e.2 := by
  refine returns_evaluate (fun name => ?_) cs _ h
  cases hn : integer? (text name) with
  | none => exact .error _
  | some n => exact .ok (fits_integer? hn)

end VolumeNode.Shell.Arithmetic
