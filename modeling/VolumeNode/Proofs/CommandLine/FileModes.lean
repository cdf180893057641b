import Mathlib.Data.Nat.Digits.Defs
import VolumeNode.CommandLine.Parameter

/-!
# Which texts are permission bits

Permission bits are octal digits behind any number of `0o` and at most one plus sign. The digits are read
into a word of 32 bits, one after the other; a word that would not hold the next of them ends the reading,
so that what is read is what is written.

* `readFrom?_eq_some_iff`: what is read from octal digits.
* `dropPlus_dropMarks`: the digits of a text are found in one way.
* `parse_iff`: which texts are permission bits, and what is said of the others.
-/

namespace VolumeNode.FileMode

variable {n m : UInt32} {k : ℕ} {c : Char} {cs digits plus : List Char} {s : String}

/-- So many `0o`. -/
def marks (k : ℕ) : List Char :=
  (List.replicate k ['0', 'o']).flatten

/-- The number that octal digits stand for. -/
def value (digits : List Char) : ℕ :=
  Nat.ofDigits 8 (digits.reverse.map fun c => c.toNat - '0'.toNat)

/-- Whether a text stands for permission bits. -/
def Written (s : String) (bits : ℕ) : Prop :=
  ∃ k plus digits, s.toList = marks k ++ (plus ++ digits) ∧ (plus = [] ∨ plus = ['+']) ∧ digits ≠ [] ∧
    (∀ c ∈ digits, '0' ≤ c ∧ c ≤ '7') ∧ value digits = bits ∧ bits ≤ 0o7777

theorem isOctal_iff : isOctal c = true ↔ '0' ≤ c ∧ c ≤ '7' := by
  simp [isOctal]

/-- The rest of a number modulo the size of a word is the number itself if that fits. -/
theorem fit_eq_some_iff (h : n.toNat = k % UInt32.size) :
    (if k < UInt32.size then some n else none) = some m ↔ m.toNat = k := by
  constructor
  · intro hfit
    split at hfit
    · cases hfit
      rwa [Nat.mod_eq_of_lt ‹_›] at h
    · cases hfit
  · intro hm
    have hlt : k < UInt32.size := hm ▸ m.toNat_lt
    rw [if_pos hlt]
    exact congrArg some (UInt32.toNat_inj.1 (by rw [h, Nat.mod_eq_of_lt hlt, hm]))

theorem times?_eq_some_iff : times? n k = some m ↔ m.toNat = n.toNat * k :=
  fit_eq_some_iff (by rw [UInt32.toNat_mul, UInt32.toNat_ofNat', Nat.mul_mod_mod])

theorem plus?_eq_some_iff : plus? n k = some m ↔ m.toNat = n.toNat + k :=
  fit_eq_some_iff (by rw [UInt32.toNat_add, UInt32.toNat_ofNat', Nat.add_mod_mod])

/-- What is no larger than a word fits into one. -/
theorem exists_toNat_eq (h : k ≤ m.toNat) : ∃ n : UInt32, n.toNat = k :=
  ⟨UInt32.ofNat k, UInt32.toNat_ofNat_of_lt' (h.trans_lt m.toNat_lt)⟩

/-- One octal digit more makes a number eight times as large, and is added to it. -/
theorem push?_eq_some_iff :
    push? n c = some m ↔ isOctal c = true ∧ m.toNat = n.toNat * 8 + digit c := by
  unfold push?
  split
  · rename_i hc
    rw [Option.bind_eq_some_iff]
    simp only [times?_eq_some_iff, plus?_eq_some_iff]
    constructor
    · rintro ⟨a, ha, hm⟩
      exact ⟨hc, ha ▸ hm⟩
    · rintro ⟨-, hm⟩
      -- the product is no larger than the sum that fits
      obtain ⟨a, ha⟩ := exists_toNat_eq (k := n.toNat * 8) (m := m) (by omega)
      exact ⟨a, ha, ha ▸ hm⟩
  · rename_i hc
    simp [hc]

/-- The number that octal digits behind a number make of it. -/
def extend (v : ℕ) (digits : List Char) : ℕ :=
  digits.foldl (fun v c => v * 8 + digit c) v

theorem le_extend (v : ℕ) (digits : List Char) : v ≤ extend v digits := by
  induction digits generalizing v with
  | nil => exact le_rfl
  | cons c digits ih => exact (by omega : v ≤ v * 8 + digit c).trans (ih _)

/-- **What is read from octal digits.** If the whole of it fits into a word, so does every part of it. -/
theorem readFrom?_eq_some_iff :
    readFrom? n digits = some m ↔
      (∀ c ∈ digits, isOctal c = true) ∧ m.toNat = extend n.toNat digits := by
  induction digits generalizing n with
  | nil =>
    rw [readFrom?, Option.some_inj, ← UInt32.toNat_inj]
    exact ⟨fun h => ⟨nofun, h.symm⟩, fun h => h.2.symm⟩
  | cons c digits ih =>
    rw [List.forall_mem_cons]
    constructor
    · intro h
      unfold readFrom? at h
      cases hpush : push? n c with
      | none => simp [hpush] at h
      | some a =>
        rw [hpush] at h
        obtain ⟨hdigits, hm⟩ := ih.1 h
        obtain ⟨hc, ha⟩ := push?_eq_some_iff.1 hpush
        exact ⟨⟨hc, hdigits⟩, by rw [hm, ha]; rfl⟩
    · rintro ⟨⟨hc, hdigits⟩, hm⟩
      -- what is read so far is no larger than the whole
      change m.toNat = extend (n.toNat * 8 + digit c) digits at hm
      obtain ⟨a, ha⟩ := exists_toNat_eq (hm ▸ le_extend _ _)
      rw [readFrom?, push?_eq_some_iff.2 ⟨hc, ha⟩]
      exact ih.2 ⟨hdigits, ha ▸ hm⟩

theorem extend_zero (digits : List Char) : extend 0 digits = value digits := by
  unfold extend value
  rw [Nat.ofDigits_eq_foldr, List.foldr_map, List.foldr_reverse]
  congr 1
  funext v c
  change _ = digit c + 8 * v
  omega

theorem read?_eq_some_iff :
    read? digits = some m ↔ digits ≠ [] ∧ (∀ c ∈ digits, isOctal c = true) ∧ m.toNat = value digits := by
  cases digits with
  | nil => simp [read?]
  | cons c digits =>
    change readFrom? 0 (c :: digits) = some m ↔ _
    rw [readFrom?_eq_some_iff, ← extend_zero]
    exact ⟨fun h => ⟨List.cons_ne_nil _ _, h⟩, fun h => h.2⟩

/-- In front of what is left there is any number of `0o`. -/
theorem exists_marks (cs : List Char) : ∃ k, cs = marks k ++ dropMarks cs := by
  fun_induction dropMarks cs with
  | case1 rest ih =>
    obtain ⟨k, hk⟩ := ih
    exact ⟨k + 1, congrArg ('0' :: 'o' :: ·) hk⟩
  | case2 cs => exact ⟨0, rfl⟩

theorem exists_plus (cs : List Char) :
    ∃ plus, (plus = [] ∨ plus = ['+']) ∧ cs = plus ++ dropPlus cs := by
  unfold dropPlus
  split
  · exact ⟨['+'], Or.inr rfl, rfl⟩
  · exact ⟨[], Or.inl rfl, rfl⟩

theorem dropMarks_marks (k : ℕ) (cs : List Char) : dropMarks (marks k ++ cs) = dropMarks cs := by
  induction k with
  | zero => rfl
  | succ k ih => exact ih

theorem dropMarks_of_not_mem (h : 'o' ∉ cs) : dropMarks cs = cs := by
  unfold dropMarks
  split
  · simp at h
  · rfl

/-- **The digits of a text are found in one way**, though a mark begins with one. -/
theorem dropPlus_dropMarks (hplus : plus = [] ∨ plus = ['+'])
    (hdigits : ∀ c ∈ digits, isOctal c = true) :
    dropPlus (dropMarks (marks k ++ (plus ++ digits))) = digits := by
  -- a mark that began among the digits would have its other letter there
  have hmark : 'o' ∉ plus ++ digits := by
    rw [List.mem_append]
    rintro (hmem | hmem)
    · rcases hplus with rfl | rfl <;> simp at hmem
    · exact absurd (hdigits _ hmem) (by decide)
  rw [dropMarks_marks, dropMarks_of_not_mem hmark]
  rcases hplus with rfl | rfl
  · rw [List.nil_append]
    unfold dropPlus
    split
    · exact absurd (hdigits '+' List.mem_cons_self) (by decide)
    · rfl
  · rfl

/-- **Which texts are read as which permission bits.** -/
theorem parse?_eq_some_iff {bits : ℕ} : parse? s = some bits ↔ Written s bits := by
  unfold parse?
  rw [Option.filter_eq_some_iff, Option.map_eq_some_iff, decide_eq_true_iff]
  simp only [read?_eq_some_iff]
  constructor
  · rintro ⟨⟨m, ⟨hne, hdigits, hm⟩, rfl⟩, hle⟩
    obtain ⟨k, hmarks⟩ := exists_marks s.toList
    obtain ⟨plus, hplus, hrest⟩ := exists_plus (dropMarks s.toList)
    exact ⟨k, plus, _, hrest ▸ hmarks, hplus, hne, fun c hc => isOctal_iff.1 (hdigits c hc), hm.symm, hle⟩
  · rintro ⟨k, plus, digits, hs, hplus, hne, hdigits, rfl, hle⟩
    have hoctal : ∀ c ∈ digits, isOctal c = true := fun c hc => isOctal_iff.2 (hdigits c hc)
    have hlt : value digits < UInt32.size := hle.trans_lt (by decide)
    rw [hs, dropPlus_dropMarks hplus hoctal]
    exact ⟨⟨UInt32.ofNat (value digits), ⟨hne, hoctal, UInt32.toNat_ofNat_of_lt' hlt⟩,
      UInt32.toNat_ofNat_of_lt' hlt⟩, hle⟩

theorem parse_eq_ok_iff {bits : ℕ} : parse s = .ok bits ↔ Written s bits := by
  rw [← parse?_eq_some_iff, parse]
  cases parse? s <;> simp

theorem parse_eq_error_iff {r : String} :
    parse s = .error r ↔ (∀ bits, ¬ Written s bits) ∧ r = "invalid octal mode: " ++ s := by
  simp only [← parse?_eq_some_iff]
  rw [parse]
  cases parse? s with
  | none => exact ⟨fun h => ⟨nofun, (Except.error.inj h).symm⟩, fun h => congrArg _ h.2.symm⟩
  | some bits => exact ⟨nofun, fun h => absurd rfl (h.1 bits)⟩

/-- **Which texts are permission bits, and what is said of the others.** The command line refuses those with
the same words. -/
theorem parse_iff (s : String) :
    (∀ bits, parse s = .ok bits ↔ Written s bits) ∧
      (∀ r, parse s = .error r ↔ (∀ bits, ¬ Written s bits) ∧ r = "invalid octal mode: " ++ s) ∧
      ((∃ bits, Written s bits) → CommandLine.Parameter.targetDirMode.check s = .ok ()) ∧
      ((∀ bits, ¬ Written s bits) → CommandLine.Parameter.targetDirMode.check s =
        .error (.refusedValue ("invalid octal mode: " ++ s))) := by
  refine ⟨fun bits => parse_eq_ok_iff, fun r => parse_eq_error_iff, ?_, fun h => ?_⟩
  · rintro ⟨bits, h⟩
    rw [CommandLine.Parameter.check, parse_eq_ok_iff.2 h]
  · rw [CommandLine.Parameter.check, parse_eq_error_iff.2 ⟨h, rfl⟩]

/-- The zeros in front would not fit into a word if they counted. -/
example : parse "0o0o+00000000000000000755" = .ok 0o755 := by
  decide +kernel

end VolumeNode.FileMode
