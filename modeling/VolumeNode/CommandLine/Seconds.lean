/-!
# Counts of seconds

A count is decimal digits, of any number, behind at most one plus sign; its value must be below
2^64. The first character that is wrong, or from which on the value is too large, decides what is
said. Main statement: `lt_of_parse`: nothing larger is accepted.
-/

namespace VolumeNode.CommandLine.Seconds

/-- Why a text is no count of seconds. -/
inductive Fault where
  | empty
  | digit
  | tooLarge
  deriving DecidableEq, Repr

/-- What is said of a text that is refused. -/
def Fault.message : Fault → String
  | empty => "cannot parse integer from empty string"
  | digit => "invalid digit found in string"
  | tooLarge => "number too large to fit in target type"

/-- All counts are below this. -/
def bound : Nat :=
  0x10000000000000000

/-- The value of digits behind others with a value of their own. -/
def value (n : Nat) : List Char → Except Fault Nat
  | [] => .ok n
  | c :: rest =>
    if !c.isDigit then .error .digit
    else
      let m := n * 10 + (c.toNat - 0x30)
      if m < bound then value m rest else .error .tooLarge

/-- The count that a text stands for. -/
def parse (s : String) : Except Fault Nat :=
  match s.toList with
  | [] => .error .empty
  | ['+'] => .error .digit
  | '+' :: digits => value 0 digits
  | digits => value 0 digits

theorem lt_of_value {n m : Nat} {cs : List Char} (hn : n < bound) (h : value n cs = .ok m) :
    m < bound := by
  induction cs generalizing n with
  | nil =>
    cases h
    exact hn
  | cons c rest ih =>
    rw [value] at h
    split at h
    · cases h
    · dsimp only at h
      split at h
      · rename_i hlt
        exact ih hlt h
      · cases h

/-- Nothing larger is accepted. -/
theorem lt_of_parse {s : String} {m : Nat} (h : parse s = .ok m) : m < bound := by
  have h0 : 0 < bound := by decide
  rw [parse] at h
  split at h
  · cases h
  · cases h
  · exact lt_of_value h0 h
  · exact lt_of_value h0 h

end VolumeNode.CommandLine.Seconds
