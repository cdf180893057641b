import VolumeNode.Text.Printable

/-!
# Quoted text

A text between double quotes, with everything spelled out that would not show as it is. Main
statement: `quoted_of_plain`: text that shows as it is only gets its quotes.
-/

namespace VolumeNode.Text

/-- The hexadecimal digits of a number, without leading zeros. -/
def hexDigits (n : Nat) : List Char :=
  Nat.toDigits 16 n

/-- A character as it stands in quoted text. -/
def quoteChar (c : Char) : List Char :=
  if c = '"' then ['\\', '"']
  else if c = '\\' then ['\\', '\\']
  else if c = '\t' then ['\\', 't']
  else if c = '\r' then ['\\', 'r']
  else if c = '\n' then ['\\', 'n']
  else if c.toNat = 0 then ['\\', '0']
  else if isPlain c then [c]
  else "\\u\x7b".toList ++ hexDigits c.toNat ++ "\x7d".toList

/-- The text between double quotes. -/
def quoted (s : String) : String :=
  String.ofList ('"' :: s.toList.flatMap quoteChar ++ ['"'])

theorem quoteChar_of_plain {c : Char} (h : isPlain c = true) (h1 : c ≠ '"') (h2 : c ≠ '\\') :
    quoteChar c = [c] := by
  have h3 : c ≠ '\t' := by rintro rfl; revert h; decide
  have h4 : c ≠ '\r' := by rintro rfl; revert h; decide
  have h5 : c ≠ '\n' := by rintro rfl; revert h; decide
  have h6 : c.toNat ≠ 0 := by
    intro h0
    have hc : c = Char.ofNat 0 := by rw [← h0, Char.ofNat_toNat]
    subst hc
    revert h
    decide
  simp [quoteChar, h, h1, h2, h3, h4, h5, h6]

/-- Plain text without quotes and backslashes only gets its quotes. -/
theorem quoted_of_plain {s : String} (h : ∀ c ∈ s.toList, isPlain c = true ∧ c ≠ '"' ∧ c ≠ '\\') :
    quoted s = String.ofList ('"' :: s.toList ++ ['"']) := by
  have : s.toList.flatMap quoteChar = s.toList := by
    have hquote : s.toList.map quoteChar = s.toList.map fun c => [c] :=
      List.map_congr_left fun c hc => quoteChar_of_plain (h c hc).1 (h c hc).2.1 (h c hc).2.2
    rw [List.flatMap_def, hquote, ← List.flatMap_def, List.flatMap_singleton']
  rw [quoted, this]

end VolumeNode.Text
