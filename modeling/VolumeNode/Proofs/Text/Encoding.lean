import Mathlib.Data.Nat.Notation
import VolumeNode.Text.Utf8

/-!
# Octets that encode a text

Octets are read as a text exactly if they are the octets of that text.

* `Spells`: the octets of one character, with its code.
* `exists_spells`: octets in which nothing is broken begin with those of a character.
* `decode?_eq_some_iff_encode_eq`: which octets are read as which text.
-/

namespace VolumeNode.Text.Utf8

variable {b : UInt8} {octets : List UInt8} {done : List (Option Char)} {n : ℕ}

/-- An octet that may stand behind the first ones of a character. -/
abbrev Tail (b : UInt8) : Prop :=
  0x80 ≤ b.toNat ∧ b.toNat ≤ 0xBF

/-- **The octets of one character**, with its code. No longer spelling and no surrogate is among
them. -/
inductive Spells : List UInt8 → ℕ → Prop where
  | one {b : UInt8} {n : ℕ} (h : b.toNat < 0x80) (hn : n = b.toNat) : Spells [b] n
  | two {b₀ b₁ : UInt8} {n : ℕ} (h : 0xC2 ≤ b₀.toNat ∧ b₀.toNat < 0xE0) (h₁ : Tail b₁)
      (hn : n = (b₀.toNat - 0xC0) * 64 + (b₁.toNat - 0x80)) : Spells [b₀, b₁] n
  | three {b₀ b₁ b₂ : UInt8} {n : ℕ} (h : 0xE0 ≤ b₀.toNat ∧ b₀.toNat < 0xF0) (h₁ : Tail b₁)
      (hleast : b₀.toNat = 0xE0 → 0xA0 ≤ b₁.toNat) (hmost : b₀.toNat = 0xED → b₁.toNat ≤ 0x9F)
      (h₂ : Tail b₂)
      (hn : n = ((b₀.toNat - 0xE0) * 64 + (b₁.toNat - 0x80)) * 64 + (b₂.toNat - 0x80)) :
      Spells [b₀, b₁, b₂] n
  | four {b₀ b₁ b₂ b₃ : UInt8} {n : ℕ} (h : 0xF0 ≤ b₀.toNat ∧ b₀.toNat < 0xF5) (h₁ : Tail b₁)
      (hleast : b₀.toNat = 0xF0 → 0x90 ≤ b₁.toNat) (hmost : b₀.toNat = 0xF4 → b₁.toNat ≤ 0x8F)
      (h₂ : Tail b₂) (h₃ : Tail b₃)
      (hn : n = (((b₀.toNat - 0xF0) * 64 + (b₁.toNat - 0x80)) * 64 + (b₂.toNat - 0x80)) * 64 +
        (b₃.toNat - 0x80)) : Spells [b₀, b₁, b₂, b₃] n

/-- A character is spelt by the octets that encode it. -/
theorem spells_utf8EncodeChar (c : Char) : Spells (String.utf8EncodeChar c) c.toNat := by
  have hvalid : c.toNat < 0xD800 ∨ 0xDFFF < c.toNat ∧ c.toNat < 0x110000 := c.valid
  have hcode : c.toNat = c.val.toNat := rfl
  unfold String.utf8EncodeChar
  dsimp only
  split
  · refine .one ?_ ?_ <;> rw [UInt8.toNat_ofNat'] <;> omega
  split
  · refine .two ?_ ?_ ?_ <;> simp only [Tail, UInt8.toNat_ofNat'] <;> omega
  split
  · refine .three ?_ ?_ ?_ ?_ ?_ ?_ <;> simp only [Tail, UInt8.toNat_ofNat'] <;> omega
  · refine .four ?_ ?_ ?_ ?_ ?_ ?_ ?_ <;> simp only [Tail, UInt8.toNat_ofNat'] <;> omega

/-- The code is that of a character. -/
theorem Spells.isValidChar (h : Spells octets n) : n.isValidChar := by
  unfold Nat.isValidChar
  cases h <;> omega

/-- **The octets are those that encode the character.** -/
theorem Spells.utf8EncodeChar_ofNat (h : Spells octets n) :
    String.utf8EncodeChar (Char.ofNat n) = octets := by
  have hcode : (Char.ofNat n).val.toNat = n := by
    rw [Char.ofNat, dif_pos h.isValidChar]
    rfl
  have hoctet : ∀ {k : ℕ} {b : UInt8}, k = b.toNat → UInt8.ofNat k = b := by
    rintro k b rfl
    exact UInt8.ofNat_toNat
  unfold String.utf8EncodeChar
  rw [hcode]
  dsimp only
  cases h with
  | one h hn =>
    rw [if_pos (by omega), hoctet hn]
  | two h h₁ hn =>
    rw [if_neg (by omega), if_pos (by omega)]
    simp only [List.cons.injEq, and_true]
    exact ⟨hoctet (by omega), hoctet (by omega)⟩
  | three h h₁ hleast hmost h₂ hn =>
    rw [if_neg (by omega), if_neg (by omega), if_pos (by omega)]
    simp only [List.cons.injEq, and_true]
    exact ⟨hoctet (by omega), hoctet (by omega), hoctet (by omega)⟩
  | four h h₁ hleast hmost h₂ h₃ hn =>
    rw [if_neg (by omega), if_neg (by omega), if_neg (by omega)]
    simp only [List.cons.injEq, and_true]
    exact ⟨hoctet (by omega), hoctet (by omega), hoctet (by omega), hoctet (by omega)⟩

/-- An octet below 128 is an octet of its own character only. -/
theorem Spells.eq_of_mem (h : Spells octets n) (hb : b ∈ octets) (hlow : b.toNat < 0x80) :
    n = b.toNat := by
  cases h with
  | one h hn => rw [hn, List.mem_singleton.1 hb]
  | two h h₁ hn =>
    simp only [List.mem_cons, List.not_mem_nil, or_false] at hb
    rcases hb with rfl | rfl <;> omega
  | three h h₁ hleast hmost h₂ hn =>
    simp only [List.mem_cons, List.not_mem_nil, or_false] at hb
    rcases hb with rfl | rfl | rfl <;> omega
  | four h h₁ hleast hmost h₂ h₃ hn =>
    simp only [List.mem_cons, List.not_mem_nil, or_false] at hb
    rcases hb with rfl | rfl | rfl | rfl <;> omega

/-- The last octet of a character. -/
theorem step_last {bits least most : ℕ} (h : least ≤ b.toNat ∧ b.toNat ≤ most) :
    step ⟨done, some ⟨bits, 1, least, most⟩⟩ b =
      ⟨some (Char.ofNat (bits * 64 + (b.toNat - 0x80))) :: done, none⟩ :=
  if_pos h

/-- An octet of a character that is not the last one. -/
theorem step_more {bits owed least most : ℕ} (h : least ≤ b.toNat ∧ b.toNat ≤ most) :
    step ⟨done, some ⟨bits, owed + 2, least, most⟩⟩ b =
      ⟨done, some ⟨bits * 64 + (b.toNat - 0x80), owed + 1, 0x80, 0xBF⟩⟩ :=
  (if_pos h).trans (if_neg (by simp))

theorem begin_more {k : Pending} (h : opening b.toNat = .more k) :
    step ⟨done, none⟩ b = ⟨done, some k⟩ := by
  simp only [step, begin, h]

/-- The bounds of the second octet of a character. -/
theorem within_iff {low high x y : ℕ} (hlow : 0x80 ≤ low) (hhigh : high ≤ 0xBF) :
    ((if n = x then low else 0x80) ≤ b.toNat ∧ b.toNat ≤ if n = y then high else 0xBF) ↔
      Tail b ∧ (n = x → low ≤ b.toNat) ∧ (n = y → b.toNat ≤ high) := by
  split <;> split <;> omega

theorem opening_two (h : 0xC2 ≤ n ∧ n < 0xE0) : opening n = .more ⟨n - 0xC0, 1, 0x80, 0xBF⟩ := by
  unfold opening
  rw [if_neg (by omega), if_neg (by omega), if_pos h.2]

theorem opening_three (h : 0xE0 ≤ n ∧ n < 0xF0) :
    opening n = .more ⟨n - 0xE0, 2, if n = 0xE0 then 0xA0 else 0x80,
      if n = 0xED then 0x9F else 0xBF⟩ := by
  unfold opening
  rw [if_neg (by omega), if_neg (by omega), if_neg (by omega)]
  split
  · subst n
    rfl
  split
  · subst n
    rfl
  · rw [if_pos h.2]

theorem opening_four (h : 0xF0 ≤ n ∧ n < 0xF5) :
    opening n = .more ⟨n - 0xF0, 3, if n = 0xF0 then 0x90 else 0x80,
      if n = 0xF4 then 0x8F else 0xBF⟩ := by
  unfold opening
  rw [if_neg (by omega), if_neg (by omega), if_neg (by omega), if_neg (by omega),
    if_neg (by omega), if_neg (by omega)]
  split
  · subst n
    rfl
  split
  · rw [if_neg (by omega)]
  · obtain rfl : n = 0xF4 := by omega
    rfl

/-- No other octet can be the first one of a character of several octets. -/
theorem opening_refused (h : 0x80 ≤ n) (h₂ : ¬(0xC2 ≤ n ∧ n < 0xF5)) : opening n = .refused := by
  unfold opening
  rw [if_neg (by omega)]
  split
  · rfl
  rw [if_neg (by omega), if_neg (by omega), if_neg (by omega), if_neg (by omega),
    if_neg (by omega), if_neg (by omega), if_neg (by omega)]

/-- **The octets of one character are read as that character.** -/
theorem Spells.foldl_step (h : Spells octets n) :
    octets.foldl step ⟨done, none⟩ = ⟨some (Char.ofNat n) :: done, none⟩ := by
  cases h with
  | one h hn =>
    rw [hn]
    exact step_ascii done h
  | @two b₀ b₁ _ h h₁ hn =>
    have hfirst : step ⟨done, none⟩ b₀ = ⟨done, some _⟩ := begin_more (opening_two h)
    rw [List.foldl_cons, hfirst, List.foldl_cons, step_last h₁, hn]
    rfl
  | @three b₀ b₁ b₂ _ h h₁ hleast hmost h₂ hn =>
    have hfirst : step ⟨done, none⟩ b₀ = ⟨done, some _⟩ := begin_more (opening_three h)
    have hsecond := (within_iff (by decide) (by decide)).2 ⟨h₁, hleast, hmost⟩
    rw [List.foldl_cons, hfirst, List.foldl_cons, step_more hsecond, List.foldl_cons, step_last h₂,
      hn]
    rfl
  | @four b₀ b₁ b₂ b₃ _ h h₁ hleast hmost h₂ h₃ hn =>
    have hfirst : step ⟨done, none⟩ b₀ = ⟨done, some _⟩ := begin_more (opening_four h)
    have hsecond := (within_iff (by decide) (by decide)).2 ⟨h₁, hleast, hmost⟩
    rw [List.foldl_cons, hfirst, List.foldl_cons, step_more hsecond, List.foldl_cons, step_more h₂,
      List.foldl_cons, step_last h₃, hn]
    rfl

/-- What has been read stays read. -/
theorem mem_finish {c : Option Char} {p : Progress} (h : c ∈ p.done) :
    c ∈ (octets.foldl step p).finish := by
  induction octets generalizing p with
  | nil =>
    rw [List.foldl_nil, Progress.finish]
    split <;> simp [h]
  | cons b octets ih =>
    refine ih ?_
    have hbegin : ∀ done, c ∈ done → c ∈ (begin done b.toNat).done := by
      intro done hdone
      unfold begin
      split <;> simp [hdone]
    unfold step
    dsimp only
    split
    · exact hbegin _ h
    · split
      · split <;> simp [h]
      · exact hbegin _ (List.mem_cons_of_mem _ h)

/-- If nothing is broken, a character that has begun goes on. -/
theorem cons_of_unbroken {k : Pending}
    (h : none ∉ (octets.foldl step ⟨done, some k⟩).finish) :
    ∃ b rest, octets = b :: rest ∧ k.least ≤ b.toNat ∧ b.toNat ≤ k.most := by
  cases octets with
  | nil => simp [Progress.finish] at h
  | cons b rest =>
    refine ⟨b, rest, rfl, Decidable.not_not.1 fun hb => h ?_⟩
    have hstep : step ⟨done, some k⟩ b = begin (none :: done) b.toNat := if_neg hb
    rw [List.foldl_cons, hstep]
    refine mem_finish ?_
    unfold begin
    split <;> simp

/-- **Octets in which nothing is broken begin with those of a character**, if there are any. -/
theorem exists_spells (h : none ∉ (octets.foldl step ⟨done, none⟩).finish) :
    octets = [] ∨ ∃ first rest n, octets = first ++ rest ∧ Spells first n := by
  cases octets with
  | nil => exact Or.inl rfl
  | cons b₀ rest =>
    refine Or.inr ?_
    rw [List.foldl_cons] at h
    by_cases hone : b₀.toNat < 0x80
    · exact ⟨[b₀], rest, _, rfl, .one hone rfl⟩
    by_cases htwo : 0xC2 ≤ b₀.toNat ∧ b₀.toNat < 0xE0
    · rw [begin_more (opening_two htwo)] at h
      obtain ⟨b₁, rest, rfl, h₁⟩ := cons_of_unbroken h
      exact ⟨[b₀, b₁], rest, _, rfl, .two htwo h₁ rfl⟩
    by_cases hthree : 0xE0 ≤ b₀.toNat ∧ b₀.toNat < 0xF0
    · rw [begin_more (opening_three hthree)] at h
      obtain ⟨b₁, rest, rfl, h₁⟩ := cons_of_unbroken h
      rw [List.foldl_cons, step_more h₁] at h
      obtain ⟨b₂, rest, rfl, h₂⟩ := cons_of_unbroken h
      obtain ⟨htail, hleast, hmost⟩ := (within_iff (by decide) (by decide)).1 h₁
      exact ⟨[b₀, b₁, b₂], rest, _, rfl, .three hthree htail hleast hmost h₂ rfl⟩
    by_cases hfour : 0xF0 ≤ b₀.toNat ∧ b₀.toNat < 0xF5
    · rw [begin_more (opening_four hfour)] at h
      obtain ⟨b₁, rest, rfl, h₁⟩ := cons_of_unbroken h
      rw [List.foldl_cons, step_more h₁] at h
      obtain ⟨b₂, rest, rfl, h₂⟩ := cons_of_unbroken h
      rw [List.foldl_cons, step_more h₂] at h
      obtain ⟨b₃, rest, rfl, h₃⟩ := cons_of_unbroken h
      obtain ⟨htail, hleast, hmost⟩ := (within_iff (by decide) (by decide)).1 h₁
      exact ⟨[b₀, b₁, b₂, b₃], rest, _, rfl, .four hfour htail hleast hmost h₂ h₃ rfl⟩
    · have hrefused : step ⟨done, none⟩ b₀ = ⟨none :: done, none⟩ := by
        simp only [step, begin, opening_refused (show 0x80 ≤ b₀.toNat by omega) (by omega)]
      rw [hrefused] at h
      exact (h (mem_finish List.mem_cons_self)).elim

/-- Octets in which nothing is broken are those of some characters. -/
theorem exists_chars {octets : List UInt8} {done : List (Option Char)}
    (h : none ∉ (octets.foldl step ⟨done, none⟩).finish) :
    ∃ cs : List Char, octets = cs.flatMap String.utf8EncodeChar := by
  rcases exists_spells h with rfl | ⟨first, rest, n, rfl, hfirst⟩
  · exact ⟨[], rfl⟩
  · rw [List.foldl_append, hfirst.foldl_step] at h
    have hpos : 0 < first.length := by cases hfirst <;> exact Nat.succ_pos _
    have hshorter : rest.length < (first ++ rest).length := by
      rw [List.length_append]
      omega
    obtain ⟨cs, rfl⟩ := exists_chars h
    exact ⟨Char.ofNat n :: cs, by rw [List.flatMap_cons, hfirst.utf8EncodeChar_ofNat]⟩
termination_by octets.length

/-- Encoded characters are read one after another. -/
theorem foldl_step_chars (cs : List Char) :
    (cs.flatMap String.utf8EncodeChar).foldl step ⟨done, none⟩ =
      ⟨(cs.map some).reverse ++ done, none⟩ := by
  induction cs generalizing done with
  | nil => rfl
  | cons c cs ih =>
    rw [List.flatMap_cons, List.foldl_append, (spells_utf8EncodeChar c).foldl_step,
      Char.ofNat_toNat, ih, List.map_cons, List.reverse_cons, List.append_assoc]
    rfl

/-- The octets of an array are listed in their order. -/
theorem toList_loop (bs : ByteArray) (i : ℕ) (r : List UInt8) :
    ByteArray.toList.loop bs i r = r.reverse ++ bs.data.toList.drop i := by
  fun_induction ByteArray.toList.loop bs i r with
  | case1 i r h ih =>
    have hi : i < bs.data.toList.length := h
    have hget : bs.get! i = bs.data.toList[i] := by
      change bs.data[i]! = _
      rw [getElem!_pos bs.data i h, Array.getElem_toList]
    rw [ih, List.drop_eq_getElem_cons hi, List.reverse_cons, List.append_assoc, hget]
    rfl
  | case2 i r h =>
    rw [List.drop_eq_nil_of_le (Nat.not_lt.1 h), List.append_nil]

/-- The octets of a text are those of its characters. -/
theorem encode_eq_flatMap (s : String) : encode s = s.toList.flatMap String.utf8EncodeChar := by
  change ByteArray.toList.loop s.toByteArray 0 [] = _
  rw [toList_loop, ← String.utf8Encode_toList, List.utf8Encode, List.data_toByteArray]
  rfl

theorem encode_append (s t : String) : encode (s ++ t) = encode s ++ encode t := by
  simp [encode_eq_flatMap]

/-- An octet below 128 among those of a text is a character of the text. -/
theorem ofNat_mem_of_mem_encode {s : String} (hb : b ∈ encode s) (hlow : b.toNat < 0x80) :
    Char.ofNat b.toNat ∈ s.toList := by
  rw [encode_eq_flatMap, List.mem_flatMap] at hb
  obtain ⟨c, hc, hmem⟩ := hb
  rw [← (spells_utf8EncodeChar c).eq_of_mem hmem hlow, Char.ofNat_toNat]
  exact hc

/-- **Octets are read as a text exactly if they encode it.** -/
theorem decode?_eq_some_iff_encode_eq {s : String} : decode? octets = some s ↔ encode s = octets := by
  have hencoded : ∀ s : String, decode? (encode s) = some s := by
    intro s
    have hscan : scan (encode s) = s.toList.map some := by
      unfold scan
      rw [encode_eq_flatMap, foldl_step_chars, List.append_nil]
      exact List.reverse_reverse _
    rw [decode?_eq_some_iff, hscan]
    exact ⟨by simp, by simp⟩
  constructor
  · intro h
    obtain ⟨hall, -⟩ := decode?_eq_some_iff.1 h
    obtain ⟨cs, rfl⟩ := exists_chars fun hnone => hall none hnone rfl
    have hcs : cs.flatMap String.utf8EncodeChar = encode (String.ofList cs) := by
      rw [encode_eq_flatMap, String.toList_ofList]
    rw [hcs, hencoded] at h
    cases h
    exact hcs.symm
  · rintro rfl
    exact hencoded s

end VolumeNode.Text.Utf8
