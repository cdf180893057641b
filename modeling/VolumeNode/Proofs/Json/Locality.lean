import VolumeNode.Proofs.Json.RoundTrip

/-!
# What stands behind a value

A value that is read from a text on its own is read in the same way with more text behind it, unless that
text goes on with a number that ends the value.

* `Local`: a reader that takes no notice of what stands behind its part.
* `readValue_local`: values are read so.
-/

namespace VolumeNode.Json

variable {α β σ : Type} {cs more rest : List Char} {n d : ℕ} {a : α} {b : β} {s s' : σ}

theorem exists_of_bind_eq_ok {ε : Type} {x : Except ε α} {f : α → Except ε β}
    (h : x.bind f = .ok b) : ∃ a, x = .ok a ∧ f a = .ok b := by
  cases x with
  | error e => cases h
  | ok a => exact ⟨a, rfl, h⟩

/-- Whether a text does not go on with a number that stands in front of it. -/
def EndsNumber (more : List Char) : Prop :=
  ∀ c ∈ more.head?, isDigit c = false ∧ c ≠ '.' ∧ c ≠ 'e' ∧ c ≠ 'E'

/-- A reader that takes no notice of what stands behind its part. -/
def Local (read : Reader α) : Prop :=
  ∀ ⦃cs a rest more⦄, EndsNumber more → read cs = .ok (a, rest) →
    read (cs ++ more) = .ok (a, rest ++ more)

/-! ## Readers from readers -/

section

variable {read read' : Reader α}

theorem local_ok (a : α) : Local fun cs => .ok (a, cs) := by
  intro cs b rest more _ h
  cases h
  rfl

theorem local_error (fault : List Char → Fault) : Local fun cs => (.error (fault cs) : Except _ (α × _)) := by
  intro cs b rest more _ h
  cases h

theorem Local.bind {f : α → Reader β} (h : Local read) (hf : ∀ a, Local (f a)) :
    Local fun cs => (read cs).bind fun x => f x.1 x.2 := by
  intro cs b rest more hmore hread
  obtain ⟨⟨a, rest'⟩, ha, hb⟩ := exists_of_bind_eq_ok hread
  dsimp only
  rw [h hmore ha]
  exact hf a hmore hb

theorem Local.map (h : Local read) (f : α → β) :
    Local fun cs => (read cs).bind fun x => .ok (f x.1, x.2) :=
  h.bind fun a => local_ok (f a)

theorem Local.ite {p : Prop} [Decidable p] (h : Local read) (h' : Local read') :
    Local fun cs => if p then read cs else read' cs := by
  split
  · exact h
  · exact h'

/-- A reader that fails on the empty text is looked at behind the first character. -/
theorem Local.of_cons (hnil : ∀ x, read [] ≠ .ok x) (hcons : ∀ c, Local fun cs => read (c :: cs)) :
    Local read := by
  intro cs a rest more hmore h
  cases cs with
  | nil => exact (hnil _ h).elim
  | cons c cs => exact hcons c hmore h

/-- A reader may be looked at behind any first character. -/
theorem Local.cons (h : Local read) (c : Char) : Local fun cs => read (c :: cs) :=
  fun _ _ _ _ hmore hread => h hmore hread

theorem skip_append (more : List Char) (h : skip cs ≠ []) : skip (cs ++ more) = skip cs ++ more := by
  unfold skip at h ⊢
  rw [List.dropWhile_append, if_neg (by simpa using h)]

/-- Blanks in front are skipped. -/
theorem Local.skip (hnil : ∀ x, read [] ≠ .ok x) (h : Local read) : Local fun cs => read (skip cs) := by
  intro cs a rest more hmore hread
  have hne : Json.skip cs ≠ [] := by
    intro hs
    dsimp only at hread
    rw [hs] at hread
    exact hnil _ hread
  dsimp only
  rw [skip_append more hne]
  exact h hmore hread

end

/-! ## Literals and strings -/

/-- The letters of a literal. -/
theorem readIdent_append {word : List Char} (more : List Char) (h : readIdent word cs = .ok rest) :
    readIdent word (cs ++ more) = .ok (rest ++ more) := by
  induction word generalizing cs with
  | nil =>
    cases h
    rfl
  | cons a word ih =>
    cases cs with
    | nil => cases h
    | cons c cs =>
      rw [List.cons_append]
      unfold readIdent at h ⊢
      split
      · rename_i hc
        rw [if_pos hc] at h
        exact ih h
      · rename_i hc
        rw [if_neg hc] at h
        cases h

theorem readHex_local : Local readHex := by
  intro cs n rest more _ h
  unfold readHex at h
  split at h
  · cases h
  · split at h
    · rename_i a b c d hdigits
      cases h
      -- the four digits stand at the front of the text
      match cs, hdigits with
      | w :: x :: y :: z :: cs, hdigits =>
        have hlength : ¬ octets (w :: x :: y :: z :: cs ++ more) < 4 := by
          have hle := length_le_octets (w :: x :: y :: z :: cs ++ more)
          simp only [List.cons_append, List.length_cons] at hle ⊢
          omega
        unfold readHex
        rw [if_neg hlength]
        simp only [List.cons_append, List.take_succ_cons, List.take_zero] at hdigits ⊢
        rw [hdigits]
        rfl
      | [], hdigits | [_], hdigits | [_, _], hdigits | [_, _, _], hdigits =>
        simp [Option.bind_eq_some_iff] at hdigits
    · cases h

theorem readUnit_local (n : ℕ) : Local (readUnit n) := by
  refine (local_error _).ite (.ite ?_ (local_ok _))
  intro cs c rest more hmore h
  dsimp only at h
  split at h
  · cases h
  · cases h
  · -- the other half of a pair, behind its escape sign
    obtain ⟨⟨m, rest'⟩, hm, h⟩ := exists_of_bind_eq_ok h
    have hhex := readHex_local hmore hm
    simp only [List.cons_append, hhex, Bind.bind, Except.bind]
    dsimp only at h
    generalize Char.ofNat ((n - 0xD800) * 0x400 + (m - 0xDC00) + 0x10000) = pair at h ⊢
    exact (local_ok pair).ite (local_error _) hmore h
  · cases h
  · cases h

theorem readEscape_local (checked : Bool) : Local (readEscape checked) := by
  refine .of_cons (fun _ h => by cases h) fun c => ?_
  by_cases hc : c = 'u'
  · subst hc
    refine readHex_local.bind (f := fun n cs =>
      if checked then readUnit n cs else .ok (Char.ofNat n, cs)) fun n => ?_
    exact (readUnit_local n).ite (local_ok (Char.ofNat n))
  · have hletter : ∀ cs, readEscape checked (c :: cs) = _ := fun cs =>
      readEscape.eq_3 checked c cs hc
    simp only [hletter]
    exact (local_ok _).ite ((local_ok _).ite ((local_ok _).ite ((local_ok _).ite ((local_ok _).ite
      ((local_ok _).ite (local_error _))))))

theorem readPiece_local (checked : Bool) : Local (readPiece checked) := by
  refine .of_cons (fun _ h => by cases h) fun c => ?_
  exact (local_ok _).ite (((readEscape_local checked).map some).ite
    ((local_error _).ite (local_ok _)))

/-- The pieces of a string, of which a longer text may have more. -/
theorem readPieces_append {checked : Bool} {seen : List Char} {name : String} {m : ℕ}
    (hmore : EndsNumber more) (h : readPieces checked n seen cs = .ok (name, rest)) (hm : n ≤ m) :
    readPieces checked m seen (cs ++ more) = .ok (name, rest ++ more) := by
  induction n generalizing m seen cs with
  | zero => cases h
  | succ n ih =>
    obtain ⟨m, rfl⟩ : ∃ k, m = k + 1 := ⟨m - 1, by omega⟩
    obtain ⟨⟨c?, rest'⟩, hpiece, h⟩ := exists_of_bind_eq_ok h
    have hlocal := readPiece_local checked hmore hpiece
    unfold readPieces
    rw [hlocal]
    cases c? with
    | none =>
      cases h
      rfl
    | some c => exact ih h (by omega)

theorem readString_local (checked : Bool) : Local (readString checked) := by
  intro cs name rest more hmore h
  exact readPieces_append hmore h (by simp)

/-! ## Numbers -/

theorem EndsNumber.takeWhile_append (h : EndsNumber more) (cs : List Char) :
    (cs ++ more).takeWhile isDigit = cs.takeWhile isDigit := by
  induction cs with
  | nil =>
    cases more with
    | nil => rfl
    | cons c more => exact List.takeWhile_cons_of_neg (by simp [(h c rfl).1])
  | cons c cs ih =>
    simp only [List.cons_append, List.takeWhile_cons, ih]

theorem EndsNumber.dropWhile_append (h : EndsNumber more) (cs : List Char) :
    (cs ++ more).dropWhile isDigit = cs.dropWhile isDigit ++ more := by
  induction cs with
  | nil =>
    cases more with
    | nil => rfl
    | cons c more => exact List.dropWhile_cons_of_neg (by simp [(h c rfl).1])
  | cons c cs ih =>
    simp only [List.cons_append, List.dropWhile_cons, ih]
    split <;> rfl

/-- The digits of an exponent end where its text does. -/
theorem EndsNumber.addExponent_append (h : EndsNumber more) (sum : ℕ) (cs : List Char) :
    addExponent sum (cs ++ more) =
      match addExponent sum cs with
      | .ok x => .ok (x.1, x.2 ++ more)
      | .error rest => .error (rest ++ more) := by
  induction cs generalizing sum with
  | nil =>
    cases more with
    | nil => rfl
    | cons c more => simp [addExponent, (h c rfl).1]
  | cons c cs ih =>
    rw [List.cons_append]
    unfold addExponent
    dsimp only
    split
    · split
      · exact ih _
      · rfl
    · rfl

theorem scaled_local (minus : Bool) (significand : ℕ) (exponent : Int) :
    Local (scaled minus significand exponent) := by
  unfold scaled
  split
  · exact local_ok _
  · exact local_error _

/-- The digits of an exponent, of which it is known whether it is negative. -/
def readDigits (minus : Bool) (significand : ℕ) (exponent : Int) (down : Bool) : Reader Number
  | [] => .error (.before .eofValue [])
  | c :: rest =>
    if isDigit c then
      match addExponent (digitValue c) rest with
      | .ok (e, rest) => scaled minus significand (if down then exponent - e else exponent + e) rest
      | .error rest =>
        if significand ≠ 0 ∧ !down then .error (.before .numberOutOfRange rest)
        else .ok (.float minus ⟨0⟩, rest.dropWhile isDigit)
    else .error (.at .invalidNumber (c :: rest))

/-- The sign in front of an exponent, and what stands behind it. -/
def exponentSign (cs : List Char) : Bool × List Char :=
  match cs with
  | '+' :: rest => (false, rest)
  | '-' :: rest => (true, rest)
  | _ => (false, cs)

theorem exponentSign_cons (c : Char) (cs : List Char) :
    exponentSign (c :: cs) =
      if c = '+' then (false, cs) else if c = '-' then (true, cs) else (false, c :: cs) := by
  unfold exponentSign
  split <;> simp_all

theorem readExponent_eq (minus : Bool) (significand : ℕ) (exponent : Int) (cs : List Char) :
    readExponent minus significand exponent cs =
      readDigits minus significand exponent (exponentSign cs).1 (exponentSign cs).2 := by
  unfold readExponent readDigits exponentSign
  rfl

theorem readDigits_local (minus : Bool) (significand : ℕ) (exponent : Int) (down : Bool) :
    Local (readDigits minus significand exponent down) := by
  refine .of_cons (fun _ h => by cases h) fun c => .ite ?_ (local_error _)
  intro cs n rest more hmore h
  dsimp only at h ⊢
  rw [hmore.addExponent_append]
  cases he : addExponent (digitValue c) cs with
  | ok x =>
    rw [he] at h
    exact scaled_local minus significand _ hmore h
  | error cs' =>
    rw [he] at h
    dsimp only at h ⊢
    rw [hmore.dropWhile_append]
    split at h
    · cases h
    · rename_i hlarge
      rw [if_neg hlarge]
      cases h
      rfl

theorem readExponent_local (minus : Bool) (significand : ℕ) (exponent : Int) :
    Local (readExponent minus significand exponent) := by
  intro cs n rest more hmore h
  rw [readExponent_eq] at h ⊢
  have hsign : exponentSign (cs ++ more) = ((exponentSign cs).1, (exponentSign cs).2 ++ more) := by
    cases cs with
    | nil => cases h
    | cons c cs =>
      rw [List.cons_append, exponentSign_cons, exponentSign_cons]
      split
      · rfl
      · split <;> rfl
  rw [hsign]
  exact readDigits_local minus significand exponent _ hmore h

/-- What stands behind the digits of a fraction: an exponent, or nothing of the number. -/
theorem readScale_cons (minus : Bool) (significand : ℕ) (exponent : Int) (c : Char) (cs : List Char) :
    readScale minus significand exponent (c :: cs) =
      if c = 'e' ∨ c = 'E' then readExponent minus significand exponent cs
      else scaled minus significand exponent (c :: cs) := by
  unfold readScale
  split <;> simp_all

theorem readScale_local (minus : Bool) (significand : ℕ) (exponent : Int) :
    Local (readScale minus significand exponent) := by
  intro cs n rest more hmore h
  cases cs with
  | nil =>
    have hscaled : readScale minus significand exponent more =
        scaled minus significand exponent more := by
      cases more with
      | nil => rfl
      | cons c more =>
        obtain ⟨-, -, he, hE⟩ := hmore c rfl
        rw [readScale_cons, if_neg (by simp [he, hE])]
    rw [List.nil_append, hscaled]
    exact scaled_local minus significand exponent hmore h
  | cons c cs =>
    rw [List.cons_append]
    rw [readScale_cons] at h ⊢
    exact (readExponent_local minus significand exponent).ite
      ((scaled_local minus significand exponent).cons c) hmore h

theorem readFraction_local (minus : Bool) (significand : ℕ) (exponent : Int) :
    Local (readFraction minus significand exponent) := by
  intro cs n rest more hmore h
  unfold readFraction at h ⊢
  rw [hmore.takeWhile_append, hmore.dropWhile_append]
  dsimp only at h ⊢
  split at h
  · split at h <;> cases h
  · rename_i hdigits
    rw [if_neg hdigits]
    exact readScale_local minus _ _ hmore h

/-- What stands behind the whole digits: a fraction, an exponent, or nothing of the number. -/
theorem readTail_cons (minus exact : Bool) (significand : ℕ) (exponent : Int) (c : Char)
    (cs : List Char) : readTail minus exact significand exponent (c :: cs) =
      if c = '.' then readFraction minus significand exponent cs
      else if c = 'e' ∨ c = 'E' then readExponent minus significand exponent cs
      else if exact then .ok (Number.ofInteger minus significand, c :: cs)
      else scaled minus significand exponent (c :: cs) := by
  unfold readTail
  split <;> simp_all

/-- A number that has ended with its whole digits. -/
theorem readTail_end_local (minus exact : Bool) (significand : ℕ) (exponent : Int) :
    Local fun cs => if exact then .ok (Number.ofInteger minus significand, cs)
      else scaled minus significand exponent cs :=
  (local_ok _).ite (scaled_local minus significand exponent)

theorem readTail_local (minus exact : Bool) (significand : ℕ) (exponent : Int) :
    Local (readTail minus exact significand exponent) := by
  intro cs n rest more hmore h
  cases cs with
  | nil =>
    have hend : readTail minus exact significand exponent more =
        if exact then .ok (Number.ofInteger minus significand, more)
        else scaled minus significand exponent more := by
      cases more with
      | nil => rfl
      | cons c more =>
        obtain ⟨-, hpoint, he, hE⟩ := hmore c rfl
        rw [readTail_cons, if_neg hpoint, if_neg (by simp [he, hE])]
    rw [List.nil_append, hend]
    exact readTail_end_local minus exact significand exponent hmore h
  | cons c cs =>
    rw [List.cons_append]
    rw [readTail_cons] at h ⊢
    exact (readFraction_local minus significand exponent).ite
      ((readExponent_local minus significand exponent).ite
        ((readTail_end_local minus exact significand exponent).cons c)) hmore h

theorem readNumber_zero (minus : Bool) (cs : List Char) : readNumber minus ('0' :: cs) =
    if cs.head?.any isDigit then .error (.at .invalidNumber cs) else readTail minus true 0 0 cs := by
  cases cs <;> simp only [readNumber, if_pos] <;> rfl

theorem readNumber_local (minus : Bool) : Local (readNumber minus) := by
  refine .of_cons (fun _ h => by cases h) fun c => ?_
  by_cases hzero : c = '0'
  · subst hzero
    intro cs n rest more hmore h
    dsimp only at h ⊢
    rw [readNumber_zero] at h ⊢
    split at h
    · cases h
    · rename_i hdigit
      have hdigit' : ¬ (cs ++ more).head?.any isDigit = true := by
        cases cs with
        | nil =>
          cases more with
          | nil => exact hdigit
          | cons c more => simp [(hmore c rfl).1]
        | cons c cs => exact hdigit
      rw [if_neg hdigit']
      exact readTail_local minus true 0 0 hmore h
  · intro cs n rest more hmore h
    simp only [readNumber, if_neg hzero] at h ⊢
    split at h
    · rename_i hdigit
      rw [if_pos hdigit, hmore.takeWhile_append, hmore.dropWhile_append]
      exact readTail_local minus _ _ _ hmore h
    · cases h

/-! ## Values -/

/-- A literal, which is read as the given value. -/
theorem literal_local (word : List Char) (a : α) :
    Local fun cs => (readIdent word cs).bind fun rest => .ok (a, rest) := by
  intro cs b rest more _ h
  obtain ⟨rest', hident, h⟩ := exists_of_bind_eq_ok h
  cases h
  dsimp only
  rw [readIdent_append more hident]
  rfl

theorem readScalar_local : Local readScalar := by
  refine .of_cons (fun _ h => by cases h) fun c => ?_
  exact (literal_local _ _).ite ((literal_local _ _).ite ((literal_local _ _).ite
    (((readString_local true).map _).ite (((readNumber_local true).map _).ite
      ((((readNumber_local false).cons c).map _).ite (local_error _))))))

/-! ## Lists and objects -/

/-- What `nextItem` does behind the blanks. -/
theorem nextItem_of_skip {c : Char} {front : List Char} (first : Bool) (hs : skip cs = c :: front) :
    nextItem first cs =
      if c = ']' then .ok (none, c :: front)
      else if first then .ok (some (c :: front), c :: front)
      else if c = ',' then
        match skip front with
        | [] => .error (.at .eofValue [])
        | d :: rest =>
          if d = ']' then .error (.at .trailingComma (d :: rest))
          else .ok (some (d :: rest), d :: rest)
      else .error (.at .expectedListEnd (c :: front)) := by
  unfold nextItem
  rw [hs]
  by_cases hc : c = ']'
  · subst hc
    rfl
  rw [if_neg hc]
  cases first with
  | true => simp
  | false =>
    cases hs' : skip front with
    | nil => simp [hs']
    | cons d rest => by_cases hd : d = ']' <;> simp [hs', hd]

/-- The front of an item, with more text behind it. -/
theorem nextItem_append {first : Bool} {front? : Option (List Char)} (more : List Char)
    (h : nextItem first cs = .ok (front?, rest)) :
    nextItem first (cs ++ more) = .ok (front?.map (· ++ more), rest ++ more) := by
  cases hs : skip cs with
  | nil =>
    unfold nextItem at h
    rw [hs] at h
    cases h
  | cons c front =>
    have hs' : skip (cs ++ more) = c :: (front ++ more) := by
      rw [skip_append more (by simp [hs]), hs, List.cons_append]
    rw [nextItem_of_skip first hs] at h
    rw [nextItem_of_skip first hs']
    split at h
    · rename_i hc
      rw [if_pos hc]
      cases h
      rfl
    rename_i hc
    rw [if_neg hc]
    split at h
    · rename_i hfirst
      rw [if_pos hfirst]
      cases h
      rfl
    rename_i hfirst
    rw [if_neg hfirst]
    split at h
    · rename_i hcomma
      rw [if_pos hcomma]
      cases hd : skip front with
      | nil =>
        rw [hd] at h
        cases h
      | cons d rest' =>
        rw [skip_append more (by simp [hd]), hd]
        rw [hd] at h
        dsimp only [List.cons_append] at h ⊢
        split at h
        · cases h
        · rename_i hclose
          rw [if_neg hclose]
          cases h
          rfl
    · cases h

/-- What `nextMember` does behind the blanks. -/
theorem nextMember_of_skip {c : Char} {front : List Char} (first : Bool) (hs : skip cs = c :: front) :
    nextMember first cs =
      if c = '\x7d' then .ok (none, c :: front)
      else if first then
        if c = '"' then (readString true front).bind fun x => .ok (some x.1, x.2)
        else .error (.at .keyNotString (c :: front))
      else if c = ',' then
        match skip front with
        | [] => .error (.at .eofValue [])
        | d :: rest =>
          if d = '"' then (readString true rest).bind fun x => .ok (some x.1, x.2)
          else .error (.at (if d = '\x7d' then .trailingComma else .keyNotString) (d :: rest))
      else .error (.at .expectedObjectEnd (c :: front)) := by
  unfold nextMember
  rw [hs]
  by_cases hc : c = '\x7d'
  · subst hc
    rfl
  rw [if_neg hc]
  cases first with
  | true =>
    simp
    rfl
  | false =>
    cases hs' : skip front with
    | nil => simp [hs']
    | cons d rest =>
      by_cases hd : d = '"'
      · simp [hs', hd]
        rfl
      · by_cases hd' : d = '\x7d' <;> simp [hs', hd, hd']

theorem nextMember_local (first : Bool) : Local (nextMember first) := by
  intro cs name rest more hmore h
  cases hs : skip cs with
  | nil =>
    unfold nextMember at h
    rw [hs] at h
    cases h
  | cons c front =>
    have hs' : skip (cs ++ more) = c :: (front ++ more) := by
      rw [skip_append more (by simp [hs]), hs, List.cons_append]
    rw [nextMember_of_skip first hs] at h
    rw [nextMember_of_skip first hs']
    have hname : Local fun cs => (readString true cs).bind fun x => .ok (some x.1, x.2) :=
      (readString_local true).map some
    have hbehind : Local fun cs => match cs with
        | [] => .error (.at .eofValue [])
        | d :: rest =>
          if d = '"' then (readString true rest).bind fun x => .ok (some x.1, x.2)
          else .error (.at (if d = '\x7d' then .trailingComma else .keyNotString) (d :: rest)) :=
      .of_cons (fun _ h => by cases h) fun d => hname.ite (local_error _)
    exact ((local_ok none).cons c).ite
      ((hname.ite (local_error fun front => .at .keyNotString (c :: front))).ite
        ((hbehind.skip fun _ h => by cases h).ite
          (local_error fun front => .at .expectedObjectEnd (c :: front)))) hmore h

/-- A walk ends in front of a bracket. -/
theorem nextItem_none {first : Bool} (h : nextItem first cs = .ok (none, rest)) : rest ≠ [] := by
  rintro rfl
  cases hs : skip cs with
  | nil =>
    unfold nextItem at h
    rw [hs] at h
    cases h
  | cons c front =>
    rw [nextItem_of_skip first hs] at h
    split at h
    · cases h
    split at h
    · cases h
    split at h
    · split at h
      · cases h
      · split at h <;> cases h
    · cases h

theorem nextMember_none {first : Bool} (h : nextMember first cs = .ok (none, rest)) : rest ≠ [] := by
  have hname : ∀ front : List Char,
      ((readString true front).bind fun x => .ok (some x.1, x.2)) ≠ .ok (none, rest) := by
    intro front hread
    obtain ⟨x, -, hx⟩ := exists_of_bind_eq_ok hread
    cases hx
  rintro rfl
  cases hs : skip cs with
  | nil =>
    unfold nextMember at h
    rw [hs] at h
    cases h
  | cons c front =>
    rw [nextMember_of_skip first hs] at h
    split at h
    · cases h
    split at h
    · split at h
      · exact hname _ h
      · cases h
    split at h
    · split at h
      · cases h
      · split at h
        · exact hname _ h
        · cases h
    · cases h

/-- The items of a list, of which a longer text may have more. -/
theorem foldItems_append {item : σ → Reader σ} (hitem : ∀ s, Local (item s)) {first : Bool} {m : ℕ}
    (hmore : EndsNumber more) (h : foldItems item n first s cs = .ok (s', rest)) (hm : n ≤ m) :
    foldItems item m first s (cs ++ more) = .ok (s', rest ++ more) := by
  induction n generalizing m first s cs with
  | zero => cases h
  | succ n ih =>
    obtain ⟨m, rfl⟩ : ∃ k, m = k + 1 := ⟨m - 1, by omega⟩
    obtain ⟨⟨front?, rest'⟩, hnext, h⟩ := exists_of_bind_eq_ok h
    unfold foldItems
    rw [nextItem_append more hnext]
    cases front? with
    | none =>
      cases h
      change Except.ok (s', (rest' ++ more).drop 1) = _
      rw [List.drop_append_of_le_length (List.length_pos_iff.2 (nextItem_none hnext))]
    | some front =>
      obtain ⟨⟨s₁, rest₁⟩, hs₁, h⟩ := exists_of_bind_eq_ok h
      change (item s (front ++ more)).bind _ = _
      rw [hitem s hmore hs₁]
      exact ih h (by omega)

/-- The members of an object, of which a longer text may have more. -/
theorem foldMembers_append {member : σ → String → Reader σ} (hmember : ∀ s name, Local (member s name))
    {first : Bool} {m : ℕ} (hmore : EndsNumber more)
    (h : foldMembers member n first s cs = .ok (s', rest)) (hm : n ≤ m) :
    foldMembers member m first s (cs ++ more) = .ok (s', rest ++ more) := by
  induction n generalizing m first s cs with
  | zero => cases h
  | succ n ih =>
    obtain ⟨m, rfl⟩ : ∃ k, m = k + 1 := ⟨m - 1, by omega⟩
    obtain ⟨⟨name?, rest'⟩, hnext, h⟩ := exists_of_bind_eq_ok h
    unfold foldMembers
    rw [nextMember_local first hmore hnext]
    cases name? with
    | none =>
      cases h
      change Except.ok (s', (rest' ++ more).drop 1) = _
      rw [List.drop_append_of_le_length (List.length_pos_iff.2 (nextMember_none hnext))]
    | some name =>
      obtain ⟨⟨s₁, rest₁⟩, hs₁, h⟩ := exists_of_bind_eq_ok h
      change (member s name (rest' ++ more)).bind _ = _
      rw [hmember s name hmore hs₁]
      exact ih h (by omega)

theorem readItems_local {item : σ → Reader σ} (hitem : ∀ s, Local (item s)) (s : σ) :
    Local (readItems item s) := by
  intro cs s' rest more hmore h
  exact foldItems_append hitem hmore h (by simp)

theorem readMembers_local {member : σ → String → Reader σ}
    (hmember : ∀ s name, Local (member s name)) (s : σ) : Local (readMembers member s) := by
  intro cs s' rest more hmore h
  exact foldMembers_append hmember hmore h (by simp)

theorem readColon_local : Local readColon := by
  have hcolon : Local fun cs => match cs with
      | [] => .error (.at .eofObject [])
      | c :: rest => if c = ':' then .ok ((), rest) else .error (.at .expectedColon (c :: rest)) :=
    .of_cons (fun _ h => by cases h) fun c => (local_ok ()).ite (local_error _)
  exact hcolon.skip fun _ h => by cases h

theorem readMember_local {value : Reader Json} (hvalue : Local value)
    (seen : List (String × Json)) (name : String) : Local (readMember value seen name) :=
  readColon_local.bind fun _ => hvalue.map fun v => (name, v) :: seen

theorem readArray_local {item : Reader Json} (hitem : Local item) : Local (readArray item) := by
  have hstep : ∀ seen, Local (readItem item seen) := fun seen => hitem.map (· :: seen)
  exact (readItems_local hstep []).map fun seen => Json.array seen.reverse

theorem readObject_local {value : Reader Json} (hvalue : Local value) : Local (readObject value) :=
  (readMembers_local (readMember_local hvalue) []).map fun seen => Json.object seen.reverse

/-- A list, an object or another value, from its first character. -/
theorem bracketed_local {list object : Reader Json} (hlist : Local list) (hobject : Local object) :
    Local fun cs => match cs with
      | '[' :: rest => list rest
      | '\x7b' :: rest => object rest
      | rest => readScalar rest := by
  refine .of_cons (fun _ h => by cases h) fun c => ?_
  by_cases hc : c = '['
  · subst hc
    exact hlist
  by_cases hc' : c = '\x7b'
  · subst hc'
    exact hobject
  · have hscalar : ∀ cs, (match c :: cs with
        | '[' :: rest => list rest
        | '\x7b' :: rest => object rest
        | rest => readScalar rest) = readScalar (c :: cs) := by
      intro cs
      split <;> simp_all
    simp only [hscalar]
    exact readScalar_local.cons c

/-- **A value is read in the same way whatever stands behind it**, unless it is a number that goes on
there. -/
theorem readValue_local (d : ℕ) : Local (readValue d) := by
  induction d with
  | zero => exact (bracketed_local (local_error _) (local_error _)).skip fun _ h => by cases h
  | succ d ih =>
    exact (bracketed_local (readArray_local ih) (readObject_local ih)).skip fun _ h => by cases h

end VolumeNode.Json
