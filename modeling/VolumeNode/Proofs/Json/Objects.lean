import VolumeNode.Proofs.Json.Locality

/-!
# Objects from the texts of their parts

A text that is put together from names and values is read as the object of these members, whatever text
each of them has, if each is accepted on its own and none is nested too deep.

* `Accepts`: a text that is accepted on its own.
* `IsObject`: a text that is put together from such texts.
* `parse_of_isObject`: it is read as the object with these members.
-/

namespace VolumeNode.Json

variable {cs rest body behind blanks : List Char} {d n : ℕ} {v : Json} {name : String}
  {seen members : List (String × Json)} {first : Bool}

/-- Whether a text has nothing but blanks. -/
def Blank (cs : List Char) : Prop :=
  skip cs = []

/-- **Whether a text is accepted on its own** as a value that is nested at most so deep. -/
def Accepts (d : ℕ) (text : List Char) (v : Json) : Prop :=
  ∃ rest, readValue d text = .ok (v, rest) ∧ Blank rest

theorem readEnd_eq_ok : readEnd cs = .ok () ↔ Blank cs := by
  unfold readEnd Blank
  cases skip cs <;> simp

/-- A whole text is accepted exactly if it is read as the value. -/
theorem parse_eq_ok (text : List Char) (v : Json) : parse text = .ok v ↔ Accepts maxDepth text v := by
  constructor
  · intro h
    obtain ⟨⟨w, rest⟩, hread, h⟩ := exists_of_bind_eq_ok h
    obtain ⟨_, hend, h⟩ := exists_of_bind_eq_ok h
    cases h
    exact ⟨rest, hread, readEnd_eq_ok.1 hend⟩
  · rintro ⟨rest, hread, hblank⟩
    have hend := readEnd_eq_ok.2 hblank
    simp [parse, hread, hend, bind, Except.bind]

/-- What is written is accepted. -/
theorem accepts_write (h : Plain d v) : Accepts d (write v) v := by
  refine ⟨[], ?_, rfl⟩
  have hread := readValue_write h []
  rwa [List.append_nil] at hread

/-- The texts of some members: names and values, each accepted on its own, with the signs between
them. -/
inductive IsMembers (d : ℕ) : List Char → List (String × Json) → Prop where
  | one {label text : List Char} {name : String} {v : Json} (hname : Accepts 0 label (.string name))
      (hv : Accepts d text v) : IsMembers d (label ++ ':' :: text) [(name, v)]
  | cons {label text body : List Char} {name : String} {v : Json} {members : List (String × Json)}
      (hname : Accepts 0 label (.string name)) (hv : Accepts d text v) (h : IsMembers d body members) :
      IsMembers d (label ++ ':' :: (text ++ ',' :: body)) ((name, v) :: members)

/-- **The texts of an object**, put together from those of its names and values, which are nested at most
so deep. -/
inductive IsObject (d : ℕ) : List Char → List (String × Json) → Prop where
  | empty {before inside behind : List Char} (hbefore : Blank before) (hinside : Blank inside)
      (hbehind : Blank behind) : IsObject d (before ++ '\x7b' :: (inside ++ '\x7d' :: behind)) []
  | members {before body behind : List Char} {members : List (String × Json)} (hbefore : Blank before)
      (h : IsMembers d body members) (hbehind : Blank behind) :
      IsObject d (before ++ '\x7b' :: (body ++ '\x7d' :: behind)) members

theorem Blank.skip_append {c : Char} (h : Blank blanks) (hc : isSpace c = false) (cs : List Char) :
    skip (blanks ++ c :: cs) = c :: cs := by
  unfold Blank skip at h
  unfold skip
  rw [List.dropWhile_append, h]
  exact skip_cons hc cs

/-- A value that is no list and no object; a string begins with a quote. -/
theorem readScalar_cases (h : readScalar cs = .ok (v, rest)) :
    v = .null ∨ (∃ b, v = .bool b) ∨ (∃ n, v = .number n) ∨
      ∃ s front, v = .string s ∧ cs = '"' :: front ∧ readString true front = .ok (s, rest) := by
  unfold readScalar at h
  split at h
  · cases h
  rename_i c front
  split at h
  · obtain ⟨_, -, h⟩ := exists_of_bind_eq_ok h
    cases h
    exact Or.inl rfl
  split at h
  · obtain ⟨_, -, h⟩ := exists_of_bind_eq_ok h
    cases h
    exact Or.inr (Or.inl ⟨true, rfl⟩)
  split at h
  · obtain ⟨_, -, h⟩ := exists_of_bind_eq_ok h
    cases h
    exact Or.inr (Or.inl ⟨false, rfl⟩)
  split at h
  · rename_i hquote
    obtain ⟨⟨s, rest'⟩, hs, h⟩ := exists_of_bind_eq_ok h
    cases h
    exact Or.inr (Or.inr (Or.inr ⟨s, front, rfl, by rw [hquote], hs⟩))
  split at h
  · obtain ⟨⟨n, rest'⟩, -, h⟩ := exists_of_bind_eq_ok h
    cases h
    exact Or.inr (Or.inr (Or.inl ⟨n, rfl⟩))
  split at h
  · obtain ⟨⟨n, rest'⟩, -, h⟩ := exists_of_bind_eq_ok h
    cases h
    exact Or.inr (Or.inr (Or.inl ⟨n, rfl⟩))
  · cases h

theorem readScalar_eq_string (h : readScalar cs = .ok (.string name, rest)) :
    ∃ front, cs = '"' :: front ∧ readString true front = .ok (name, rest) := by
  rcases readScalar_cases h with h | ⟨b, h⟩ | ⟨n, h⟩ | ⟨s, front, h, hcs, hs⟩
  · cases h
  · cases h
  · cases h
  · cases h
    exact ⟨front, hcs, hs⟩

/-- A text that is read as a string begins with a quote. -/
theorem readValue_eq_string (h : readValue d cs = .ok (.string name, rest)) :
    ∃ front, skip cs = '"' :: front ∧ readString true front = .ok (name, rest) := by
  cases d with
  | zero =>
    unfold readValue at h
    split at h
    · cases h
    · cases h
    · exact readScalar_eq_string h
  | succ d =>
    unfold readValue at h
    split at h
    · obtain ⟨_, -, h⟩ := exists_of_bind_eq_ok h
      cases h
    · obtain ⟨_, -, h⟩ := exists_of_bind_eq_ok h
      cases h
    · exact readScalar_eq_string h

/-- A text that is read as an object begins with a bracket, and its members are read behind that. -/
theorem readValue_eq_object (h : readValue (d + 1) cs = .ok (.object members, rest)) :
    ∃ front, skip cs = '\x7b' :: front ∧
      readMembers (readMember (readValue d)) [] front = .ok (members.reverse, rest) := by
  unfold readValue at h
  split at h
  · obtain ⟨_, -, h⟩ := exists_of_bind_eq_ok h
    cases h
  · rename_i front hskip
    obtain ⟨⟨seen, rest'⟩, hseen, h⟩ := exists_of_bind_eq_ok h
    cases h
    rw [List.reverse_reverse]
    exact ⟨front, hskip, hseen⟩
  · rcases readScalar_cases h with h | ⟨b, h⟩ | ⟨n, h⟩ | ⟨s, front, h, -⟩ <;> cases h

/-- A sign behind a value does not go on with a number. -/
theorem endsNumber_sign {c : Char} (hc : c = ':' ∨ c = ',' ∨ c = '\x7d') (cs : List Char) :
    EndsNumber (c :: cs) := by
  intro b hb
  cases hb
  rcases hc with rfl | rfl | rfl <;> decide

/-- Whether a text begins with the first member of another text, or with one behind a comma. -/
def AtMember (first : Bool) (body cs : List Char) : Prop :=
  (first = true ∧ cs = body) ∨
    (first = false ∧ ∃ blanks, Blank blanks ∧ cs = blanks ++ ',' :: body)

/-- The name of a member, from its text. -/
theorem nextMember_of_accepts {label more : List Char} (h : Accepts 0 label (.string name))
    (hmore : EndsNumber more) (hcs : AtMember first (label ++ more) cs) :
    ∃ rest, Blank rest ∧ nextMember first cs = .ok (some name, rest ++ more) := by
  obtain ⟨rest, hread, hrest⟩ := h
  obtain ⟨front, hfront, hstring⟩ := readValue_eq_string hread
  have hskip : skip (label ++ more) = '"' :: (front ++ more) := by
    rw [skip_append more (by simp [hfront]), hfront, List.cons_append]
  have hname := readString_local true hmore hstring
  refine ⟨rest, hrest, ?_⟩
  rcases hcs with ⟨rfl, rfl⟩ | ⟨rfl, blanks, hblanks, rfl⟩
  · rw [nextMember_of_skip true hskip]
    simp [hname, Except.bind]
  · rw [nextMember_of_skip false (hblanks.skip_append rfl _)]
    simp [hskip, hname, Except.bind]

/-- The value of a member, from its text. -/
theorem readMember_of_accepts (seen : List (String × Json)) (name : String) {text more : List Char}
    (hblanks : Blank blanks) (h : Accepts d text v) (hmore : EndsNumber more) : ∃ rest, Blank rest ∧
      readMember (readValue d) seen name (blanks ++ ':' :: (text ++ more)) =
        .ok ((name, v) :: seen, rest ++ more) := by
  obtain ⟨rest, hread, hrest⟩ := h
  refine ⟨rest, hrest, ?_⟩
  have hcolon : readColon (blanks ++ ':' :: (text ++ more)) = .ok ((), text ++ more) := by
    simp [readColon, hblanks.skip_append (show isSpace ':' = false from rfl)]
  simp [readMember, hcolon, readValue_local d hmore hread, bind, Except.bind]

/-- **The members of an object are read from the texts of their names and values**, up to the bracket
behind them. -/
theorem foldMembers_of_isMembers (h : IsMembers d body members) (hn : members.length < n)
    (hcs : AtMember first (body ++ '\x7d' :: behind) cs) :
    foldMembers (readMember (readValue d)) n first seen cs = .ok (members.reverse ++ seen, behind) := by
  induction h generalizing n first seen cs with
  | @one label text name v hname hv =>
    obtain ⟨n, rfl⟩ : ∃ k, n = k + 2 := ⟨n - 2, by simp at hn; omega⟩
    rw [List.append_assoc, List.cons_append] at hcs
    obtain ⟨rest, hrest, hlabel⟩ := nextMember_of_accepts hname (endsNumber_sign (Or.inl rfl) _) hcs
    obtain ⟨rest', hrest', hvalue⟩ := readMember_of_accepts seen name hrest hv
      (endsNumber_sign (Or.inr (Or.inr rfl)) behind)
    have hclose : nextMember false (rest' ++ '\x7d' :: behind) = .ok (none, '\x7d' :: behind) := by
      rw [nextMember_of_skip false (hrest'.skip_append rfl behind)]
      rfl
    simp [foldMembers, hlabel, hvalue, hclose, bind, Except.bind]
  | @cons label text body name v members hname hv h ih =>
    obtain ⟨n, rfl⟩ : ∃ k, n = k + 1 := ⟨n - 1, by omega⟩
    rw [List.append_assoc, List.cons_append, List.append_assoc, List.cons_append] at hcs
    obtain ⟨rest, hrest, hlabel⟩ := nextMember_of_accepts hname (endsNumber_sign (Or.inl rfl) _) hcs
    obtain ⟨rest', hrest', hvalue⟩ := readMember_of_accepts seen name hrest hv
      (endsNumber_sign (Or.inr (Or.inl rfl)) (body ++ '\x7d' :: behind))
    have hat : AtMember false (body ++ '\x7d' :: behind) (rest' ++ ',' :: (body ++ '\x7d' :: behind)) :=
      Or.inr ⟨rfl, rest', hrest', rfl⟩
    simp [foldMembers, hlabel, hvalue, ih (by simpa using hn) hat, bind, Except.bind]

theorem IsMembers.length_le (h : IsMembers d body members) : members.length ≤ body.length := by
  induction h with
  | one =>
    simp only [List.length_append, List.length_cons, List.length_nil]
    omega
  | cons _ _ _ ih =>
    simp only [List.length_append, List.length_cons]
    omega

/-- **A text that is put together from those of names and values is read as the object of these
members.** -/
theorem accepts_of_isObject (h : IsObject d cs members) : Accepts (d + 1) cs (.object members) := by
  have hread : ∀ {before front behind : List Char}, Blank before → Blank behind →
      readMembers (readMember (readValue d)) [] front = .ok (members.reverse, behind) →
      Accepts (d + 1) (before ++ '\x7b' :: front) (.object members) := by
    intro before front behind hbefore hbehind hmembers
    refine ⟨behind, ?_, hbehind⟩
    unfold readValue
    rw [hbefore.skip_append rfl]
    simp [readObject, hmembers, bind, Except.bind]
  cases h with
  | empty hbefore hinside hbehind =>
    refine hread hbefore hbehind ?_
    unfold readMembers foldMembers
    rw [nextMember_of_skip true (hinside.skip_append rfl _)]
    rfl
  | @members before body behind members hbefore h hbehind =>
    refine hread hbefore hbehind ?_
    have hn : members.length < (body ++ '\x7d' :: behind).length + 1 := by
      have hlength := h.length_le
      rw [List.length_append]
      omega
    have hfold : readMembers (readMember (readValue d)) [] (body ++ '\x7d' :: behind) =
        .ok (members.reverse ++ [], behind) := foldMembers_of_isMembers h hn (Or.inl ⟨rfl, rfl⟩)
    rwa [List.append_nil] at hfold

theorem parse_of_isObject (h : IsObject (maxDepth - 1) cs members) :
    parse cs = .ok (.object members) :=
  (parse_eq_ok cs _).2 (accepts_of_isObject h)

end VolumeNode.Json
