/-!
# Text in pieces

A text is cut at every occurrence of a character; there is always one piece more than there are
occurrences. Main statements:

* `pieces_eq_iff`: the pieces are those without the character that give the text with the character
  between them.
* `splitAt_append`: a text behind the character is cut for itself.
-/

namespace VolumeNode.Text

/-- What stands between the occurrences of a character. -/
def pieces (mark : Char) : List Char → List (List Char)
  | [] => [[]]
  | c :: rest =>
    if c = mark then [] :: pieces mark rest
    else
      match pieces mark rest with
      | [] => [[c]]
      | piece :: others => (c :: piece) :: others

/-- The pieces of a text. -/
def splitAt (mark : Char) (s : String) : List String :=
  (pieces mark s.toList).map String.ofList

variable {mark c : Char} {cs piece : List Char} {others : List (List Char)}

theorem pieces_ne_nil (mark : Char) (cs : List Char) : pieces mark cs ≠ [] := by
  cases cs with
  | nil => exact List.cons_ne_nil _ _
  | cons c rest =>
    rw [pieces]
    split
    · exact List.cons_ne_nil _ _
    · split <;> exact List.cons_ne_nil _ _

theorem pieces_cons_self (mark : Char) (cs : List Char) :
    pieces mark (mark :: cs) = [] :: pieces mark cs := by
  rw [pieces, if_pos rfl]

theorem pieces_cons_of_ne (hc : c ≠ mark) (h : pieces mark cs = piece :: others) :
    pieces mark (c :: cs) = (c :: piece) :: others := by
  rw [pieces, if_neg hc, h]

/-- The pieces with the character between them are the text. -/
theorem intercalate_pieces (mark : Char) (cs : List Char) :
    [mark].intercalate (pieces mark cs) = cs := by
  induction cs with
  | nil => rfl
  | cons c rest ih =>
    obtain ⟨piece, others, hp⟩ := List.exists_cons_of_ne_nil (pieces_ne_nil mark rest)
    by_cases hc : c = mark
    · rw [hc, pieces_cons_self]
      rw [hp] at ih ⊢
      simpa using ih
    · rw [pieces_cons_of_ne hc hp]
      rw [hp] at ih
      cases others with
      | nil => simpa using ih
      | cons next others => simpa using ih

/-- No piece holds the character. -/
theorem not_mem_of_mem_pieces (h : piece ∈ pieces mark cs) : mark ∉ piece := by
  induction cs generalizing piece with
  | nil =>
    rw [List.mem_singleton.1 h]
    exact List.not_mem_nil
  | cons c rest ih =>
    obtain ⟨front, others, hp⟩ := List.exists_cons_of_ne_nil (pieces_ne_nil mark rest)
    by_cases hc : c = mark
    · rw [hc, pieces_cons_self] at h
      rcases List.mem_cons.1 h with rfl | h
      · exact List.not_mem_nil
      · exact ih h
    · rw [pieces_cons_of_ne hc hp] at h
      rw [hp] at ih
      rcases List.mem_cons.1 h with rfl | h
      · exact fun hm => (List.mem_cons.1 hm).elim (fun he => hc he.symm) (ih List.mem_cons_self)
      · exact ih (List.mem_cons_of_mem _ h)

/-- A text behind the character is cut for itself. -/
theorem pieces_append (cs ds : List Char) :
    pieces mark (cs ++ mark :: ds) = pieces mark cs ++ pieces mark ds := by
  induction cs with
  | nil => exact pieces_cons_self mark ds
  | cons c rest ih =>
    obtain ⟨piece, others, hp⟩ := List.exists_cons_of_ne_nil (pieces_ne_nil mark rest)
    by_cases hc : c = mark
    · rw [hc, List.cons_append, pieces_cons_self, pieces_cons_self, ih]
      rfl
    · rw [hp] at ih
      rw [List.cons_append, pieces_cons_of_ne hc ih, pieces_cons_of_ne hc hp]
      rfl

theorem pieces_of_not_mem (h : mark ∉ cs) : pieces mark cs = [cs] := by
  induction cs with
  | nil => rfl
  | cons c rest ih =>
    rw [List.mem_cons, not_or] at h
    exact pieces_cons_of_ne (Ne.symm h.1) (ih h.2)

/-- **The pieces of a text are those without the character that give the text** with the character between
them. -/
theorem pieces_eq_iff {ps : List (List Char)} :
    pieces mark cs = ps ↔ ps ≠ [] ∧ (∀ p ∈ ps, mark ∉ p) ∧ [mark].intercalate ps = cs := by
  constructor
  · rintro rfl
    exact ⟨pieces_ne_nil mark cs, fun p hp => not_mem_of_mem_pieces hp, intercalate_pieces mark cs⟩
  · rintro ⟨hne, hmark, rfl⟩
    induction ps with
    | nil => exact absurd rfl hne
    | cons p ps ih =>
      have hp := pieces_of_not_mem (hmark p List.mem_cons_self)
      cases ps with
      | nil => simpa using hp
      | cons q ps =>
        have hrest := ih (List.cons_ne_nil q ps) fun r hr => hmark r (List.mem_cons_of_mem p hr)
        have hsplit : [mark].intercalate (p :: q :: ps) = p ++ mark :: [mark].intercalate (q :: ps) := by
          simp
        rw [hsplit, pieces_append, hp, hrest]
        rfl

theorem intercalate_splitAt (mark : Char) (s : String) :
    (String.ofList [mark]).intercalate (splitAt mark s) = s := by
  rw [← String.toList_inj, String.toList_intercalate, splitAt, List.map_map]
  have hsame : String.toList ∘ String.ofList = id := funext fun l => String.toList_ofList
  rw [hsame, List.map_id, String.toList_ofList, intercalate_pieces]

theorem splitAt_append (s name : String) (h : mark ∉ name.toList) :
    splitAt mark (s ++ String.ofList [mark] ++ name) = splitAt mark s ++ [name] := by
  unfold splitAt
  rw [String.toList_append, String.toList_append, String.toList_ofList, List.append_assoc,
    List.singleton_append, pieces_append, pieces_of_not_mem h, List.map_append, List.map_singleton,
    String.ofList_toList]

end VolumeNode.Text
