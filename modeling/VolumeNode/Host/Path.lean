import VolumeNode.Text.Pieces

/-!
# Paths as text

A path is text; its parent is found in the text alone, without a look at the file tree. Empty pieces
between slashes do not count, and neither does a single dot, except at the front. Main statements:

* `parent?_append`: a path with one component more has the path as its parent.
* `exists_eq_append_of_parent?`: a parent is what stands in front of something in the path.
-/

namespace VolumeNode.Path

/-- The pieces between the slashes. -/
def pieces (path : String) : List String :=
  Text.splitAt '/' path

/-- Whether a path starts at the root. -/
def isAbsolute (path : String) : Bool :=
  path.toList.head? == some '/'

/-- Whether the text holds NUL, so that it is no path at all. -/
def hasNul (path : String) : Bool :=
  path.toList.any (·.toNat == 0)

/-- The pieces without those at the end that do not count. -/
def trimEnd (ps : List String) : List String :=
  (ps.reverse.dropWhile fun p => p == "" || p == ".").reverse

/-- The path of a first piece and others, without what does not count at the end. -/
def trimmed (head : String) (tail : List String) (absolute : Bool) : String :=
  match trimEnd tail with
  | [] => if absolute then "/" else head
  | front => "/".intercalate (head :: front)

/-- The parent of a path given by its first piece and the others. -/
def parentOf (head : String) (tail : List String) (absolute : Bool) : Option String :=
  match trimEnd tail with
  | [] => if absolute || head == "" then none else some ""
  | names => some (trimmed head names.dropLast absolute)

/-- The text in front of the last component; `none` for the root and for the empty path. -/
def parent? (path : String) : Option String :=
  match pieces path with
  | [] => none
  | head :: tail => parentOf head tail (isAbsolute path)

variable {path name parent head : String} {ps tail : List String}

/-- A piece that counts. -/
def Counts (name : String) : Prop :=
  name ≠ "" ∧ name ≠ "."

theorem trimEnd_append (ps : List String) (h : Counts name) : trimEnd (ps ++ [name]) = ps ++ [name] := by
  unfold trimEnd
  rw [List.reverse_append, List.reverse_singleton, List.singleton_append,
    List.dropWhile_cons_of_neg (by simpa [Counts] using h), List.reverse_cons, List.reverse_reverse]

/-- What is left at the end counts, and nothing in front of it is left out. -/
theorem exists_of_trimEnd (h : trimEnd ps ≠ []) :
    ∃ front name rest, trimEnd ps = front ++ [name] ∧ Counts name ∧ ps = front ++ name :: rest := by
  obtain ⟨name, back, hback⟩ := List.exists_cons_of_ne_nil (mt List.reverse_eq_nil_iff.2 h)
  have hcounts := List.head_dropWhile_not (p := fun p => p == "" || p == ".") (l := ps.reverse)
    (by rw [hback]; exact List.cons_ne_nil _ _)
  have hps := List.takeWhile_append_dropWhile (p := fun p => p == "" || p == ".") (l := ps.reverse)
  simp only [hback, List.head_cons] at hcounts hps
  refine ⟨back.reverse, name,
    (ps.reverse.takeWhile fun p => p == "" || p == ".").reverse, ?_, by simpa [Counts] using hcounts, ?_⟩
  · unfold trimEnd
    rw [hback, List.reverse_cons]
  · have hps := congrArg List.reverse hps
    simpa using hps.symm

theorem exists_pieces (path : String) : ∃ head tail, pieces path = head :: tail := by
  obtain ⟨first, others, h⟩ := List.exists_cons_of_ne_nil (Text.pieces_ne_nil '/' path.toList)
  exact ⟨_, _, congrArg (List.map String.ofList) h⟩

theorem intercalate_pieces (path : String) : "/".intercalate (pieces path) = path :=
  Text.intercalate_splitAt '/' path

/-- The first piece of a path from the root is empty. -/
theorem head_of_isAbsolute (h : isAbsolute path = true) (hp : pieces path = head :: tail) :
    head = "" := by
  obtain ⟨rest, hrest⟩ : ∃ rest, path.toList = '/' :: rest := by
    unfold isAbsolute at h
    cases hl : path.toList with
    | nil => simp [hl] at h
    | cons c rest =>
      rw [hl] at h
      exact ⟨rest, by simpa using h⟩
  unfold pieces Text.splitAt at hp
  rw [hrest, Text.pieces_cons_self] at hp
  exact (List.cons.inj hp).1.symm

/-- The path without what does not count at its end. -/
def tidy (path : String) : String :=
  match pieces path with
  | [] => path
  | head :: tail => trimmed head tail (isAbsolute path)

/-- **A path with one component more has the path as its parent**, without what does not count at its
end. -/
theorem parent?_append (hpath : path ≠ "") (hname : Counts name) (hslash : '/' ∉ name.toList) :
    parent? (path ++ "/" ++ name) = some (tidy path) := by
  obtain ⟨head, tail, hp⟩ := exists_pieces path
  have hpieces : pieces (path ++ "/" ++ name) = head :: (tail ++ [name]) := by
    have := Text.splitAt_append path name hslash
    rw [← List.cons_append, ← hp]
    exact this
  have habsolute : isAbsolute (path ++ "/" ++ name) = isAbsolute path := by
    obtain ⟨c, rest, hc⟩ := List.exists_cons_of_ne_nil (mt String.toList_eq_nil_iff.1 hpath)
    simp [isAbsolute, hc]
  unfold parent? tidy parentOf
  rw [hpieces, hp, habsolute]
  dsimp only
  rw [trimEnd_append tail hname]
  split
  · rename_i h
    simp at h
  · rw [List.dropLast_concat]

/-- A text in which a piece counts is not empty. -/
theorem intercalate_ne_empty {front rest : List String} (hname : Counts name) :
    "/".intercalate (front ++ name :: rest) ≠ "" := by
  intro h
  cases hl : front ++ name :: rest with
  | nil => simp at hl
  | cons first others =>
    rw [hl] at h
    cases others with
    | nil =>
      have hmem : name ∈ front ++ name :: rest := List.mem_append_right _ List.mem_cons_self
      rw [hl, List.mem_singleton] at hmem
      exact hname.1 (hmem.trans (by simpa using h))
    | cons second others => simp at h

/-- A path without its end stands in front of the rest, in which a piece counts. -/
theorem exists_eq_append_trimmed {rest : List String} (hp : pieces path = head :: (tail ++ name :: rest))
    (hname : Counts name) :
    ∃ text, text ≠ "" ∧ path = trimmed head tail (isAbsolute path) ++ text := by
  have hpath : "/".intercalate (head :: (tail ++ name :: rest)) = path := by
    rw [← hp, intercalate_pieces]
  have hslash : ∀ text : String, "/" ++ text ≠ "" := fun text h => by simp at h
  unfold trimmed
  split
  · rw [String.intercalate_cons_of_ne_nil (by simp)] at hpath
    split
    · rename_i habsolute
      rw [head_of_isAbsolute habsolute hp, String.empty_append] at hpath
      exact ⟨_, intercalate_ne_empty hname, hpath.symm⟩
    · exact ⟨_, hslash _, by rw [← String.append_assoc]; exact hpath.symm⟩
  · rename_i hne
    obtain ⟨front, last, back, htrim, -, rfl⟩ := exists_of_trimEnd hne
    have hsplit : head :: (front ++ last :: back ++ name :: rest) =
        (head :: (front ++ [last])) ++ (back ++ name :: rest) := by simp
    rw [hsplit, String.intercalate_append_of_ne_nil (by simp) (by simp)] at hpath
    rw [htrim]
    exact ⟨_, hslash _, by rw [← String.append_assoc]; exact hpath.symm⟩

/-- **A parent is what stands in front of something in the path.** -/
theorem exists_eq_append_of_parent? (h : parent? path = some parent) :
    ∃ rest, rest ≠ "" ∧ path = parent ++ rest := by
  obtain ⟨head, tail, hp⟩ := exists_pieces path
  unfold parent? parentOf at h
  rw [hp] at h
  dsimp only at h
  split at h
  · split at h
    · cases h
    · rename_i hhead
      cases h
      refine ⟨path, ?_, by simp⟩
      rintro rfl
      cases hp
      simp at hhead
  · rename_i hne
    cases h
    obtain ⟨front, name, rest, htrim, hname, rfl⟩ := exists_of_trimEnd hne
    rw [htrim, List.dropLast_concat]
    exact exists_eq_append_trimmed hp hname

theorem length_lt_of_parent? (h : parent? path = some parent) : parent.length < path.length := by
  obtain ⟨rest, hrest, rfl⟩ := exists_eq_append_of_parent? h
  have hpos : rest.length ≠ 0 := fun h => hrest (String.length_eq_zero_iff.1 h)
  rw [String.length_append]
  omega

end VolumeNode.Path
