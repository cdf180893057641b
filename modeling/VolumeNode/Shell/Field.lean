import VolumeNode.Shell.Pattern

/-!
# Fields

The value of a word is a row of characters, some of them quoted, some of them from parameters. At the
separators among the latter it falls into fields. A quoted piece makes a field even if it is empty.
Main statement: `flatten_fields`: nothing is lost but the separators.
-/

namespace VolumeNode.Shell

/-- A part of the value of a word. -/
inductive Atom where
  | octet (c : Char) (quoted splits : Bool)
  /-- There is a field here, empty or not. -/
  | presence
  /-- A field ends here, and another may begin. -/
  | boundary
  deriving DecidableEq, Repr

/-- A field; of each character it is known whether it is quoted. -/
abbrev Field :=
  List (Char × Bool)

namespace Field

/-- The text of a field. -/
def text (f : Field) : List Char :=
  f.map Prod.fst

/-- A separator that counts only once, however many there are. -/
def isGap (c : Char) : Bool :=
  c = ' ' || c = '\t' || c = '\n'

/-- What has been done of splitting: the fields and the characters of the last one, both in reverse,
and whether a gap has just ended a field. -/
structure Splitting where
  done : List Field := []
  current : Option Field := none
  afterGap : Bool := false

/-- Ends the current field if there is one. -/
def Splitting.close (s : Splitting) : Splitting :=
  match s.current with
  | some f => { s with done := f.reverse :: s.done, current := none }
  | none => s

/-- Goes on with a part of the value. -/
def Splitting.step (separators : List Char) (s : Splitting) : Atom → Splitting
  | .presence => { s with current := some (s.current.getD []), afterGap := false }
  | .boundary => { s.close with afterGap := false }
  | .octet c quoted splits =>
    if splits && separators.contains c then
      if isGap c then
        if s.current.isSome then { s.close with afterGap := true } else s
      else if s.afterGap then { s with afterGap := false }
      else { s with done := (s.current.getD []).reverse :: s.done, current := none }
    else { s with current := some ((c, quoted) :: s.current.getD []), afterGap := false }

/-- The fields of a value. -/
def fields (separators : List Char) (atoms : List Atom) : List Field :=
  (atoms.foldl (Splitting.step separators) {}).close.done.reverse

/-- The value as one field. -/
def whole (atoms : List Atom) : Field :=
  atoms.filterMap fun
    | .octet c quoted _ => some (c, quoted)
    | .presence => none
    | .boundary => some (' ', true)

/-- The character of a part, unless it separates. -/
def kept? (separators : List Char) : Atom → Option (Char × Bool)
  | .octet c quoted splits =>
    if splits && separators.contains c then none else some (c, quoted)
  | .presence | .boundary => none

/-- The characters of all fields so far. -/
def Splitting.text (s : Splitting) : Field :=
  s.done.reverse.flatten ++ (s.current.getD []).reverse

theorem Splitting.text_close (s : Splitting) : s.close.text = s.text := by
  cases h : s.current <;> simp [close, text, h]

theorem Splitting.text_step (separators : List Char) (s : Splitting) (a : Atom) :
    (s.step separators a).text = s.text ++ (kept? separators a).toList := by
  cases a with
  | presence => simp [step, text, kept?]
  | boundary => exact s.text_close.trans (List.append_nil _).symm
  | octet c quoted splits =>
    by_cases h : (splits && separators.contains c) = true
    · rw [step, if_pos h, kept?, if_pos h, Option.toList_none, List.append_nil]
      split
      · split
        · exact s.text_close
        · rfl
      · split
        · rfl
        · simp [text]
    · rw [step, if_neg h, kept?, if_neg h]
      simp [text]

theorem Splitting.text_foldl (separators : List Char) (s : Splitting) (atoms : List Atom) :
    (atoms.foldl (step separators) s).text = s.text ++ atoms.filterMap (kept? separators) := by
  induction atoms generalizing s with
  | nil => simp
  | cons a atoms ih =>
    rw [List.foldl_cons, ih, text_step, List.append_assoc]
    cases h : kept? separators a <;> simp [h]

/-- The fields hold every character of the value but the separators among them, in order. -/
theorem flatten_fields (separators : List Char) (atoms : List Atom) :
    (fields separators atoms).flatten = atoms.filterMap (kept? separators) := by
  have hclose (s : Splitting) : s.close.done.reverse.flatten = s.text := by
    cases h : s.current <;> simp [Splitting.close, Splitting.text, h]
  rw [fields, hclose, Splitting.text_foldl]
  rfl

end Field

end VolumeNode.Shell
