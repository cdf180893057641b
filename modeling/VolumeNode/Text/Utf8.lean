/-!
# Reading UTF-8

Octets are read one at a time. What cannot be read as a character is reported once for each longest
run of octets that begins a character and breaks off, so a reader may refuse the text (`decode?`) or
go on with the replacement character (`decodeLossy`). Main statements:

* `step_ascii`: an octet below 128 that stands between characters is its own character.
* `decode?_eq_some_iff`: a text is decoded exactly when nothing in it is broken.
-/

namespace VolumeNode.Text.Utf8

/-- A character that has begun: the bits so far, how many octets are still owed, and between which
bounds the next one lies. -/
structure Pending where
  bits : Nat
  owed : Nat
  least : Nat
  most : Nat
  deriving Repr, DecidableEq

/-- What the first octet of a character announces; `none` for an octet that cannot be first. -/
inductive Opening where
  | complete (code : Nat)
  | more (rest : Pending)
  | refused
  deriving Repr, DecidableEq

/-- The first octet of a character. The bounds on the second octet leave out long spellings,
surrogates and everything above U+10FFFF. -/
def opening (b : Nat) : Opening :=
  if b < 0x80 then .complete b
  else if b < 0xC2 then .refused
  else if b < 0xE0 then .more ⟨b - 0xC0, 1, 0x80, 0xBF⟩
  else if b = 0xE0 then .more ⟨0, 2, 0xA0, 0xBF⟩
  else if b = 0xED then .more ⟨0xD, 2, 0x80, 0x9F⟩
  else if b < 0xF0 then .more ⟨b - 0xE0, 2, 0x80, 0xBF⟩
  else if b = 0xF0 then .more ⟨0, 3, 0x90, 0xBF⟩
  else if b < 0xF4 then .more ⟨b - 0xF0, 3, 0x80, 0xBF⟩
  else if b = 0xF4 then .more ⟨4, 3, 0x80, 0x8F⟩
  else .refused

/-- The characters read so far, the newest first and `none` for a broken one, and the one that has
begun. -/
structure Progress where
  done : List (Option Char)
  pending : Option Pending
  deriving Repr, DecidableEq

/-- An octet that stands between characters. -/
def begin (done : List (Option Char)) (b : Nat) : Progress :=
  match opening b with
  | .complete code => ⟨some (Char.ofNat code) :: done, none⟩
  | .more rest => ⟨done, some rest⟩
  | .refused => ⟨none :: done, none⟩

/-- One octet more. An octet that cannot continue the character that has begun breaks it off and
stands between characters itself. -/
def step (p : Progress) (octet : UInt8) : Progress :=
  let b := octet.toNat
  match p.pending with
  | none => begin p.done b
  | some k =>
    if k.least ≤ b ∧ b ≤ k.most then
      let bits := k.bits * 64 + (b - 0x80)
      if k.owed = 1 then ⟨some (Char.ofNat bits) :: p.done, none⟩
      else ⟨p.done, some ⟨bits, k.owed - 1, 0x80, 0xBF⟩⟩
    else begin (none :: p.done) b

/-- What has been read when the octets end; a character that is still owed octets is broken. -/
def Progress.finish (p : Progress) : List (Option Char) :=
  match p.pending with
  | none => p.done.reverse
  | some _ => (none :: p.done).reverse

/-- The characters of a row of octets, `none` for each broken one. -/
def scan (octets : List UInt8) : List (Option Char) :=
  (octets.foldl step ⟨[], none⟩).finish

/-- Every broken character becomes U+FFFD. -/
def decodeLossy (octets : List UInt8) : String :=
  String.ofList ((scan octets).map (·.getD '\uFFFD'))

/-- The text, if nothing in it is broken. -/
def decode? (octets : List UInt8) : Option String :=
  let found := scan octets
  if found.all (·.isSome) then some (String.ofList (found.filterMap id)) else none

/-- The octets of a text. -/
def encode (s : String) : List UInt8 :=
  s.toUTF8.toList

theorem decode?_eq_some_iff {octets : List UInt8} {s : String} :
    decode? octets = some s ↔
      (∀ c ∈ scan octets, c ≠ none) ∧ s = String.ofList ((scan octets).filterMap id) := by
  simp only [decode?]
  split
  · rename_i h
    simp only [List.all_eq_true] at h
    constructor
    · intro e
      refine ⟨fun c hc => ?_, (Option.some.inj e).symm⟩
      have := h c hc
      intro hn
      simp [hn] at this
    · rintro ⟨-, rfl⟩
      rfl
  · rename_i h
    constructor
    · intro e
      cases e
    · rintro ⟨hall, -⟩
      refine absurd ?_ h
      simp only [List.all_eq_true]
      intro c hc
      exact Option.isSome_iff_ne_none.2 (hall c hc)

theorem step_ascii (done : List (Option Char)) {b : UInt8} (h : b.toNat < 0x80) :
    step ⟨done, none⟩ b = ⟨some (Char.ofNat b.toNat) :: done, none⟩ := by
  simp [step, begin, opening, h]

end VolumeNode.Text.Utf8
