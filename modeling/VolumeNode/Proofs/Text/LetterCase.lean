import Mathlib.Data.Bool.AllAny
import Mathlib.Data.List.Forall2
import VolumeNode.Text.Lowercase

/-!
# Words in any letter case

A word of small letters stands in the lower case of a text if it stands in the text itself, each letter
small or capital. Lowering is not done letter by letter: U+0130 becomes two characters, and what becomes
of a capital sigma depends on what stands around it. Neither can take part in such a word.

* `spells_iff`: which characters spell a small letter.
* `lowerAt_cases`: what a character is lowered to.
* `infix_lowerFrom_iff`: which words stand in the lower case of a text.
* `SpelledIn.of_sameLetters`, `SpelledIn.mono`: the case of its letters and what stands around it do not
  matter to a word.
-/

namespace VolumeNode.Text

variable {c d m : Char} {word text before after : List Char}

/-- The small letters of ASCII, and the space. -/
def smallLetters : List Char :=
  [' ', 'a', 'b', 'c', 'd', 'e', 'f', 'g', 'h', 'i', 'j', 'k', 'l', 'm', 'n', 'o', 'p', 'q', 'r', 's', 't',
    'u', 'v', 'w', 'x', 'y', 'z']

/-- Whether a character is a small letter or the capital of it. The Kelvin sign is a capital of `k`. -/
def Spells (c m : Char) : Prop :=
  c = m ∨ c = m.toUpper ∨ c = '\u212A' ∧ m = 'k'

instance : DecidableRel Spells :=
  fun _ _ => inferInstanceAs (Decidable (_ ∨ _))

/-- Whether a word stands in a text, with each letter small or capital. -/
def SpelledIn (word text : List Char) : Prop :=
  ∃ spelled, spelled <:+: text ∧ List.Forall₂ Spells spelled word

/-- Whether two texts are the same but for the case of ASCII letters. -/
def SameLetters (text text' : List Char) : Prop :=
  List.Forall₂ (fun c d => c.toLower = d.toLower) text text'

theorem ascii_of_small : ∀ m ∈ smallLetters, m.toNat < 128 ∧ m.toUpper.toNat < 128 :=
  List.all_iff_forall_prop.1 (by decide +kernel)

theorem spells_of_ascii : ∀ n < 128, ∀ m ∈ smallLetters,
    (Char.ofNat n).toLower = m ↔ Spells (Char.ofNat n) m := by
  have hall : ∀ n < 128, smallLetters.all fun m =>
      (Char.ofNat n).toLower = m ↔ Spells (Char.ofNat n) m := by decide +kernel
  exact fun n hn => List.all_iff_forall_prop.1 (hall n hn)

/-- Beyond ASCII only the Kelvin sign spells a letter. -/
theorem spells_of_not_ascii (hm : m ∈ smallLetters) (hc : ¬ c.toNat < 128) :
    Spells c m ↔ c = '\u212A' ∧ m = 'k' := by
  constructor
  · rintro (rfl | rfl | h)
    · exact absurd (ascii_of_small _ hm).1 hc
    · exact absurd (ascii_of_small _ hm).2 hc
    · exact h
  · exact fun h => Or.inr (Or.inr h)

theorem toLower_of_not_ascii (hc : ¬ c.toNat < 128) : c.toLower = c := by
  refine dif_neg fun h => hc ?_
  have hle : c.toNat ≤ 90 := UInt32.le_iff_toNat_le.1 h.2
  omega

/-- **Which characters spell a small letter**: those with that lower case in ASCII, and the Kelvin sign. -/
theorem spells_iff (hm : m ∈ smallLetters) :
    Spells c m ↔ c.toLower = m ∨ c = '\u212A' ∧ m = 'k' := by
  by_cases hc : c.toNat < 128
  · have hascii := spells_of_ascii c.toNat hc m hm
    rw [Char.ofNat_toNat] at hascii
    rw [← hascii]
    refine ⟨Or.inl, Or.rec id ?_⟩
    rintro ⟨rfl, -⟩
    exact absurd hc (by decide)
  · rw [spells_of_not_ascii hm hc, toLower_of_not_ascii hc]
    refine ⟨Or.inr, Or.rec ?_ id⟩
    rintro rfl
    exact absurd (ascii_of_small _ hm).1 hc

/-- A run of the table beyond ASCII stays there, but for that of the Kelvin sign. -/
theorem caseRuns_beyond : ∀ r ∈ caseRuns,
    r.last < 128 ∨ (r.first = 0x212A ∧ r.last = 0x212A) ∨ 128 ≤ r.first + r.shift := by
  decide +kernel

/-- Beyond ASCII only the Kelvin sign has a lower case in it. -/
theorem lower_beyond (hc : ¬ c.toNat < 128) (hdot : c.toNat ≠ 0x130) (hkelvin : c ≠ '\u212A') :
    ∃ d, lower c = [d] ∧ d ∉ smallLetters := by
  have hzero : '\x00' ∉ smallLetters := by decide
  unfold lower
  rw [if_neg hdot]
  cases hfind : caseRuns.find? (·.holds c.toNat) with
  | none => exact ⟨c, rfl, fun hmem => hc (ascii_of_small c hmem).1⟩
  | some r =>
    refine ⟨_, rfl, ?_⟩
    have hholds := List.find?_some hfind
    simp only [CaseRun.holds, Bool.and_eq_true, decide_eq_true_eq] at hholds
    obtain ⟨⟨hfirst, hlast⟩, -⟩ := hholds
    have hbeyond : 128 ≤ (c.toNat + r.shift).toNat := by
      rcases caseRuns_beyond r (List.mem_of_find?_eq_some hfind) with h | ⟨h, h'⟩ | h
      · omega
      · refine absurd ?_ hkelvin
        rw [← Char.ofNat_toNat c, show c.toNat = 0x212A by omega]
      · omega
    intro hmem
    -- a number that is no character is lowered to NUL
    by_cases hvalid : (c.toNat + r.shift).toNat.isValidChar
    · rw [Char.ofNat, dif_pos hvalid] at hmem
      have hascii : (c.toNat + r.shift).toNat < 128 := (ascii_of_small _ hmem).1
      omega
    · rw [Char.ofNat, dif_neg hvalid] at hmem
      exact hzero hmem

/-- **What a character is lowered to**: two characters if it is U+0130, and otherwise one, which is a small
letter if the character spells it. -/
theorem lowerAt_cases (before : List Char) (c : Char) (after : List Char) :
    (c.toNat = 0x130 ∧ lowerAt before c after = ['i', '\u0307']) ∨
      ∃ d, lowerAt before c after = [d] ∧ ∀ m ∈ smallLetters, m = d ↔ Spells c m := by
  have hbeyond : ∀ {c d : Char}, ¬ c.toNat < 128 → c ≠ '\u212A' → d ∉ smallLetters →
      ∀ m ∈ smallLetters, m = d ↔ Spells c m := by
    intro c d hc hkelvin hd m hm
    rw [spells_of_not_ascii hm hc]
    exact ⟨fun h => absurd (h ▸ hm) hd, fun h => absurd h.1 hkelvin⟩
  by_cases hsigma : c = '\u03A3'
  · subst hsigma
    refine Or.inr ⟨lowerSigma before after, if_pos rfl, hbeyond (by decide) (by decide) ?_⟩
    unfold lowerSigma
    split <;> decide
  rw [lowerAt_of_ne hsigma]
  by_cases hdot : c.toNat = 0x130
  · exact Or.inl ⟨hdot, if_pos hdot⟩
  refine Or.inr ?_
  by_cases hc : c.toNat < 128
  · have hlower := lower_of_ascii c.toNat hc
    rw [Char.ofNat_toNat] at hlower
    refine ⟨c.toLower, hlower, fun m hm => ?_⟩
    have hascii := spells_of_ascii c.toNat hc m hm
    rw [Char.ofNat_toNat] at hascii
    rw [← hascii, eq_comm]
  by_cases hkelvin : c = '\u212A'
  · subst hkelvin
    refine ⟨'k', by decide +kernel, fun m hm => ?_⟩
    rw [spells_of_not_ascii hm hc]
    simp
  · obtain ⟨d, hlower, hd⟩ := lower_beyond hc hdot hkelvin
    exact ⟨d, hlower, hbeyond hc hkelvin hd⟩

/-- A character that is lowered to two spells nothing. -/
theorem not_spells_dotted (hc : c.toNat = 0x130) (hm : m ∈ smallLetters) : ¬ Spells c m := by
  rw [spells_of_not_ascii hm (by omega)]
  rintro ⟨rfl, -⟩
  exact absurd hc (by decide)

/-- Words of small letters. None ends with an `i`, since that may have come from U+0130, with a mark behind
it that is no letter. -/
structure IsWord (word : List Char) : Prop where
  small : ∀ m ∈ word, m ∈ smallLetters
  last : word.getLast? ≠ some 'i'

instance : DecidablePred IsWord :=
  fun word => decidable_of_iff (word.all (· ∈ smallLetters) = true ∧ word.getLast? ≠ some 'i')
    ⟨fun h => ⟨List.all_iff_forall_prop.1 h.1, h.2⟩,
      fun h => ⟨List.all_iff_forall_prop.2 h.small, h.last⟩⟩

theorem isWord_nil : IsWord [] :=
  ⟨nofun, nofun⟩

theorem IsWord.tail (h : IsWord (m :: word)) : IsWord word := by
  cases word with
  | nil => exact isWord_nil
  | cons d rest => exact ⟨fun e he => h.small e (List.mem_cons_of_mem m he), h.last⟩

/-- Nothing of a word is a mark. -/
theorem IsWord.not_prefix_mark (h : IsWord word) (hbegins : word <+: '\u0307' :: text) : word = [] := by
  rcases List.prefix_cons_iff.1 hbegins with rfl | ⟨rest, rfl, -⟩
  · rfl
  · exact absurd (h.small _ List.mem_cons_self) (by decide)

/-- **Which words the lower case of a text begins with.** -/
theorem prefix_lowerFrom_iff (h : IsWord word) :
    word <+: lowerFrom before text ↔
      ∃ spelled, spelled <+: text ∧ List.Forall₂ Spells spelled word := by
  induction word generalizing before text with
  | nil => exact ⟨fun _ => ⟨[], List.nil_prefix, .nil⟩, fun _ => List.nil_prefix⟩
  | cons m word ih =>
    have hm : m ∈ smallLetters := h.small m List.mem_cons_self
    cases text with
    | nil => simp [lowerFrom]
    | cons c after =>
      have hright : (∃ spelled, spelled <+: c :: after ∧ List.Forall₂ Spells spelled (m :: word)) ↔
          Spells c m ∧ ∃ spelled, spelled <+: after ∧ List.Forall₂ Spells spelled word := by
        constructor
        · rintro ⟨_, hbegins, hspelled⟩
          obtain ⟨d, rest, hd, hrest, rfl⟩ := List.forall₂_cons_right_iff.1 hspelled
          obtain ⟨rfl, hrest'⟩ := List.cons_prefix_cons.1 hbegins
          exact ⟨hd, rest, hrest', hrest⟩
        · rintro ⟨hc, spelled, hbegins, hspelled⟩
          exact ⟨c :: spelled, List.cons_prefix_cons.2 ⟨rfl, hbegins⟩, .cons hc hspelled⟩
      rw [hright, lowerFrom]
      rcases lowerAt_cases before c after with ⟨hdot, hlower⟩ | ⟨d, hlower, hd⟩
      · -- the letter that comes of it has a mark behind it, and is not the last of the word
        rw [hlower]
        refine iff_of_false (fun hbegins => ?_) fun hc => not_spells_dotted hdot hm hc.1
        obtain ⟨rfl, hrest⟩ := List.cons_prefix_cons.1 hbegins
        obtain rfl := h.tail.not_prefix_mark hrest
        exact h.last rfl
      · rw [hlower, List.singleton_append, List.cons_prefix_cons, hd m hm, ih h.tail]

/-- **Which words stand in the lower case of a text**: those that stand in the text with each letter small or
capital. -/
theorem infix_lowerFrom_iff (h : IsWord word) :
    word <:+: lowerFrom before text ↔ SpelledIn word text := by
  induction text generalizing before with
  | nil =>
    rw [lowerFrom, List.infix_nil]
    constructor
    · rintro rfl
      exact ⟨[], List.nil_infix, .nil⟩
    · rintro ⟨spelled, hwithin, hspelled⟩
      obtain rfl := List.infix_nil.1 hwithin
      exact List.forall₂_nil_left_iff.1 hspelled
  | cons c after ih =>
    have hright : SpelledIn word (c :: after) ↔
        (∃ spelled, spelled <+: c :: after ∧ List.Forall₂ Spells spelled word) ∨
          SpelledIn word after := by
      simp only [SpelledIn, List.infix_cons_iff, or_and_right, exists_or]
    rw [hright, ← @prefix_lowerFrom_iff word _ before h, ← @ih (c :: before), lowerFrom]
    rcases lowerAt_cases before c after with ⟨-, hlower⟩ | ⟨d, hlower, -⟩
    · rw [hlower, List.cons_append, List.infix_cons_iff, List.singleton_append, List.infix_cons_iff]
      refine or_congr_right ⟨Or.rec (fun hbegins => ?_) id, Or.inr⟩
      rw [h.not_prefix_mark hbegins]
      exact List.nil_infix
    · rw [hlower, List.singleton_append, List.infix_cons_iff]

/-- What stands around a word does not matter. -/
theorem SpelledIn.mono {text' : List Char} (h : SpelledIn word text) (hwithin : text <:+: text') :
    SpelledIn word text' := by
  obtain ⟨spelled, hspelled, hword⟩ := h
  exact ⟨spelled, hspelled.trans hwithin, hword⟩

/-- What spells a word spells its letters. -/
theorem exists_spells {spelled : List Char} (h : List.Forall₂ Spells spelled word) (hc : c ∈ spelled) :
    ∃ m ∈ word, Spells c m := by
  induction h with
  | nil => cases hc
  | cons hd _ ih =>
    rcases List.mem_cons.1 hc with rfl | hc
    · exact ⟨_, List.mem_cons_self, hd⟩
    · obtain ⟨m, hm, hcm⟩ := ih hc
      exact ⟨m, List.mem_cons_of_mem _ hm, hcm⟩

/-- A word does not stand across a character that spells none of its letters. -/
theorem spelledIn_append_cons_iff (h : ∀ m ∈ word, ¬ Spells c m) :
    SpelledIn word (before ++ c :: after) ↔ SpelledIn word before ∨ SpelledIn word (c :: after) := by
  constructor
  · rintro ⟨spelled, hwithin, hspelled⟩
    rcases List.infix_append_iff.1 hwithin with hbefore | hafter | ⟨front, back, rfl, hfront, hback⟩
    · exact Or.inl ⟨spelled, hbefore, hspelled⟩
    · exact Or.inr ⟨spelled, hafter, hspelled⟩
    · rcases List.prefix_cons_iff.1 hback with rfl | ⟨rest, rfl, -⟩
      · rw [List.append_nil] at hspelled
        exact Or.inl ⟨front, hfront.isInfix, hspelled⟩
      · obtain ⟨m, hm, hc⟩ := exists_spells hspelled List.mem_append_cons_self
        exact absurd hc (h m hm)
  · rintro (h | h)
    · exact h.mono (List.prefix_append ..).isInfix
    · exact h.mono (List.suffix_append ..).isInfix

/-- A word does not begin with a character that does not spell its first letter. -/
theorem spelledIn_cons_iff (h : ∀ m ∈ word.head?, ¬ Spells c m) :
    SpelledIn word (c :: text) ↔ SpelledIn word text := by
  constructor
  · rintro ⟨spelled, hwithin, hspelled⟩
    rcases List.infix_cons_iff.1 hwithin with hbegins | htext
    · rcases List.prefix_cons_iff.1 hbegins with rfl | ⟨rest, rfl, -⟩
      · exact ⟨[], List.nil_infix, hspelled⟩
      · obtain ⟨m, rest', hc, -, rfl⟩ := List.forall₂_cons_left_iff.1 hspelled
        exact absurd hc (h m rfl)
    · exact ⟨spelled, htext, hspelled⟩
  · exact fun h => h.mono (List.suffix_cons ..).isInfix

/-- A character of the same letter spells the same. -/
theorem Spells.of_toLower (h : Spells c m) (hm : m ∈ smallLetters) (hcd : c.toLower = d.toLower) :
    Spells d m := by
  rw [spells_iff hm] at h ⊢
  rcases h with h | ⟨rfl, rfl⟩
  · exact Or.inl (hcd ▸ h)
  · refine Or.inr ⟨?_, rfl⟩
    by_cases hd : d.toNat < 128
    · have hlower : ∀ n < 128, (Char.ofNat n).toLower ≠ '\u212A' := by decide +kernel
      refine absurd ?_ (hlower d.toNat hd)
      rw [Char.ofNat_toNat, ← hcd]
      rfl
    · rw [toLower_of_not_ascii hd] at hcd
      exact hcd.symm

theorem forall₂_spells_of_sameLetters {spelled spelled' : List Char}
    (h : List.Forall₂ Spells spelled word) (hword : ∀ m ∈ word, m ∈ smallLetters)
    (hsame : SameLetters spelled spelled') : List.Forall₂ Spells spelled' word := by
  induction h generalizing spelled' with
  | nil =>
    obtain rfl := List.forall₂_nil_left_iff.1 hsame
    exact .nil
  | cons hc _ ih =>
    obtain ⟨d, rest, hd, hrest, rfl⟩ := List.forall₂_cons_left_iff.1 hsame
    exact .cons (hc.of_toLower (hword _ List.mem_cons_self) hd)
      (ih (fun m hm => hword m (List.mem_cons_of_mem _ hm)) hrest)

/-- The case of ASCII letters does not matter to a word. -/
theorem SpelledIn.of_sameLetters {text' : List Char} (h : SpelledIn word text)
    (hword : ∀ m ∈ word, m ∈ smallLetters) (hsame : SameLetters text text') : SpelledIn word text' := by
  obtain ⟨spelled, ⟨front, back, rfl⟩, hspelled⟩ := h
  have hcut := List.forall₂_take spelled.length (List.forall₂_drop front.length hsame)
  rw [List.append_assoc, List.drop_left, List.take_left] at hcut
  exact ⟨_, (List.take_prefix _ _).isInfix.trans (List.drop_suffix _ _).isInfix,
    forall₂_spells_of_sameLetters hspelled hword hcut⟩

theorem SameLetters.symm {text' : List Char} (h : SameLetters text text') : SameLetters text' text :=
  List.Forall₂.flip (h.imp fun _ _ => Eq.symm)

end VolumeNode.Text
