import VolumeNode.Proofs.Calls.Transcript
import VolumeNode.Proofs.Mounts.Words

/-!
# What a list of option words means

Each flag has its words, and only the word for a read-only mount can be taken back. The words that are not
known are data for the file system. A mount that is no bind gives all of that to the kernel in one call.

* `adds_iff_mem_wordsFor`: a word adds the flags that it stands for.
* `means_parse`, `means_iff`: what is read off a list of words is what it means, and nothing else is.
* `mounting_means`: what a mount that is no bind asks the kernel.
-/

namespace VolumeNode

open Program (World)

namespace MountOptions

variable {n : ℕ} {words : List String} {word : String} {flag : MountFlags} {p p' : Parsed}

/-- The words that are not data. -/
def knownWords : List String :=
  ["bind", "rbind", "ro", "rw", "nosuid", "nodev", "noexec", "noatime", "nodiratime", "relatime", "defaults"]

/-- What a list of words means. An `rw` takes back every `ro` in front of it, and nothing takes back any other
word. -/
structure Means (words : List String) (p : Parsed) : Prop where
  bind : p.flags.holds .bind = true ↔ "bind" ∈ words ∨ "rbind" ∈ words
  recursive : p.flags.holds .recursive = true ↔ "rbind" ∈ words
  readOnly : p.flags.holds .readOnly = true ↔
    ∃ before after, words = before ++ "ro" :: after ∧ "rw" ∉ after
  mount : ∀ word flag, (word, flag) ∈ mountWords → (p.flags.holds flag = true ↔ word ∈ words)
  only : ∀ n, p.flags.bits.testBit n = true →
    ∃ word flag, (word, flag) ∈ addingWords ∧ flag.bits.testBit n = true
  data : p.data = words.filter (· ∉ knownWords)

/-- The words for a flag. -/
def wordsFor (flag : MountFlags) : List String :=
  (addingWords.filter (·.2 = flag)).map (·.1)

theorem mem_wordsFor_iff : word ∈ wordsFor flag ↔ (word, flag) ∈ addingWords := by
  simp [wordsFor]

/-- The flags that are never taken back have one word each. -/
theorem wordsFor_of_mountWords : ∀ entry ∈ mountWords, wordsFor entry.2 = [entry.1] := by
  decide

/-- Each flag that a word adds is one bit. -/
theorem single_of_addingWords : ∀ entry ∈ addingWords, ∃ i < 22, entry.2 = ⟨1 <<< i⟩ := by
  decide

theorem eq_of_addingWords (h : (word, flag) ∈ addingWords) (hn : flag.bits.testBit n = true) :
    flag = ⟨1 <<< n⟩ := by
  obtain ⟨i, -, hi⟩ := single_of_addingWords _ h
  dsimp only at hi
  subst hi
  rw [MountFlags.eq_of_testBit i hn]

/-- **A word adds the flags that it stands for.** -/
theorem adds_iff_mem_wordsFor : Adds word n ↔ word ∈ wordsFor ⟨1 <<< n⟩ := by
  rw [adds_iff, mem_wordsFor_iff]
  constructor
  · rintro ⟨flag, hmem, hn⟩
    exact eq_of_addingWords hmem hn ▸ hmem
  · intro hmem
    exact ⟨_, hmem, by rw [MountFlags.testBit_shiftLeft, decide_eq_true rfl]⟩

/-- A flag is held if a word for it is listed and not taken back. -/
theorem holds_parse_iff :
    (parse words).flags.holds ⟨1 <<< n⟩ = true ↔ ∃ before word after,
      words = before ++ word :: after ∧ word ∈ wordsFor ⟨1 <<< n⟩ ∧ Spares after n := by
  rw [MountFlags.holds_shiftLeft, testBit_parse]
  simp only [adds_iff_mem_wordsFor]

theorem holds_parse_of_ne (hn : n ≠ 0) :
    (parse words).flags.holds ⟨1 <<< n⟩ = true ↔ ∃ word ∈ words, word ∈ wordsFor ⟨1 <<< n⟩ := by
  rw [MountFlags.holds_shiftLeft, testBit_parse_of_ne hn]
  simp only [adds_iff_mem_wordsFor]

theorem holds_parse_mountWords (h : (word, flag) ∈ mountWords) :
    (parse words).flags.holds flag = true ↔ word ∈ words := by
  have hwords : wordsFor flag = [word] := wordsFor_of_mountWords _ h
  obtain ⟨n, -, hflag⟩ := single_of_addingWords _ (List.mem_append_right _ h)
  dsimp only at hflag
  subst hflag
  have hn : n ≠ 0 :=
    (mountWords_apart h (by rw [MountFlags.testBit_shiftLeft, decide_eq_true rfl])).1
  rw [holds_parse_of_ne hn, hwords]
  simp

theorem isNone_effect?_iff : (effect? word).isNone = true ↔ word ∉ knownWords := by
  unfold effect?
  split <;> simp_all [knownWords]

/-- **A list of words means what is read off it.** -/
theorem means_parse (words : List String) : Means words (parse words) where
  bind := by
    refine (holds_parse_of_ne (n := 12) (by decide)).trans ?_
    rw [show wordsFor ⟨1 <<< 12⟩ = ["bind", "rbind"] by decide]
    simp [and_or_left, exists_or]
  recursive := by
    refine (holds_parse_of_ne (n := 14) (by decide)).trans ?_
    rw [show wordsFor ⟨1 <<< 14⟩ = ["rbind"] by decide]
    simp
  readOnly := by
    refine (holds_parse_iff (n := 0)).trans ?_
    -- the one flag that a later word can take back
    rw [show wordsFor ⟨1 <<< 0⟩ = ["ro"] by decide]
    simp [Spares]
  mount _ _ h := holds_parse_mountWords h
  only n h := by
    obtain ⟨_, word, _, -, hadds, -⟩ := testBit_parse.1 h
    exact ⟨word, adds_iff.1 hadds⟩
  data := by
    rw [data_parse]
    refine List.filter_congr fun word _ => ?_
    rw [Bool.eq_iff_iff, isNone_effect?_iff, decide_eq_true_iff]

/-- The meaning of a list of words says of each flag whether it is held. -/
theorem Means.holds_iff (h : Means words p) (h' : Means words p') (hmem : (word, flag) ∈ addingWords) :
    p.flags.holds flag = true ↔ p'.flags.holds flag = true := by
  rcases List.mem_append.1 hmem with hmem | hmem
  · simp only [List.mem_cons, Prod.mk.injEq, List.not_mem_nil, or_false] at hmem
    rcases hmem with ⟨-, rfl⟩ | ⟨-, rfl⟩ | ⟨-, rfl⟩ | ⟨-, rfl⟩
    · exact h.bind.trans h'.bind.symm
    · exact h.bind.trans h'.bind.symm
    · exact h.recursive.trans h'.recursive.symm
    · exact h.readOnly.trans h'.readOnly.symm
  · exact (h.mount _ _ hmem).trans (h'.mount _ _ hmem).symm

theorem Means.testBit (h : Means words p) (h' : Means words p')
    (hn : p.flags.bits.testBit n = true) : p'.flags.bits.testBit n = true := by
  obtain ⟨word, flag, hmem, hflag⟩ := h.only n hn
  obtain rfl := eq_of_addingWords hmem hflag
  rw [← MountFlags.holds_shiftLeft] at hn ⊢
  exact (h.holds_iff h' hmem).1 hn

/-- **A list of words means one set of flags and one list of data.** -/
theorem means_iff : Means words p ↔ p = parse words := by
  constructor
  · intro h
    have hparse := means_parse words
    have hflags : p.flags = (parse words).flags :=
      MountFlags.ext_testBit fun n => Bool.eq_iff_iff.2 ⟨h.testBit hparse, hparse.testBit h⟩
    have hdata : p.data = (parse words).data := h.data.trans hparse.data.symm
    cases p
    cases hflags
    cases hdata
    rfl
  · rintro rfl
    exact means_parse words

end MountOptions

namespace SystemCall

open MountOptions

variable {σ : Type} {source target : String} {fsType : Option String} {p : Parsed}

theorem hasNul_append (s t : String) : hasNul (s ++ t) = (hasNul s || hasNul t) := by
  unfold hasNul
  rw [String.toList_append, List.any_append]

/-- Names that are joined by commas hold NUL if one of them does. -/
theorem hasNul_join (names : List String) : hasNul (",".intercalate names) = names.any hasNul := by
  induction names with
  | nil => rfl
  | cons name names ih =>
    cases names with
    | nil => simp
    | cons name' names =>
      rw [String.intercalate_cons_cons, hasNul_append, hasNul_append, ih,
        show hasNul "," = false by decide, Bool.or_false, ← List.any_cons]

theorem hasNul_iff {name : String} : hasNul name = true ↔ '\x00' ∈ name.toList := by
  unfold hasNul
  rw [List.any_eq_true]
  constructor
  · rintro ⟨c, hmem, hc⟩
    have hzero : c = '\x00' := by
      rw [← Char.ofNat_toNat c, eq_of_beq hc]
    exact hzero ▸ hmem
  · exact fun hmem => ⟨'\x00', hmem, rfl⟩

/-- The call by which a mount is made that is no bind. -/
def plainCall (source target : String) (fsType : Option String) (p : Parsed) : SystemCall :=
  .mount (some source) target fsType p.flags
    (if p.data = [] then none else some (",".intercalate p.data))

/-- Whether what a mount gives to the kernel holds NUL. -/
def GivesNul (source target : String) (fsType : Option String) (data : List String) : Prop :=
  ∃ name ∈ source :: target :: (fsType.toList ++ data), '\x00' ∈ name.toList

theorem any_hasNul_plainCall :
    (plainCall source target fsType p).names.any hasNul = true ↔
      GivesNul source target fsType p.data := by
  have hdata : (if p.data = [] then none else some (",".intercalate p.data)).toList.any hasNul =
      p.data.any hasNul := by
    split
    · rename_i hnone
      rw [hnone, Option.toList_none]
    · rw [Option.toList_some, List.any_cons, List.any_nil, Bool.or_false, hasNul_join]
  have hany : (plainCall source target fsType p).names.any hasNul =
      (source :: target :: (fsType.toList ++ p.data)).any hasNul := by
    simp only [plainCall, names, List.any_append, List.any_cons, hdata, Option.toList_some,
      List.cons_append, List.nil_append]
  rw [hany, List.any_eq_true]
  simp only [hasNul_iff]
  rfl

/-- A mount that is no bind asks the kernel once. -/
theorem mounting_of_not_bind {words : List String} (hbind : "bind" ∉ words) (hrbind : "rbind" ∉ words) :
    mounting source target fsType words =
      lift (perform (plainCall source target fsType (parse words))) := by
  have hflag : ¬ (parse words).flags.holds .bind = true :=
    (means_parse words).bind.not.2 (not_or.2 ⟨hbind, hrbind⟩)
  unfold mounting
  dsimp only
  rw [if_neg hflag]
  simp only [plainCall, List.isEmpty_iff]

/-- **What a mount that is no bind asks the kernel.** The flags, and the data joined by commas, are what its
words mean, and the answer of the kernel is that of the mount. -/
theorem mounting_means (words : List String) :
    (∀ p, Means words p ↔ p = parse words) ∧
      ("bind" ∉ words → "rbind" ∉ words →
        ∀ (σ : Type) (w : World SystemCall.interface σ) (s : σ) (source target : String)
          (fsType : Option String) (p : Parsed), Means words p →
          (GivesNul source target fsType p.data →
            (mounting source target fsType words).run w s = (.error (.mount .invalid), s) ∧
            (mounting source target fsType words).transcript w s = []) ∧
          (¬ GivesNul source target fsType p.data → ∀ answer s',
            w (plainCall source target fsType p) s = (answer, s') →
            (mounting source target fsType words).run w s = (answer.mapError .mount, s') ∧
            (mounting source target fsType words).transcript w s =
              [⟨plainCall source target fsType p, answer⟩])) := by
  refine ⟨fun p => means_iff, fun hbind hrbind σ w s source target fsType p hp => ?_⟩
  obtain rfl := means_iff.1 hp
  rw [mounting_of_not_bind hbind hrbind, ← any_hasNul_plainCall]
  constructor
  · intro hnul
    rw [perform_of_nul hnul]
    exact ⟨rfl, rfl⟩
  · intro hnul answer s' hanswer
    rw [perform_of_not_nul hnul]
    refine ⟨?_, ?_⟩
    · change ((w _ s).1.mapError VolumeError.mount, (w _ s).2) = _
      rw [hanswer]
    · change [(⟨_, (w _ s).1⟩ : Node.Asked interface)] = _
      rw [hanswer]

/-- A kernel that refuses every call. -/
def refusing : World SystemCall.interface Unit :=
  fun _ s => (.error ⟨16⟩, s)

/-- A mount in memory, which is to be read-only but for a word behind. -/
theorem mounting_means_tmpfs :
    (mounting "none" "/t" (some "tmpfs") ["ro", "size=1m", "nosuid", "rw", "mode=700"]).transcript
        refusing () =
      [⟨.mount (some "none") "/t" (some "tmpfs") .noSuid (some "size=1m,mode=700"), .error ⟨16⟩⟩] := by
  obtain ⟨hmeans, hplain⟩ := mounting_means ["ro", "size=1m", "nosuid", "rw", "mode=700"]
  have hcalls := hplain (by decide) (by decide) Unit refusing () "none" "/t" (some "tmpfs") _
    ((hmeans _).2 rfl)
  exact (hcalls.2 (any_hasNul_plainCall.not.1 (by decide)) _ _ rfl).2

end SystemCall

end VolumeNode
