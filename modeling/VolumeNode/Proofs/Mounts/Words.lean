import VolumeNode.Proofs.Mounts.Binding

/-!
# What option words ask for

The flags of a list of words, bit by bit: a flag is held if one of the words adds it and no later word
drops it, and only `rw` drops anything. A bind heeds only that it be recursive; the rest waits for a
remount.

* `testBit_parse`: the flags of a list of words.
* `splitBind_fst`: the flags of the bind that mounts a root.
* `requested_laterFlags`: the flags of the remount are those that the client asks for.
-/

namespace VolumeNode

theorem MountFlags.ext_testBit {f g : MountFlags}
    (h : ∀ n, f.bits.testBit n = g.bits.testBit n) : f = g :=
  congrArg MountFlags.mk (Nat.eq_of_testBit_eq h)

/-- A single flag is one bit. -/
theorem MountFlags.testBit_shiftLeft (i n : ℕ) :
    (⟨1 <<< i⟩ : MountFlags).bits.testBit n = decide (i = n) := by
  change (1 <<< i).testBit n = _
  rw [Nat.one_shiftLeft, Nat.testBit_two_pow]

theorem MountFlags.eq_of_testBit {n : ℕ} (i : ℕ)
    (h : (⟨1 <<< i⟩ : MountFlags).bits.testBit n = true) : i = n :=
  of_decide_eq_true ((testBit_shiftLeft i n).symm.trans h)

namespace MountOptions

variable {n : ℕ} {words : List String} {word : String} {p : Parsed}

/-- Whether a word adds a flag. -/
def Adds (word : String) (n : ℕ) : Prop :=
  ∃ f, effect? word = some (.add f) ∧ f.bits.testBit n = true

/-- Whether no word of a list drops a flag. -/
def Spares (words : List String) (n : ℕ) : Prop :=
  n ≠ 0 ∨ "rw" ∉ words

/-- A word that drops nothing spares every flag. -/
theorem spares_of_effect {e : Option Effect} (he : effect? word = e)
    (h : ∀ f, e ≠ some (.drop f)) : Spares [word] n := by
  refine Or.inr fun hmem => h .readOnly ?_
  rw [← he, ← List.mem_singleton.1 hmem]
  rfl

/-- A flag that is held after a word is added by it or was held before. -/
theorem testBit_step (h : (step p word).flags.bits.testBit n = true) :
    Adds word n ∨ p.flags.bits.testBit n = true ∧ Spares [word] n := by
  unfold step at h
  cases he : effect? word with
  | none =>
    rw [he] at h
    exact Or.inr ⟨h, spares_of_effect he (by simp)⟩
  | some eff =>
    rw [he] at h
    cases eff with
    | add f =>
      rcases Bool.or_eq_true_iff.1 ((MountFlags.testBit_union ..).symm.trans h) with hp | hf
      · exact Or.inr ⟨hp, spares_of_effect he (by simp)⟩
      · exact Or.inl ⟨f, he, hf⟩
    | drop f =>
      obtain ⟨rfl, rfl⟩ := eq_of_drop he
      have hdiff := Bool.and_eq_true_iff.1 ((MountFlags.testBit_diff ..).symm.trans h)
      refine Or.inr ⟨hdiff.1, Or.inl ?_⟩
      rintro rfl
      exact absurd hdiff.2 (by decide)
    | nothing => exact Or.inr ⟨h, spares_of_effect he (by simp)⟩

/-- **A flag is held if a word adds it and no later word drops it.** -/
theorem testBit_foldl_step_iff :
    (words.foldl step p).flags.bits.testBit n = true ↔
      p.flags.bits.testBit n = true ∧ Spares words n ∨
        ∃ before word after, words = before ++ word :: after ∧ Adds word n ∧ Spares after n := by
  constructor
  · intro h
    induction words generalizing p with
    | nil => exact Or.inl ⟨h, Or.inr List.not_mem_nil⟩
    | cons word words ih =>
      rcases ih h with ⟨hstep, hspares⟩ | ⟨before, word', after, rfl, hadds, hspares⟩
      · rcases testBit_step hstep with hadds | ⟨hp, hword⟩
        · exact Or.inr ⟨[], word, words, rfl, hadds, hspares⟩
        · refine Or.inl ⟨hp, ?_⟩
          rcases hword with hn | hword
          · exact Or.inl hn
          · refine hspares.imp id fun hspares hmem => ?_
            rcases List.mem_cons.1 hmem with rfl | hmem
            · exact hword (List.mem_singleton_self _)
            · exact hspares hmem
      · exact Or.inr ⟨word :: before, word', after, rfl, hadds, hspares⟩
  · rintro (⟨hp, hspares⟩ | ⟨before, word, after, rfl, ⟨f, he, hf⟩, hspares⟩)
    · exact testBit_foldl_step hp hspares
    · rw [List.foldl_append, List.foldl_cons]
      refine testBit_foldl_step ?_ hspares
      unfold step
      rw [he]
      exact (MountFlags.testBit_union ..).trans (by rw [hf, Bool.or_true])

/-- **The flags of a list of words.** -/
theorem testBit_parse :
    (parse words).flags.bits.testBit n = true ↔
      ∃ before word after, words = before ++ word :: after ∧ Adds word n ∧ Spares after n := by
  have hempty : ((⟨.empty, []⟩ : Parsed).flags.bits.testBit n = true) = False := by
    simp [MountFlags.empty]
  refine testBit_foldl_step_iff.trans ?_
  rw [hempty, false_and, false_or]

/-- Every flag but that of a read-only mount is held if a word adds it. -/
theorem testBit_parse_of_ne (hn : n ≠ 0) :
    (parse words).flags.bits.testBit n = true ↔ ∃ word ∈ words, Adds word n := by
  rw [testBit_parse]
  constructor
  · rintro ⟨before, word, after, rfl, hadds, -⟩
    exact ⟨word, List.mem_append_cons_self, hadds⟩
  · rintro ⟨word, hmem, hadds⟩
    obtain ⟨before, after, hwords⟩ := List.append_of_mem hmem
    exact ⟨before, word, after, hwords, hadds, Or.inl hn⟩

/-- The words for flags of a mount, but for `ro`. -/
def mountWords : List (String × MountFlags) :=
  [("nosuid", .noSuid), ("nodev", .noDev), ("noexec", .noExec), ("noatime", .noAtime),
    ("nodiratime", .noDirAtime), ("relatime", .relAtime)]

/-- The words that add flags, with each flag that they add. -/
def addingWords : List (String × MountFlags) :=
  [("bind", .bind), ("rbind", .bind), ("rbind", .recursive), ("ro", .readOnly)] ++ mountWords

theorem adds_iff :
    Adds word n ↔ ∃ flag, (word, flag) ∈ addingWords ∧ flag.bits.testBit n = true := by
  constructor
  · rintro ⟨f, he, hf⟩
    unfold effect? at he
    split at he <;> cases he
    case h_2.refl =>
      -- the one word for two flags
      rcases Bool.or_eq_true_iff.1 ((MountFlags.testBit_union ..).symm.trans hf) with hf | hf
      · exact ⟨.bind, by simp [addingWords], hf⟩
      · exact ⟨.recursive, by simp [addingWords], hf⟩
    all_goals exact ⟨_, by simp [addingWords, mountWords], hf⟩
  · rintro ⟨flag, hmem, hf⟩
    simp only [addingWords, mountWords, List.cons_append, List.nil_append, List.mem_cons,
      Prod.mk.injEq, List.not_mem_nil, or_false] at hmem
    rcases hmem with h | h | h | h | h | h | h | h | h | h <;> obtain ⟨rfl, rfl⟩ := h
    case inr.inl | inr.inr.inl =>
      exact ⟨_, rfl, (MountFlags.testBit_union ..).trans (by rw [hf]; simp)⟩
    all_goals exact ⟨_, rfl, hf⟩

/-- Only one word asks for a recursive bind. -/
theorem adds_recursive_iff : Adds word 14 ↔ word = "rbind" := by
  constructor
  · rintro ⟨f, he, hf⟩
    unfold effect? at he
    split at he <;> cases he
    case h_2.refl => rfl
    all_goals exact absurd hf (by decide)
  · rintro rfl
    exact ⟨_, rfl, by decide⟩

/-- The flags of a mount are neither those of the bind nor that of a read-only mount. -/
theorem mountWords_apart {flag : MountFlags} (h : (word, flag) ∈ mountWords)
    (hn : flag.bits.testBit n = true) : n ≠ 0 ∧ 12 ≠ n ∧ 14 ≠ n ∧ word ≠ "bind" ∧ word ≠ "ro" := by
  simp only [mountWords, List.mem_cons, Prod.mk.injEq, List.not_mem_nil, or_false] at h
  rcases h with h | h | h | h | h | h <;> obtain ⟨rfl, rfl⟩ := h <;>
    obtain rfl := MountFlags.eq_of_testBit _ hn <;> decide

end MountOptions

namespace Node

open MountOptions

variable {n : ℕ} {readOnly : Bool} {extra : List String}

/-- The words of a publication. -/
def rootWords (readOnly : Bool) (extra : List String) : List String :=
  (if readOnly then ["ro"] else []) ++ extra

theorem testBit_rootFlags :
    (rootFlags readOnly extra).bits.testBit n = true ↔
      ∃ before word after, "bind" :: rootWords readOnly extra = before ++ word :: after ∧
        Adds word n ∧ Spares after n :=
  testBit_parse

theorem testBit_rootFlags_of_ne (hn : n ≠ 0) :
    (rootFlags readOnly extra).bits.testBit n = true ↔
      ∃ word ∈ "bind" :: rootWords readOnly extra, Adds word n :=
  testBit_parse_of_ne hn

/-- A root is to be bound recursively if the client says so. -/
theorem recursive_rootFlags :
    (rootFlags readOnly extra).bits.testBit 14 = true ↔ "rbind" ∈ extra := by
  rw [testBit_rootFlags_of_ne (by decide)]
  constructor
  · rintro ⟨word, hmem, hadds⟩
    have hword : word = "rbind" := adds_recursive_iff.1 hadds
    subst hword
    simpa [rootWords] using hmem
  · intro hmem
    exact ⟨"rbind", by simp [rootWords, hmem], adds_recursive_iff.2 rfl⟩

/-- **The bind of a root is recursive if the client says `rbind`**, and nothing else. -/
theorem splitBind_fst (readOnly : Bool) (extra : List String) :
    (splitBind (rootFlags readOnly extra)).1 =
      if "rbind" ∈ extra then .bind ∪ .recursive else .bind := by
  refine MountFlags.ext_testBit fun n => ?_
  refine (MountFlags.testBit_union ..).trans ?_
  rw [MountFlags.testBit_inter, show MountFlags.recursive.bits.testBit n = _ from
    MountFlags.testBit_shiftLeft 14 n]
  by_cases hn : 14 = n
  · subst hn
    have hroot : (rootFlags readOnly extra).bits.testBit 14 = true ↔ "rbind" ∈ extra :=
      recursive_rootFlags
    by_cases h : "rbind" ∈ extra
    · rw [if_pos h, hroot.2 h]
      decide
    · rw [if_neg h, Bool.eq_false_iff.2 (hroot.not.2 h)]
      decide
  · rw [decide_eq_false hn, Bool.and_false, Bool.or_false]
    split
    · rw [MountFlags.testBit_union, show MountFlags.recursive.bits.testBit n = _ from
        MountFlags.testBit_shiftLeft 14 n, decide_eq_false hn, Bool.or_false]
    · rfl

/-- Whether some flags are those that a client asks for, besides the bind. A root is to be read-only if
some `ro` has no `rw` after it. -/
def Requested (readOnly : Bool) (extra : List String) (flags : MountFlags) : Prop :=
  ∀ n, flags.bits.testBit n = true ↔
    (∃ word flag, (word, flag) ∈ mountWords ∧ word ∈ extra ∧ flag.bits.testBit n = true) ∨
      MountFlags.readOnly.bits.testBit n = true ∧
        ∃ before after, rootWords readOnly extra = before ++ "ro" :: after ∧ "rw" ∉ after

/-- What the bind heeds is not put off to the remount. -/
theorem testBit_laterFlags :
    (laterFlags readOnly extra).bits.testBit n = true ↔
      (rootFlags readOnly extra).bits.testBit n = true ∧ 12 ≠ n ∧ 14 ≠ n := by
  rw [show (laterFlags readOnly extra).bits.testBit n = _ from MountFlags.testBit_diff ..,
    MountFlags.testBit_union, MountFlags.testBit_inter,
    show MountFlags.bind.bits.testBit n = _ from MountFlags.testBit_shiftLeft 12 n,
    show MountFlags.recursive.bits.testBit n = _ from MountFlags.testBit_shiftLeft 14 n]
  cases (rootFlags readOnly extra).bits.testBit n <;> simp

/-- A word that asks for a flag of the remount is one for a mount, or is `ro`. -/
theorem mountWords_of_adds {word : String} (h : Adds word n) (hbind : 12 ≠ n)
    (hrecursive : 14 ≠ n) :
    (∃ flag, (word, flag) ∈ mountWords ∧ flag.bits.testBit n = true) ∨
      word = "ro" ∧ MountFlags.readOnly.bits.testBit n = true := by
  obtain ⟨flag, hmem, hf⟩ := adds_iff.1 h
  rcases List.mem_append.1 hmem with hmem | hmem
  · simp only [List.mem_cons, Prod.mk.injEq, List.not_mem_nil, or_false] at hmem
    rcases hmem with ⟨rfl, rfl⟩ | ⟨rfl, rfl⟩ | ⟨rfl, rfl⟩ | ⟨rfl, rfl⟩
    · exact (hbind (MountFlags.eq_of_testBit 12 hf)).elim
    · exact (hbind (MountFlags.eq_of_testBit 12 hf)).elim
    · exact (hrecursive (MountFlags.eq_of_testBit 14 hf)).elim
    · exact Or.inr ⟨rfl, hf⟩
  · exact Or.inl ⟨flag, hmem, hf⟩

/-- **The flags of the remount are those that the client asks for.** -/
theorem requested_laterFlags (readOnly : Bool) (extra : List String) :
    Requested readOnly extra (laterFlags readOnly extra) := by
  intro n
  rw [testBit_laterFlags]
  constructor
  · rintro ⟨hroot, hbind, hrecursive⟩
    obtain ⟨before, word, after, hwords, hadds, hspares⟩ := testBit_rootFlags.1 hroot
    rcases mountWords_of_adds hadds hbind hrecursive with ⟨flag, hmem, hf⟩ | ⟨rfl, hf⟩
    · obtain ⟨-, -, -, hne, hne'⟩ := mountWords_apart hmem hf
      have hword : word ∈ "bind" :: rootWords readOnly extra := hwords ▸ List.mem_append_cons_self
      refine Or.inl ⟨word, flag, hmem, ?_, hf⟩
      cases readOnly <;> simpa [rootWords, hne, hne'] using hword
    · have hn : 0 = n := MountFlags.eq_of_testBit 0 hf
      refine Or.inr ⟨hf, ?_⟩
      -- the word for the bind is not the one that asks for the flag
      cases before with
      | nil => exact absurd (List.cons.inj hwords).1 (by decide)
      | cons _ before =>
        exact ⟨before, after, (List.cons.inj hwords).2, hspares.resolve_left fun h => h hn.symm⟩
  · rintro (⟨word, flag, hmem, hword, hf⟩ | ⟨hf, before, after, hwords, hspares⟩)
    · obtain ⟨hn, hbind, hrecursive, -⟩ := mountWords_apart hmem hf
      refine ⟨(testBit_rootFlags_of_ne hn).2 ⟨word, ?_, ?_⟩, hbind, hrecursive⟩
      · simp [rootWords, hword]
      · exact adds_iff.2 ⟨flag, List.mem_append_right _ hmem, hf⟩
    · have hn : 0 = n := MountFlags.eq_of_testBit 0 hf
      subst hn
      refine ⟨testBit_rootFlags.2 ⟨"bind" :: before, "ro", after, ?_, ?_, Or.inr hspares⟩, by decide,
        by decide⟩
      · rw [hwords]
        rfl
      · exact ⟨.readOnly, rfl, hf⟩

end Node

end VolumeNode
