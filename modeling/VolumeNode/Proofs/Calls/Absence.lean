import VolumeNode.Proofs.Calls.Unpublishing
import VolumeNode.Proofs.Text.LetterCase

/-!
# What the tool says of an instance that is not there

An instance that is not there has been released. Only the words of the tool tell that failure from others,
so a deletion counts as one if its output has such words in it, in any letter case and wherever they stand.
They may also stand in a name that the output quotes.

* `isNotFound_iff_saysAbsent`: which outputs say that there is no such instance.
* `release_told`: what comes of a deletion that fails.
* `released_gone_iff`: for which names a release that succeeds has left no instance.
* `release_quoted`: a volume with such words for a name.
-/

namespace VolumeNode.Node

open Program (World)
open Text (SpelledIn SameLetters IsWord)

/-- The words by which a tool says that there is no such instance. -/
def absenceWords : List String :=
  ["not found", "no such container", "not known", "does not exist"]

/-- Whether a text has such words in it, each letter small or capital. -/
def SaysAbsent (text : String) : Prop :=
  ∃ words ∈ absenceWords, SpelledIn words.toList text.toList

theorem isWord_absenceWords : ∀ words ∈ absenceWords, IsWord words.toList := by
  decide +kernel

/-- **Which outputs say that there is no such instance.** -/
theorem isNotFound_iff_saysAbsent {output : String} :
    Image.isNotFound output = true ↔ SaysAbsent output := by
  rw [Image.isNotFound_iff]
  refine exists_congr fun words => and_congr_right fun hwords => ?_
  rw [Image.occursIn_iff, Text.lowercase, String.toList_ofList]
  exact Text.infix_lowerFrom_iff (isWord_absenceWords words hwords)

/-- What stands around the words does not matter. -/
theorem SaysAbsent.mono {output output' : String} (h : SaysAbsent output)
    (hwithin : output.toList <:+: output'.toList) : SaysAbsent output' := by
  obtain ⟨words, hwords, hspelled⟩ := h
  exact ⟨words, hwords, hspelled.mono hwithin⟩

/-- Nor does the case of ASCII letters. -/
theorem saysAbsent_congr {output output' : String} (h : SameLetters output.toList output'.toList) :
    SaysAbsent output ↔ SaysAbsent output' := by
  refine exists_congr fun words => and_congr_right fun hwords => ?_
  have hsmall := (isWord_absenceWords words hwords).small
  exact ⟨fun hspelled => hspelled.of_sameLetters hsmall h,
    fun hspelled => hspelled.of_sameLetters hsmall h.symm⟩

/-- A colon ends such words, and so does what stands before the space behind it. -/
theorem saysAbsent_colon {front back : String} :
    SaysAbsent (front ++ ": " ++ back) ↔ SaysAbsent front ∨ SaysAbsent back := by
  have hcolon : ∀ m ∈ Text.smallLetters, ¬ Text.Spells ':' m :=
    List.all_iff_forall_prop.1 (by decide +kernel)
  have hspace : ∀ words ∈ absenceWords, words.toList.head?.all fun m => ¬ Text.Spells ' ' m := by
    decide +kernel
  have hcut : ∀ words ∈ absenceWords, SpelledIn words.toList (front ++ ": " ++ back).toList ↔
      SpelledIn words.toList front.toList ∨ SpelledIn words.toList back.toList := by
    intro words hwords
    have hletters := fun m hm => hcolon m ((isWord_absenceWords words hwords).small m hm)
    have hfirst := fun m hm => of_decide_eq_true ((Option.all_eq_true _ _).1 (hspace words hwords) m hm)
    rw [show (front ++ ": " ++ back).toList = front.toList ++ ':' :: ' ' :: back.toList by
        simp [String.toList_append],
      Text.spelledIn_append_cons_iff hletters,
      Text.spelledIn_cons_iff fun m hm => hletters m (List.mem_of_mem_head? hm),
      Text.spelledIn_cons_iff hfirst]
  constructor
  · rintro ⟨words, hwords, hspelled⟩
    exact ((hcut words hwords).1 hspelled).imp (⟨words, hwords, ·⟩) (⟨words, hwords, ·⟩)
  · rintro (⟨words, hwords, hspelled⟩ | ⟨words, hwords, hspelled⟩)
    · exact ⟨words, hwords, (hcut words hwords).2 (Or.inl hspelled)⟩
    · exact ⟨words, hwords, (hcut words hwords).2 (Or.inr hspelled)⟩

/-- What a tool answers when it is to delete the instance of a volume. -/
def deletionAnswer {σ : Type} (c : Config) (v : String) (w : World Action.interface σ) (s : σ) :
    Except VolumeError Output :=
  (w (.runTool ⟨c.toolPath, ["delete", v], c.timeout⟩) s).1

/-- What comes of the release of the instance. -/
def releaseResult {σ : Type} (c : Config) (v : String) (w : World Action.interface σ) (s : σ) :
    Except VolumeError Unit :=
  ((Image.release c v).run w s).1

/-- A release is a deletion, with its failure absorbed if it says that there is no such instance. -/
theorem releaseResult_eq {σ : Type} (c : Config) (v : String) (w : World Action.interface σ) (s : σ) :
    releaseResult c v w s = Image.absorb (deletionAnswer c v w s) :=
  rfl

/-- A deletion that fails is absorbed if its output says that there is no such instance. -/
theorem absorb_error_eq_ok_iff {e : VolumeError} :
    Image.absorb (.error e) = .ok () ↔
      ∃ line status output, e = .processFailure line status output ∧ SaysAbsent output := by
  rw [absorb_eq_ok_iff]
  simp [Deleted, isNotFound_iff_saysAbsent]

theorem absorb_processFailure_eq_ok_iff {line status output : String} :
    Image.absorb (.error (.processFailure line status output)) = .ok () ↔ SaysAbsent output := by
  rw [absorb_error_eq_ok_iff]
  simp

theorem not_saysAbsent_empty : ¬ SaysAbsent "" := by
  rw [← isNotFound_iff_saysAbsent]
  decide +kernel

/-- **What comes of a deletion that fails.** It counts as a release if it is the failure of a command that
has run, and its output has words in it that say that there is no such instance, each letter small or
capital; nothing else about the output matters. Every other failure is that of the release, that of a
command that could not be started among them. -/
theorem release_told {σ : Type} (c : Config) (v : String) (w : World Action.interface σ) (s : σ) :
    (∀ e, deletionAnswer c v w s = .error e →
        (releaseResult c v w s = .ok () ↔
          ∃ line status output, e = .processFailure line status output ∧ SaysAbsent output) ∧
        (releaseResult c v w s = .ok () ∨ releaseResult c v w s = .error e)) ∧
      (∀ command reason, deletionAnswer c v w s = .error (Execution.notStarted command reason) →
        releaseResult c v w s = .error (Execution.notStarted command reason)) ∧
      ∀ (w' : World Action.interface σ) (s' : σ) (line status output line' status' output' : String),
        deletionAnswer c v w s = .error (.processFailure line status output) →
        deletionAnswer c v w' s' = .error (.processFailure line' status' output') →
        (SameLetters output.toList output'.toList →
          (releaseResult c v w s = .ok () ↔ releaseResult c v w' s' = .ok ())) ∧
        (output.toList <:+: output'.toList →
          releaseResult c v w s = .ok () → releaseResult c v w' s' = .ok ()) := by
  refine ⟨fun e htold => ?_, fun command reason htold => ?_, ?_⟩
  · rw [releaseResult_eq, htold]
    exact ⟨absorb_error_eq_ok_iff, absorb_error e⟩
  · rw [releaseResult_eq, htold]
    refine (absorb_error _).resolve_left fun hok => ?_
    exact not_saysAbsent_empty (absorb_processFailure_eq_ok_iff.1 hok)
  · intro w' s' line status output line' status' output' htold htold'
    rw [releaseResult_eq, releaseResult_eq, htold, htold', absorb_processFailure_eq_ok_iff,
      absorb_processFailure_eq_ok_iff]
    exact ⟨saysAbsent_congr, fun hwithin habsent => habsent.mono hwithin⟩

/-- A host on which every run of the tool fails with the same output. -/
def answering (output : String) : World Action.interface Unit
  | .enter _, s => ((0 : Ticket), s)
  | .acquire _, s | .release _, s | .discard _, s => ((), s)
  | .inspect _, s => (.ok false, s)
  | .runTool command, s => (.error (.processFailure command.line "exit status: 125" output), s)
  | .create .., s | .mount .., s | .unmount _, s => (.ok (), s)

/-- Words in capitals, with a Kelvin sign for a letter, are understood. -/
theorem release_told_capitals :
    releaseResult {} "v" (answering "Error: v: container NOT \u212ANOWN") () = .ok () := by
  obtain ⟨hiff, -⟩ := (release_told {} "v" (answering "Error: v: container NOT \u212ANOWN") ()).1 _ rfl
  exact hiff.2 ⟨_, _, _, rfl, isNotFound_iff_saysAbsent.1 (by decide +kernel)⟩

/-- How a deletion may end, with a tool that quotes the name in front of its reason. The reason for not
deleting an instance that is there is none that says that it is not. -/
inductive DeletionEnds {σ : Type} (v : String) (held : σ → Prop) (s : σ) :
    Except VolumeError Output × σ → Prop where
  | removed (output : Output) (s' : σ) (h : ¬ held s') : DeletionEnds v held s (.ok output, s')
  | absent (line status : String) (s' : σ) (h : ¬ held s) (h' : ¬ held s') : DeletionEnds v held s
      (.error (.processFailure line status ("Error: " ++ v ++ ": " ++ "container not known")), s')
  | refused (line status reason : String) (s' : σ) (h : held s) (hreason : ¬ SaysAbsent reason) :
      DeletionEnds v held s
        (.error (.processFailure line status ("Error: " ++ v ++ ": " ++ reason)), s')

/-- Whether a tool deletes an instance so, whatever its state. -/
def QuotesName {σ : Type} (c : Config) (v : String) (held : σ → Prop) (w : World Action.interface σ) :
    Prop :=
  ∀ s, DeletionEnds v held s (w (.runTool ⟨c.toolPath, ["delete", v], c.timeout⟩) s)

/-- A tool that holds on to every instance. -/
def stubborn (v : String) : World Action.interface Unit :=
  answering ("Error: " ++ v ++ ": " ++ "device or resource busy")

/-- What a tool quotes has such words in it if the name or the reason has. -/
theorem saysAbsent_quoted {v reason : String} :
    SaysAbsent ("Error: " ++ v ++ ": " ++ reason) ↔ SaysAbsent v ∨ SaysAbsent reason := by
  have herror : ¬ SaysAbsent "Error" := by
    rw [← isNotFound_iff_saysAbsent]
    decide +kernel
  rw [saysAbsent_colon, show "Error: " ++ v = "Error" ++ ": " ++ v by rw [String.append_assoc]; rfl,
    saysAbsent_colon, or_iff_right herror]

theorem quotesName_stubborn (c : Config) (v : String) : QuotesName c v (fun _ => True) (stubborn v) := by
  refine fun s => .refused _ _ _ _ trivial ?_
  rw [← isNotFound_iff_saysAbsent]
  decide +kernel

/-- A tool that holds on to an instance is taken to have none if the name says so. -/
theorem releaseResult_stubborn {c : Config} {v : String} (h : SaysAbsent v) :
    releaseResult c v (stubborn v) () = .ok () := by
  have htold : deletionAnswer c v (stubborn v) () =
      .error (.processFailure (Image.deleteCommand c v).line "exit status: 125"
        ("Error: " ++ v ++ ": " ++ "device or resource busy")) := rfl
  rw [releaseResult_eq, htold, absorb_processFailure_eq_ok_iff, saysAbsent_quoted]
  exact Or.inl h

/-- A deletion that is taken for a release has left no instance, unless the name says that there is none. -/
theorem DeletionEnds.not_held {σ : Type} {v : String} {held : σ → Prop} {s : σ}
    {r : Except VolumeError Output × σ} (h : DeletionEnds v held s r) (hv : ¬ SaysAbsent v)
    (hok : Image.absorb r.1 = .ok ()) : ¬ held r.2 := by
  cases h with
  | removed output s' h => exact h
  | absent line status s' h h' => exact h'
  | refused line status reason s' h hreason =>
    rcases saysAbsent_quoted.1 (absorb_processFailure_eq_ok_iff.1 hok) with hname | habsent
    · exact absurd hname hv
    · exact absurd habsent hreason

/-- **For which names a release that succeeds has left no instance**: with every tool that quotes the name, if
the name itself has no words in it that say that there is none. -/
theorem released_gone_iff (c : Config) (v : String) :
    (∀ (σ : Type) (held : σ → Prop) (w : World Action.interface σ), QuotesName c v held w →
      ∀ s, ((Image.release c v).run w s).1 = .ok () → ¬ held ((Image.release c v).run w s).2) ↔
      ¬ SaysAbsent v := by
  constructor
  · intro h hv
    exact h Unit (fun _ => True) (stubborn v) (quotesName_stubborn c v) () (releaseResult_stubborn hv)
      trivial
  · intro hv σ held w hw s hok
    exact (hw s).not_held hv hok

/-- **A volume with such words for a name** is released while the tool holds on to its instance. -/
theorem release_quoted :
    QuotesName {} "not found" (fun _ => True) (stubborn "not found") ∧
      ((Image.release {} "not found").run (stubborn "not found") ()).1 = .ok () :=
  ⟨quotesName_stubborn {} "not found",
    releaseResult_stubborn (isNotFound_iff_saysAbsent.1 (by decide +kernel))⟩

end VolumeNode.Node
