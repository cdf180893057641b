import Mathlib.Data.Nat.Notation
import VolumeNode.Attributes

/-!
# Attribute maps from lists of entries

The order in which the entries of a map are written makes no difference.

* `perm_insertEntry`: an entry for a new name is added.
* `ofList_of_perm`: a map is got back from its entries in any order.
-/

namespace VolumeNode

variable {name text : String} {es : List (String × String)}

/-- An entry for a new name is added. -/
theorem perm_insertEntry (h : ∀ e ∈ es, name ≠ e.1) :
    (insertEntry name text es).Perm ((name, text) :: es) := by
  induction es with
  | nil => exact List.Perm.refl _
  | cons d rest ih =>
    rw [insertEntry]
    split
    · exact List.Perm.refl _
    · rename_i hle
      split
      · exact ((ih fun e he => h e (List.mem_cons_of_mem _ he)).cons d).trans (List.Perm.swap ..)
      · rename_i hge
        have hname : name = d.1 := String.le_antisymm (String.not_lt.1 hge) (String.not_lt.1 hle)
        exact (h d List.mem_cons_self hname).elim

namespace Attributes

/-- Entries for new names, of which no two are the same, are all added. -/
theorem perm_foldl_insert {m : Attributes} (hes : es.Pairwise fun a b => a.1 ≠ b.1)
    (hm : ∀ e ∈ es, ∀ d ∈ m.entries, e.1 ≠ d.1) :
    (es.foldl (fun m e => m.insert e.1 e.2) m).entries.Perm (es ++ m.entries) := by
  induction es generalizing m with
  | nil => exact List.Perm.refl _
  | cons e es ih =>
    obtain ⟨hne, hes⟩ := List.pairwise_cons.1 hes
    have hinsert : (m.insert e.1 e.2).entries.Perm (e :: m.entries) :=
      perm_insertEntry (hm e List.mem_cons_self)
    refine (ih hes fun e' he' d hd => ?_).trans ?_
    · rcases List.mem_cons.1 (hinsert.subset hd) with rfl | hd
      · exact (hne e' he').symm
      · exact hm e' (List.mem_cons_of_mem _ he') d hd
    · exact (hinsert.append_left es).trans List.perm_middle

theorem eq_of_entries {m m' : Attributes} (h : m.entries = m'.entries) : m = m' := by
  cases m
  cases m'
  cases h
  rfl

/-- **A map is got back from its entries in any order.** -/
theorem ofList_of_perm {m : Attributes} (h : es.Perm m.entries) : ofList es = m := by
  have hrising : m.entries.Pairwise fun a b => a.1 ≠ b.1 :=
    m.rising.imp fun {a b} hlt (heq : a.1 = b.1) => String.lt_irrefl b.1 (heq ▸ hlt)
  have hnames : es.Pairwise fun a b => a.1 ≠ b.1 := hrising.perm h.symm Ne.symm
  have hperm : (ofList es).entries.Perm m.entries := by
    have hall := perm_foldl_insert (m := empty) hnames fun _ _ d hd => absurd hd List.not_mem_nil
    rw [show empty.entries = [] from rfl, List.append_nil] at hall
    exact hall.trans h
  have heq : (ofList es).entries = m.entries :=
    hperm.eq_of_pairwise (fun a b _ _ hab hba => (String.lt_asymm hab hba).elim) (ofList es).rising
      m.rising
  exact eq_of_entries heq

end Attributes

end VolumeNode
