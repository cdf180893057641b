import VolumeNode.Mount.SystemCall

/-!
# The mount table

The table of a rehearsed kernel says what is mounted on each target. A call answers as it is told to,
and otherwise as a kernel would. Main statement: `nodup_answer`: the table never has two sources for one
target.
-/

namespace VolumeNode.Host

/-- The source of each mounted target. -/
abbrev Mounts := List (String × String)

namespace Mounts

/-- Whether the target is mounted. -/
def has (m : Mounts) (target : String) : Bool :=
  m.any (·.1 == target)

/-- The table without the target. -/
def remove (m : Mounts) (target : String) : Mounts :=
  m.filter (·.1 != target)

/-- The table with the source on the target. -/
def put (m : Mounts) (target source : String) : Mounts :=
  m.remove target ++ [(target, source)]

/-- How a kernel answers when nothing is wrong with it. -/
def perform (m : Mounts) : SystemCall → Except Errno Unit × Mounts
  | .mount source target _ flags _ =>
    if flags.holds .remount then (.ok (), m) else (.ok (), m.put target (source.getD ""))
  | .unmount target => if m.has target then (.ok (), m.remove target) else (.error .invalid, m)

/-- The answer to a call that is told to fail with an error number, or, with 0, to go on. -/
def answer (m : Mounts) (told : Int) (c : SystemCall) : Except Errno Unit × Mounts :=
  if told = 0 then m.perform c else (.error ⟨told⟩, m)

/-- The targets in the table. -/
def targets (m : Mounts) : List String :=
  m.map Prod.fst

theorem nodup_remove {m : Mounts} (h : m.targets.Nodup) (target : String) :
    (m.remove target).targets.Nodup :=
  h.sublist (List.filter_sublist.map _)

theorem not_mem_remove (m : Mounts) (target : String) : target ∉ (m.remove target).targets := by
  simp [remove, targets]

theorem nodup_put {m : Mounts} (h : m.targets.Nodup) (target source : String) :
    (m.put target source).targets.Nodup := by
  have hout := m.not_mem_remove target
  have hin := nodup_remove h target
  simp only [put, targets, List.map_append, List.map_cons, List.map_nil] at *
  exact List.nodup_append.2 ⟨hin, by simp, by rintro _ ha _ hb rfl; simp_all⟩

/-- Whatever calls are made and told, the table has one source for a target. -/
theorem nodup_answer {m : Mounts} (h : m.targets.Nodup) (told : Int) (c : SystemCall) :
    (m.answer told c).2.targets.Nodup := by
  unfold answer
  split
  · cases c with
    | mount source target fsType flags data =>
      simp only [perform]
      split
      · exact h
      · exact nodup_put h ..
    | unmount target =>
      simp only [perform]
      split
      · exact nodup_remove h target
      · exact h
  · exact h

end Mounts

end VolumeNode.Host
