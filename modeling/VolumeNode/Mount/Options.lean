import VolumeNode.Mount.Flags

/-!
# Mount options

A list of option words gives flags and, for the words that are no flag, data for the file system.
A bind mount takes two steps: the kernel heeds only `bind` and `recursive` on the mount itself, and
all other flags need a remount. Main statement: `data_parse`: the data are the unknown words, in their
order.
-/

namespace VolumeNode.MountOptions

/-- What a known word does to the flags. -/
inductive Effect where
  | add (f : MountFlags)
  | drop (f : MountFlags)
  | nothing
  deriving DecidableEq, Repr

/-- The known words. -/
def effect? (word : String) : Option Effect :=
  match word with
  | "bind" => some (.add .bind)
  | "rbind" => some (.add (.bind ∪ .recursive))
  | "ro" => some (.add .readOnly)
  | "rw" => some (.drop .readOnly)
  | "nosuid" => some (.add .noSuid)
  | "nodev" => some (.add .noDev)
  | "noexec" => some (.add .noExec)
  | "noatime" => some (.add .noAtime)
  | "nodiratime" => some (.add .noDirAtime)
  | "relatime" => some (.add .relAtime)
  | "defaults" => some .nothing
  | _ => none

/-- The flags after an effect. -/
def Effect.apply (f : MountFlags) : Effect → MountFlags
  | add g => f ∪ g
  | drop g => f \ g
  | nothing => f

/-- Flags and data. -/
structure Parsed where
  flags : MountFlags
  data : List String
  deriving DecidableEq, Repr

/-- One word more. -/
def step (p : Parsed) (word : String) : Parsed :=
  match effect? word with
  | some e => ⟨e.apply p.flags, p.data⟩
  | none => ⟨p.flags, p.data ++ [word]⟩

/-- The flags and data of a list of words. -/
def parse (words : List String) : Parsed :=
  words.foldl step ⟨.empty, []⟩

/-- The flags of the bind mount itself, and those that need a remount. -/
def splitBind (f : MountFlags) : MountFlags × MountFlags :=
  let first := .bind ∪ (f ∩ .recursive)
  (first, f \ first)

/-- The words for mounting a root: a bind, read-only if asked for, and the words of the client. -/
def forBind (readOnly : Bool) (extra : List String) : List String :=
  "bind" :: (if readOnly then ["ro"] else []) ++ extra

theorem foldl_step_data (words : List String) (p : Parsed) :
    (words.foldl step p).data = p.data ++ words.filter fun w => (effect? w).isNone := by
  induction words generalizing p with
  | nil => simp
  | cons w words ih =>
    rw [List.foldl_cons, ih]
    cases h : effect? w <;> simp [step, h]

/-- The data are the unknown words, in their order. -/
theorem data_parse (words : List String) :
    (parse words).data = words.filter fun w => (effect? w).isNone := by
  simp [parse, foldl_step_data]

end VolumeNode.MountOptions
