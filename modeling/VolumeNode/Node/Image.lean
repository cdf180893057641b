import VolumeNode.Config
import VolumeNode.Node.Action
import VolumeNode.Text.Blank
import VolumeNode.Text.Lowercase
import VolumeNode.Text.Utf8

/-!
# Image instances

The image tool keeps an instance of an image for each volume, under the name of the volume, and
prints the path of its root. The tool alone knows which instances exist, so deleting one that is not
there counts as done; it says so in words. Main statements:

* `occursIn_iff`: a word occurs in a text if it stands somewhere in it.
* `isNotFound_iff`: the words are looked for in the lower case of the output.
-/

namespace VolumeNode.Image

/-- The tool run with the given arguments. -/
def command (c : Config) (arguments : List String) : Command :=
  ⟨c.toolPath, arguments, c.timeout⟩

/-- The run that creates the instance of a volume. -/
def createCommand (c : Config) (volume image : String) : Command :=
  command c ["from", "--name", volume, "--pull", image]

/-- The run that prints the root of an instance. -/
def mountCommand (c : Config) (volume : String) : Command :=
  command c ["mount", volume]

/-- The run that deletes an instance. -/
def deleteCommand (c : Config) (volume : String) : Command :=
  command c ["delete", volume]

/-- The root path in the output of the tool; blanks around it do not count. -/
def root? (output : Output) : Option String :=
  let path := Text.trim (Text.Utf8.decodeLossy output)
  if path.isEmpty then none else some path

/-- The root path that must be in the output. -/
def rootOf (volume : String) (output : Output) : Except VolumeError String :=
  match root? output with
  | some path => .ok path
  | none => .error (.noRootPath volume)

/-- Creates the instance of a volume and finds its root. -/
def provision (c : Config) (volume image : String) : Call String :=
  (Action.runTool (createCommand c volume image)).take.andThen fun created =>
    if c.resolveRoot then
      (Action.runTool (mountCommand c volume)).take.andThen fun mounted =>
        .done (rootOf volume mounted)
    else .done (rootOf volume created)

/-- The words by which the tool says that there is no such instance. -/
def notFoundMarkers : List String :=
  ["not found", "no such container", "not known", "does not exist"]

/-- Whether the characters occur in a row. -/
def occursIn (word : List Char) : List Char → Bool
  | [] => word.isEmpty
  | c :: rest => word.isPrefixOf (c :: rest) || occursIn word rest

/-- Whether the output of a failed run says that there is no such instance. -/
def isNotFound (output : String) : Bool :=
  notFoundMarkers.any fun m => occursIn m.toList (Text.lowercase output).toList

/-- A failure that says there is no such instance is none. -/
def absorb : Except VolumeError Output → Except VolumeError Unit
  | .ok _ => .ok ()
  | .error (.processFailure command status output) =>
    if isNotFound output then .ok () else .error (.processFailure command status output)
  | .error e => .error e

/-- Deletes the instance of a volume. -/
def release (c : Config) (volume : String) : Call Unit :=
  (Action.runTool (deleteCommand c volume)).take.bind fun r => .done (absorb r)

theorem occursIn_iff {word text : List Char} : occursIn word text = true ↔ word <:+: text := by
  induction text with
  | nil => rw [occursIn, List.isEmpty_iff, List.infix_nil]
  | cons c rest ih => rw [occursIn, Bool.or_eq_true, List.isPrefixOf_iff_prefix, ih, List.infix_cons_iff]

theorem isNotFound_iff {output : String} :
    isNotFound output = true ↔
      ∃ m ∈ notFoundMarkers, occursIn m.toList (Text.lowercase output).toList = true := by
  simp [isNotFound]

end VolumeNode.Image
