import VolumeNode.CommandLine.Parser
import VolumeNode.Config
import VolumeNode.Request

/-!
# What a command line asks for

A command line sets the node up and names one thing to do. A shared parameter is taken from behind
the subcommand, else from in front of it, else from the environment, else it has its default.
-/

namespace VolumeNode.CommandLine

/-- One call, to be made once. -/
inductive Job where
  | publish (volume target image : String) (readOnly : Bool) (mountFlags : List String)
      (fsType : String) (deviceId : Option String)
  | unpublish (volume target : String)
  | stage (volume target : String)
  | unstage (volume target : String)
  deriving DecidableEq, Repr

/-- What is to be done. -/
inductive Task where
  | serve (socket : String)
  | perform (j : Job)
  deriving DecidableEq, Repr

/-- A command line that is understood. -/
structure Invocation where
  verbose : Bool
  tool : String
  timeoutSecs : Nat
  targetDirMode : Nat
  resolveRoot : Bool
  task : Task
  deriving DecidableEq, Repr

/-- The variables of the environment. -/
abbrev Environment :=
  List (String × String)

/-- The value that the environment has for a parameter. -/
def Environment.value? (e : Environment) (p : Parameter) : Option String :=
  p.envName?.bind fun name => List.lookup name e

namespace Progress

/-- Ends a level: what is pending is judged, and the environment speaks for what was not given. -/
def finish (g : Progress) (e : Environment) (l : Level) : Except Fault Progress := do
  let g ← g.settle
  for p in l.options do
    if (g.values? p).isNone then
      if let some value := e.value? p then p.check value
  .ok g

/-- Whether everything is given that must be. -/
def complete (g : Progress) (l : Level) : Except Fault Unit :=
  if l.required.all fun p => (g.values? p).isSome then .ok () else .error .missingArgument

/-- The first value of a parameter. -/
def value? (g : Progress) (p : Parameter) : Option String :=
  (g.values? p).bind List.head?

/-- Whether a switch was given. -/
def has (g : Progress) (p : Parameter) : Bool :=
  (g.values? p).isSome

end Progress

namespace Invocation

/-- Where the node listens unless told otherwise. -/
def defaultSocket : String :=
  "/run/imgvol/imgvol.sock"

/-- What the part behind a subcommand asks for. -/
def taskOf (l : Level) (g : Progress) : Option Task :=
  let text (p : Parameter) : String := (g.value? p).getD ""
  match l with
  | .top => none
  | .serve => some (.serve ((g.value? .socket).getD defaultSocket))
  | .publish => some (.perform (.publish (text .volume) (text .target) (text .image)
      (g.has .readOnly) ((g.values? .mountFlag).getD []) (text .fsType) (g.value? .deviceId)))
  | .unpublish => some (.perform (.unpublish (text .volume) (text .target)))
  | .stage => some (.perform (.stage (text .volume) (text .target)))
  | .unstage => some (.perform (.unstage (text .volume) (text .target)))

/-- The fault of a command line without a subcommand. -/
def withoutTask (e : Environment) (top : Progress) : Fault :=
  if top.given.isEmpty && Parameter.shared.all fun p => (e.value? p).isNone then .nothingAsked
  else .missingSubcommand

/-- Puts both parts of a command line together. -/
def assemble (e : Environment) (top behind : Progress) (t : Task) : Invocation :=
  let value? (p : Parameter) : Option String :=
    (behind.value? p).or ((top.value? p).or (e.value? p))
  let has (p : Parameter) : Bool := behind.has p || top.has p
  { verbose := has .verbose
    tool := (value? .tool).getD ({} : Config).toolPath
    timeoutSecs := (((value? .timeout).map Seconds.parse).bind Except.toOption).getD 0
    targetDirMode := ((value? .targetDirMode).bind FileMode.parse?).getD ({} : Config).targetDirMode
    resolveRoot := has .resolveRoot
    task := t }

/-- Reads a command line. -/
def parse (e : Environment) (words : List String) : Except Fault Invocation := do
  let (top, rest) ← Progress.scan .top words {}
  match rest with
  | none =>
    let top ← top.finish e .top
    .error (withoutTask e top)
  | some (l, rest) =>
    let (behind, _) ← Progress.scan l rest {}
    let behind ← behind.finish e l
    behind.complete l
    let top ← top.finish e .top
    match taskOf l behind with
    | some t => .ok (assemble e top behind t)
    | none => .error .missingSubcommand

/-- The settings of the node. -/
def config (i : Invocation) : Config :=
  ((({ toolPath := i.tool } : Config).withTimeout ⟨i.timeoutSecs, 0⟩).withTargetDirMode
    i.targetDirMode).withRootResolution i.resolveRoot

end Invocation

/-- The request that makes the call. -/
def Job.request : Job → Request
  | publish volume target image readOnly mountFlags fsType deviceId => .publish
      { volumeId := volume
        targetPath := target
        capability := some ⟨some ⟨fsType, mountFlags⟩⟩
        volumeContext := Attributes.ofList [(PublishRequest.imageAttribute, image)]
        publishContext := Attributes.ofList
          ((deviceId.map fun d => (PublishRequest.deviceAttribute, d)).toList)
        readonly := readOnly }
  | unpublish volume target => .unpublish ⟨volume, target⟩
  | stage volume target => .stage ⟨volume, target⟩
  | unstage volume target => .unstage ⟨volume, target⟩

end VolumeNode.CommandLine
