import VolumeNode.CommandLine.Outcome

/-!
# Rehearsing a command line

Obeys a command line on a fresh host, so that nothing is mounted and no tool is run, and shows what
would come of it. A node that is to serve has one client: what comes in is its connection.
-/

namespace VolumeNode.CommandLine

/-- What is left to read. -/
partial def readRest (source : IO.FS.Stream) (seen : ByteArray) : IO ByteArray := do
  let more ← source.read 4096
  if more.isEmpty then return seen else readRest source (seen ++ more)

/-- The variables that a command line looks at. -/
def readEnvironment : IO Environment :=
  (Parameter.shared.filterMap Parameter.envName?).filterMapM fun name => do
    return (← IO.getEnv name).map (name, ·)

/-- The clients of a node that is to serve. -/
def readClients (i : Except Fault Invocation) : IO (List Output) := do
  match i with
  | .ok { task := .serve _, .. } =>
    return [(← readRest (← IO.getStdin) ByteArray.empty).toList]
  | _ => return []

/-- Obeys a command line and ends with its exit status. -/
def rehearse (words : List String) : IO UInt32 := do
  let environment ← readEnvironment
  let clients ← readClients (Invocation.parse environment words)
  let (outcome, _) := run environment words clients {}
  let stdout ← IO.getStdout
  stdout.putStr outcome.stdout
  for received in outcome.received do
    stdout.write ⟨received.toArray⟩
  stdout.flush
  IO.eprint outcome.stderr
  return UInt32.ofNat outcome.exitCode

end VolumeNode.CommandLine

def main (words : List String) : IO UInt32 :=
  VolumeNode.CommandLine.rehearse words
