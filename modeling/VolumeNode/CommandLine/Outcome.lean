import VolumeNode.CommandLine.Invocation
import VolumeNode.Host.Listener

/-!
# What comes of a command line

A command line is obeyed on a host: one call is made and its response written out, or the node
serves the clients that connect and then stops. What fails is told where failures are told, and in
the exit status. Main statement: `exitCode_ofResponse`: a call exits with 0 exactly when its response
carries no failure.
-/

namespace VolumeNode.CommandLine

open Host

/-- What a run leaves to those who see it. -/
structure Outcome where
  exitCode : Nat
  stdout : String := ""
  stderr : String := ""
  /-- What the clients got, in the order in which they connected. -/
  received : List Output := []
  deriving DecidableEq, Repr

namespace Outcome

/-- A run that fails, with what it still writes. -/
def failure (written reason : String) : Outcome :=
  { exitCode := 1, stdout := written, stderr := "Error: " ++ reason ++ "\n" }

/-- The end of a call. -/
def ofResponse (r : Response) : Outcome :=
  let line := r.encode ++ "\n"
  match r.error with
  | none => { exitCode := 0, stdout := line }
  | some status => failure line status.report

/-- The end of a node that was to serve. -/
def ofServing : Except ListenError (List Output) → Outcome
  | .ok received => { exitCode := 0, received := received }
  | .error e => failure "" e.report

/-- The end of a command line that is refused. -/
def ofFault (f : Fault) : Outcome :=
  if f.showsText then { exitCode := f.exitCode, stdout := f.text ++ "\n" }
  else { exitCode := f.exitCode, stderr := "error: " ++ f.text ++ "\n" }

theorem exitCode_ofResponse (r : Response) : (ofResponse r).exitCode = 0 ↔ r.error = none := by
  cases h : r.error <;> simp [ofResponse, failure, h]

end Outcome

/-- Obeys a command line on a host, before so many clients. -/
def Invocation.obey (i : Invocation) (clients : List Output) (h : Host) : Outcome × Host :=
  match i.task with
  | .serve socket =>
    let (r, h) := h.serve i.config socket clients
    (.ofServing r, h)
  | .perform j =>
    let (r, h) := h.handle i.config j.request
    (.ofResponse r, h)

/-- Reads a command line and obeys it. -/
def run (e : Environment) (words : List String) (clients : List Output) (h : Host) :
    Outcome × Host :=
  match Invocation.parse e words with
  | .error f => (.ofFault f, h)
  | .ok i => i.obey clients h

end VolumeNode.CommandLine
