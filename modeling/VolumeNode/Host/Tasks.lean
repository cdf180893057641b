import VolumeNode.Host.Basic

/-!
# Calls that go on at the same time

Calls on one host take turns in the order in which they came. A turn goes on until the call has ended
or has to wait: for the mutex of its volume, or for a run of the tool that it has begun. A mutex that
is freed is handed to the call that has waited for it longest, which goes on after those that can go
on already. The runs of the tool end when no call can go on any more, the one begun last first.
-/

namespace VolumeNode.Host

variable {n : Nat} {α : Type}

/-- Whether a call has to wait before it takes a step. -/
def pauses (h : Host) : Step → Bool
  | .acquire m => !h.locks.isFree m
  | .runTool _ => true
  | _ => false

/-- A call goes on until it has ended or has to wait. -/
def proceed : Program Step.interface α → Host → Program Step.interface α × Host
  | .done a, h => (.done a, h)
  | .ask q next, h =>
    if h.pauses q then (.ask q next, h) else proceed (next (answer q h).1) (answer q h).2

/-- A turn of a call. One that has begun a run of the tool goes on from the end of it. -/
def turn : Program Step.interface α → Host → Program Step.interface α × Host
  | .ask (.runTool c) next, h => proceed (next (h.runTool c).1) (h.runTool c).2
  | p, h => proceed p h

/-- Calls that go on at the same time on a host. -/
structure Tasks (n : Nat) (α : Type) where
  host : Host
  calls : Fin n → Program Step.interface α
  /-- The calls that can go on, in the order of their turns. -/
  ready : List (Fin n)
  /-- The calls that have begun a run of the tool, the last first. -/
  running : List (Fin n)
  /-- The calls that wait for a mutex, in the order in which they came. -/
  blocked : List (Fin n)

namespace Tasks

/-- No call has had a turn. -/
def start (h : Host) (calls : Fin n → Program Step.interface α) : Tasks n α :=
  ⟨h, calls, List.finRange n, [], []⟩

/-- A call and its host have come to something else. -/
def put (s : Tasks n α) (i : Fin n) (x : Program Step.interface α × Host) : Tasks n α :=
  { s with host := x.2, calls := fun j => if j = i then x.1 else s.calls j }

/-- A call that has had its turn waits, unless it has ended. -/
def park (s : Tasks n α) (i : Fin n) : Tasks n α :=
  match s.calls i with
  | .done _ => s
  | .ask (.acquire _) _ => { s with blocked := s.blocked ++ [i] }
  | .ask _ _ => { s with running := i :: s.running }

/-- A call that waits takes its mutex if it is free, and can then go on. -/
def grant (s : Tasks n α) (i : Fin n) : Tasks n α :=
  match s.calls i with
  | .ask (.acquire m) next =>
    if s.host.locks.isFree m then
      { s.put i (next (), { s.host with locks := s.host.locks.acquire m }) with
        ready := s.ready ++ [i] }
    else { s with blocked := s.blocked ++ [i] }
  | _ => s

/-- Each mutex that is free goes to the call that has waited for it longest. -/
def grantAll (s : Tasks n α) : Tasks n α :=
  s.blocked.foldl grant { s with blocked := [] }

/-- The next turn, or, when no call can go on, the end of the runs of the tool. -/
def advance (s : Tasks n α) : Tasks n α :=
  match s.ready with
  | [] => { s with ready := s.running, running := [] }
  | i :: rest => (({ s with ready := rest }.put i (turn (s.calls i) s.host)).park i).grantAll

/-- So many turns. -/
def run : Nat → Tasks n α → Tasks n α
  | 0, s => s
  | k + 1, s => run k s.advance

/-- The result of a call that has ended. -/
def result? (s : Tasks n α) (i : Fin n) : Option α :=
  match s.calls i with
  | .done a => some a
  | .ask _ _ => none

end Tasks

/-- The responses to requests that are handled at the same time, in the order of the requests. A call
takes at most 30 steps on a host, so that all of them end within the turns given. -/
def handleAll (h : Host) (c : Config) (rs : List Request) : List Response × Host :=
  let calls : Fin rs.length → Program Step.interface (Except VolumeError Unit) := fun i =>
    onHost (Node.call c (rs.get i))
  let s := (Tasks.start h calls).run (91 * rs.length)
  ((List.finRange rs.length).filterMap fun i => (s.result? i).map Response.ofResult, s.host)

end VolumeNode.Host
