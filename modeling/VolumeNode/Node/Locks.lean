import VolumeNode.Node.Action

/-!
# The lock table

Each volume in use has a mutex. The table keeps one handle on it, and so does every call that waits
for it or holds it; a call that ends gives its handle up, and then, in a step of its own, removes the
entry of its volume if the table has the only handle left. Main statement:
`find?_enter`: after its first step a call finds the mutex it was given under its volume.
-/

namespace VolumeNode.Node

/-- A mutex: whether a call holds it, and how many handles there are on it. -/
structure Mutex where
  held : Bool
  handles : Nat
  deriving DecidableEq, Repr

/-- The mutexes of the volumes in use. A mutex keeps its identity when its entry is removed. -/
structure LockTable where
  entries : List (String × Ticket)
  mutexes : Ticket → Mutex
  fresh : Ticket

namespace LockTable

/-- The table without entries. -/
def empty : LockTable :=
  ⟨[], fun _ => ⟨false, 0⟩, 0⟩

instance : Inhabited LockTable :=
  ⟨empty⟩

/-- The mutex of a volume. -/
def find? (t : LockTable) (volume : String) : Option Ticket :=
  t.entries.lookup volume

/-- The table with another state of one mutex. -/
def update (t : LockTable) (m : Ticket) (f : Mutex → Mutex) : LockTable :=
  { t with mutexes := fun n => if n = m then f (t.mutexes n) else t.mutexes n }

/-- A call takes a handle on the mutex of a volume; a new mutex has one more in the table. -/
def enter (t : LockTable) (volume : String) : Ticket × LockTable :=
  match t.find? volume with
  | some m => (m, t.update m fun x => { x with handles := x.handles + 1 })
  | none =>
    (t.fresh,
      { t.update t.fresh fun _ => ⟨false, 2⟩ with
        entries := (volume, t.fresh) :: t.entries
        fresh := t.fresh + 1 })

/-- Whether a mutex can be taken. -/
def isFree (t : LockTable) (m : Ticket) : Bool :=
  !(t.mutexes m).held

/-- A call takes a mutex. -/
def acquire (t : LockTable) (m : Ticket) : LockTable :=
  t.update m fun x => { x with held := true }

/-- A call frees its mutex and gives its handle up. -/
def release (t : LockTable) (m : Ticket) : LockTable :=
  t.update m fun x => ⟨false, x.handles - 1⟩

/-- A call that waits gives its handle up. -/
def abandon (t : LockTable) (m : Ticket) : LockTable :=
  t.update m fun x => { x with handles := x.handles - 1 }

/-- The entry of a volume goes when the table has the only handle left. -/
def discard (t : LockTable) (volume : String) : LockTable :=
  match t.find? volume with
  | some m =>
    if (t.mutexes m).handles = 1 then
      { t.update m fun x => { x with handles := 0 } with
        entries := t.entries.filter (·.1 != volume) }
    else t
  | none => t

/-- After its first step a call finds the mutex it was given under its volume. -/
theorem find?_enter (t : LockTable) (volume : String) :
    (t.enter volume).2.find? volume = some (t.enter volume).1 := by
  unfold enter
  split
  · rename_i m h
    exact h
  · simp [find?]

end LockTable

end VolumeNode.Node
