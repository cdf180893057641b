/-!
# Mount flags

The flag word of mount(2) as a set of bits. Main statements: `testBit_union`, `testBit_inter` and
`testBit_diff` say which bits the set operations leave.
-/

namespace VolumeNode

/-- A set of mount flags. -/
structure MountFlags where
  bits : Nat
  deriving DecidableEq, Repr, Inhabited

namespace MountFlags

/-- No flag. -/
def empty : MountFlags := ⟨0⟩

def readOnly : MountFlags := ⟨1 <<< 0⟩
def noSuid : MountFlags := ⟨1 <<< 1⟩
def noDev : MountFlags := ⟨1 <<< 2⟩
def noExec : MountFlags := ⟨1 <<< 3⟩
def remount : MountFlags := ⟨1 <<< 5⟩
def noAtime : MountFlags := ⟨1 <<< 10⟩
def noDirAtime : MountFlags := ⟨1 <<< 11⟩
def bind : MountFlags := ⟨1 <<< 12⟩
def recursive : MountFlags := ⟨1 <<< 14⟩
def relAtime : MountFlags := ⟨1 <<< 21⟩

/-- The flags of either set. -/
def union (f g : MountFlags) : MountFlags := ⟨f.bits ||| g.bits⟩

/-- The flags of both sets. -/
def inter (f g : MountFlags) : MountFlags := ⟨f.bits &&& g.bits⟩

/-- The flags of the first set that are not in the second. -/
def diff (f g : MountFlags) : MountFlags := ⟨f.bits ^^^ (f.bits &&& g.bits)⟩

instance : Union MountFlags := ⟨union⟩
instance : Inter MountFlags := ⟨inter⟩
instance : SDiff MountFlags := ⟨diff⟩

/-- Whether the first set holds every flag of the second. -/
def holds (f g : MountFlags) : Bool := f.bits &&& g.bits == g.bits

/-- Whether there is no flag. -/
def isEmpty (f : MountFlags) : Bool := f.bits == 0

theorem testBit_union (f g : MountFlags) (i : Nat) :
    (f ∪ g).bits.testBit i = (f.bits.testBit i || g.bits.testBit i) :=
  Nat.testBit_or ..

theorem testBit_inter (f g : MountFlags) (i : Nat) :
    (f ∩ g).bits.testBit i = (f.bits.testBit i && g.bits.testBit i) :=
  Nat.testBit_and ..

theorem testBit_diff (f g : MountFlags) (i : Nat) :
    (f \ g).bits.testBit i = (f.bits.testBit i && !g.bits.testBit i) := by
  show (f.bits ^^^ (f.bits &&& g.bits)).testBit i = _
  rw [Nat.testBit_xor, Nat.testBit_and]
  cases f.bits.testBit i <;> cases g.bits.testBit i <;> rfl

end MountFlags

end VolumeNode
