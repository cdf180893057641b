import VolumeNode.Text.Utf8

/-!
# Octets as characters

A string of octets can be handled as characters below 256, one for each octet. Main statement:
`toOctets_ofOctets`: nothing is lost on the way.
-/

namespace VolumeNode.Text

/-- One character for each octet. -/
def ofOctets (octets : List UInt8) : List Char :=
  octets.map fun b => Char.ofNat b.toNat

/-- The octets that characters stand for. -/
def toOctets (cs : List Char) : List UInt8 :=
  cs.map fun c => UInt8.ofNat c.toNat

/-- The octets of a text, as characters. -/
def octetsOf (s : String) : List Char :=
  ofOctets (Utf8.encode s)

/-- The text that octets encode. -/
def textOf (cs : List Char) : String :=
  Utf8.decodeLossy (toOctets cs)

theorem toNat_ofNat_octet (b : UInt8) : (Char.ofNat b.toNat).toNat = b.toNat := by
  have h : b.toNat < 256 := b.toNat_lt
  have hv : b.toNat.isValidChar := Or.inl (by omega)
  rw [Char.ofNat, dif_pos hv]
  rfl

/-- Nothing is lost on the way. -/
theorem toOctets_ofOctets (octets : List UInt8) : toOctets (ofOctets octets) = octets := by
  rw [toOctets, ofOctets, List.map_map]
  conv => rhs; rw [← List.map_id octets]
  exact List.map_congr_left fun b _ => by simp [Function.comp, toNat_ofNat_octet]

end VolumeNode.Text
