/-!
# Lines of octets

A stream of octets is cut at the line feeds. A return in front of a line feed belongs to it, and what
stands behind the last line feed is a line unless it is empty. Main statement: `lines_append`: a line
feed cuts, whatever stands behind it.
-/

namespace VolumeNode.Connection

/-- The octet that ends a line. -/
def lineFeed : UInt8 :=
  10

/-- The octet that may stand in front of the end of a line. -/
def carriageReturn : UInt8 :=
  13

/-- A line that a line feed has ended, from its octets, the last one first. -/
def ended : List UInt8 → List UInt8
  | [] => []
  | b :: rest => if b = carriageReturn then rest.reverse else (b :: rest).reverse

/-- The lines of a stream in which a line has begun, given by its octets, the last one first. -/
def linesAfter (begun : List UInt8) : List UInt8 → List (List UInt8)
  | [] => if begun.isEmpty then [] else [begun.reverse]
  | b :: rest =>
    if b = lineFeed then ended begun :: linesAfter [] rest else linesAfter (b :: begun) rest

/-- The lines of a stream. -/
def lines (stream : List UInt8) : List (List UInt8) :=
  linesAfter [] stream

theorem linesAfter_append {line : List UInt8} (h : lineFeed ∉ line) (begun rest : List UInt8) :
    linesAfter begun (line ++ lineFeed :: rest) = ended (line.reverse ++ begun) :: lines rest := by
  induction line generalizing begun with
  | nil => simp [linesAfter, lines]
  | cons b line ih =>
    rw [List.mem_cons, not_or] at h
    rw [List.cons_append, linesAfter, if_neg (Ne.symm h.1), ih h.2]
    simp

/-- A line feed cuts, whatever stands behind it. -/
theorem lines_append {line : List UInt8} (h : lineFeed ∉ line) (rest : List UInt8) :
    lines (line ++ lineFeed :: rest) = ended line.reverse :: lines rest := by
  simpa [lines] using linesAfter_append h [] rest

end VolumeNode.Connection
