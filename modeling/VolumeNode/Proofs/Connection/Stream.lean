import VolumeNode.Connection.Exchange
import VolumeNode.Proofs.Json.Responses

/-!
# Streams and their lines

The octets that come and go on a connection are cut at every line feed.

* `lines_eq_cut`: what is read from the stream of a client is cut so.
* `splitOn_written`: what is sent back is cut into the responses.
* `received_written_map`: a client that reads what is sent back line by line gets the responses.
* `received_written`: so it gets the response to a call, whatever its result.
-/

namespace VolumeNode.Connection

variable {piece rest stream : List UInt8}

/-- A piece in front of a line feed, without the return that may stand at its end. -/
def withoutReturn (piece : List UInt8) : List UInt8 :=
  if piece.getLast? = some carriageReturn then piece.dropLast else piece

/-- **The lines of a stream, cut at the line feeds.** What stands behind the last line feed is a line
unless it is empty. -/
def cut (stream : List UInt8) : List (List UInt8) :=
  let pieces := stream.splitOn lineFeed
  pieces.dropLast.map withoutReturn ++ pieces.getLast?.toList.filter (· ≠ [])

theorem ended_reverse (piece : List UInt8) : ended piece.reverse = withoutReturn piece := by
  obtain rfl | ⟨front, b, rfl⟩ := List.eq_nil_or_concat piece
  · rfl
  · simp [ended, withoutReturn]

/-- Octets without a line feed are one line, or none. -/
theorem linesAfter_of_not_mem (h : lineFeed ∉ piece) (begun : List UInt8) :
    linesAfter begun piece = [begun.reverse ++ piece].filter (· ≠ []) := by
  induction piece generalizing begun with
  | nil => cases begun <;> simp [linesAfter]
  | cons b piece ih =>
    rw [List.mem_cons, not_or] at h
    rw [linesAfter, if_neg (Ne.symm h.1), ih h.2, List.reverse_cons, List.append_assoc]
    rfl

theorem cut_of_not_mem (h : lineFeed ∉ piece) : cut piece = [piece].filter (· ≠ []) := by
  unfold cut
  rw [List.splitOn_eq_singleton h]
  rfl

theorem cut_append (h : lineFeed ∉ piece) (rest : List UInt8) :
    cut (piece ++ lineFeed :: rest) = withoutReturn piece :: cut rest := by
  obtain ⟨first, others, hpieces⟩ := List.exists_cons_of_ne_nil (List.splitOn_ne_nil lineFeed rest)
  unfold cut
  rw [List.splitOn_append_cons_self_of_not_mem h, hpieces]
  dsimp only
  rw [List.dropLast_cons_of_ne_nil (List.cons_ne_nil first others), List.getLast?_cons_cons]
  rfl

/-- **What is read from a stream are the pieces between its line feeds.** -/
theorem lines_eq_cut (stream : List UInt8) : lines stream = cut stream := by
  by_cases h : lineFeed ∈ stream
  · obtain ⟨piece, rest, rfl, hpiece⟩ := List.eq_append_cons_of_mem h
    have hshorter : rest.length < (piece ++ lineFeed :: rest).length := by
      rw [List.length_append, List.length_cons]
      omega
    rw [lines_append hpiece, cut_append hpiece, ended_reverse, lines_eq_cut rest]
  · exact (linesAfter_of_not_mem h []).trans (cut_of_not_mem h).symm
termination_by stream.length

theorem written_cons (r : Response) (rs : List Response) :
    written (r :: rs) = Text.Utf8.encode r.encode ++ lineFeed :: written rs := by
  have hfeed : Text.Utf8.encode "\n" = [lineFeed] := by
    rw [Text.Utf8.encode_eq_flatMap]
    decide
  unfold written
  rw [List.flatMap_cons, Text.Utf8.encode_append, List.append_assoc, hfeed]
  rfl

/-- **Each response is sent on a line of its own**, in their order. -/
theorem splitOn_written (rs : List Response) :
    (written rs).splitOn lineFeed = rs.map (fun r => Text.Utf8.encode r.encode) ++ [[]] := by
  induction rs with
  | nil => rfl
  | cons r rs ih =>
    rw [written_cons, List.splitOn_append_cons_self_of_not_mem r.lineFeed_not_mem_encode, ih]
    rfl

/-- The octets of a response have no return at their end. -/
theorem withoutReturn_encode (r : Response) :
    withoutReturn (Text.Utf8.encode r.encode) = Text.Utf8.encode r.encode := by
  refine if_neg fun h => ?_
  exact absurd (r.le_toNat_of_mem_encode (List.mem_of_getLast? h)) (by decide)

/-- A response is read as one line, whatever is sent behind it. -/
theorem lines_written_append (r : Response) (rest : List UInt8) :
    lines (written [r] ++ rest) = Text.Utf8.encode r.encode :: lines rest := by
  rw [written_cons, List.append_assoc, List.cons_append, lines_append r.lineFeed_not_mem_encode,
    ended_reverse, withoutReturn_encode]
  rfl

/-- The responses that a client reads from a stream, one from each line; `none` for a line that is no
text. -/
def received (stream : List UInt8) : List (Option (Except Json.Fault Response)) :=
  (lines stream).map fun line =>
    (Text.Utf8.decode? line).map fun text => Response.decode text.toList

/-- **A response is read as it was sent**, whatever is sent behind it. -/
theorem received_written_append (r : Response) (rest : List UInt8) :
    received (written [r] ++ rest) = some (.ok r) :: received rest := by
  have htext : Text.Utf8.decode? (Text.Utf8.encode r.encode) = some r.encode :=
    Text.Utf8.decode?_eq_some_iff_encode_eq.2 rfl
  unfold received
  rw [lines_written_append, List.map_cons, htext, Option.map_some, Response.decode_toList_encode]

/-- **Responses are read as they were sent**, in their order. -/
theorem received_written_map (rs : List Response) :
    received (written rs) = rs.map fun r => some (.ok r) := by
  induction rs with
  | nil => rfl
  | cons r rs ih =>
    have hsplit : written (r :: rs) = written [r] ++ written rs := by
      unfold written
      rw [List.flatMap_cons, List.flatMap_singleton]
    rw [hsplit, received_written_append, ih, List.map_cons]

/-- **The response to a call arrives as it was**, whatever the command, its status and output or the
message of a failure hold. No octet of it is a control character, it is one line of the stream, and what
the client reads from that line is the response itself; its code blames the request exactly if its kind
does. -/
theorem received_written (x : Except VolumeError Unit) (rest : List UInt8) :
    (∀ b ∈ Text.Utf8.encode (Response.ofResult x).encode, 0x20 ≤ b.toNat) ∧
      lines (written [Response.ofResult x] ++ rest) =
        Text.Utf8.encode (Response.ofResult x).encode :: lines rest ∧
      received (written [Response.ofResult x] ++ rest) =
        some (.ok (Response.ofResult x)) :: received rest ∧
      ∀ s, (Response.ofResult x).error = some s →
        (s.code = .invalidArgument ↔ s.kind = .invalidArgument) := by
  refine ⟨fun b => (Response.ofResult x).le_toNat_of_mem_encode, lines_written_append _ rest,
    received_written_append _ rest, fun s hs => ?_⟩
  cases x with
  | ok => cases hs
  | error e =>
    cases hs
    exact Status.code_ofError e

end VolumeNode.Connection
