import VolumeNode.Connection.Lines
import VolumeNode.Proofs.Json.RoundTrip
import VolumeNode.Proofs.Text.Encoding
import VolumeNode.Response.Wire
import VolumeNode.Text.Octets

/-!
# Responses as they are sent

Whatever a failure says, no octet of the response is a control character, so that it stands on one line,
and the response is got back from its text.

* `le_toNat_of_mem_write`: a value without numbers is written without control characters.
* `le_toNat_of_mem_encode`: so is a response.
* `decode_toList_encode`: a response is got back from its text.
-/

namespace VolumeNode

namespace Json

variable {d : ℕ} {v : Json} {c : Char}

theorem le_toNat_hexDigit : ∀ n < 16, 0x20 ≤ (hexDigit n).toNat := by
  decide

/-- No character is written with a control character, the control characters included. -/
theorem le_toNat_of_mem_escape {b : Char} (h : c ∈ escape b) : 0x20 ≤ c.toNat := by
  have hletter : ∀ l : List Char, l.all (0x20 ≤ ·.toNat) = true → c ∈ l → 0x20 ≤ c.toNat := by
    intro l hl hc
    simpa using List.all_eq_true.1 hl c hc
  unfold escape at h
  split at h
  · exact hletter _ rfl h
  split at h
  · exact hletter _ rfl h
  split at h
  · exact hletter _ rfl h
  split at h
  · exact hletter _ rfl h
  split at h
  · exact hletter _ rfl h
  split at h
  · exact hletter _ rfl h
  split at h
  · exact hletter _ rfl h
  split at h
  · -- a control character without a letter of its own
    have hhigh := le_toNat_hexDigit (b.toNat / 16) (by omega)
    have hlow := le_toNat_hexDigit (b.toNat % 16) (by omega)
    refine hletter _ ?_ h
    simp [hhigh, hlow]
  · rename_i hcontrol
    rw [List.mem_singleton.1 h]
    exact Nat.le_of_not_lt hcontrol

theorem le_toNat_of_mem_writeString {s : String} (h : c ∈ writeString s) : 0x20 ≤ c.toNat := by
  have hquote : c = '"' → 0x20 ≤ c.toNat := by
    rintro rfl
    decide
  simp only [writeString, List.cons_append, List.mem_cons, List.mem_append, List.mem_flatMap,
    List.not_mem_nil, or_false] at h
  rcases h with h | ⟨b, -, hb⟩ | h
  · exact hquote h
  · exact le_toNat_of_mem_escape hb
  · exact hquote h

theorem le_toNat_of_mem_writeItems {items : List Json}
    (hitems : ∀ v ∈ items, ∀ c ∈ write v, 0x20 ≤ c.toNat) (h : c ∈ writeItems items) :
    0x20 ≤ c.toNat := by
  induction items with
  | nil =>
    rw [writeItems, List.mem_singleton] at h
    rw [h]
    decide
  | cons v items ih =>
    rw [writeItems, List.cons_append, List.mem_cons, List.mem_append] at h
    rcases h with rfl | h | h
    · decide
    · exact hitems v List.mem_cons_self c h
    · exact ih (fun v hv => hitems v (List.mem_cons_of_mem _ hv)) h

theorem le_toNat_of_mem_writeMembers {members : List (String × Json)}
    (hmembers : ∀ m ∈ members, ∀ c ∈ write m.2, 0x20 ≤ c.toNat) (h : c ∈ writeMembers members) :
    0x20 ≤ c.toNat := by
  induction members with
  | nil =>
    rw [writeMembers, List.mem_singleton] at h
    rw [h]
    decide
  | cons m members ih =>
    simp only [writeMembers, List.cons_append, List.append_assoc, List.mem_cons,
      List.mem_append] at h
    rcases h with rfl | h | rfl | h | h
    · decide
    · exact le_toNat_of_mem_writeString h
    · decide
    · exact hmembers m List.mem_cons_self c h
    · exact ih (fun m hm => hmembers m (List.mem_cons_of_mem _ hm)) h

/-- **A value without numbers is written without control characters**, whatever its texts hold. -/
theorem le_toNat_of_mem_write (h : Plain d v) : ∀ c ∈ write v, 0x20 ≤ c.toNat := by
  induction h with
  | null => simp [write]
  | bool b => cases b <;> simp [write]
  | string s =>
    rw [write]
    exact fun c => le_toNat_of_mem_writeString
  | @array d items h ih =>
    -- the brackets are there in any case, and items are written as after another item
    have hwrite : ∀ c ∈ write (.array items), c = '[' ∨ c ∈ writeItems items := by
      cases items with
      | nil => simp [write, writeItems]
      | cons v items =>
        simp only [write, writeItems, List.cons_append, List.mem_cons]
        exact fun c hc => hc.imp_right Or.inr
    intro c hc
    rcases hwrite c hc with rfl | hc
    · decide
    · exact le_toNat_of_mem_writeItems ih hc
  | @object d members h ih =>
    have hwrite : ∀ c ∈ write (.object members), c = '\x7b' ∨ c ∈ writeMembers members := by
      cases members with
      | nil => simp [write, writeMembers]
      | cons m members =>
        simp only [write, writeMembers, List.cons_append, List.mem_cons]
        exact fun c hc => hc.imp_right Or.inr
    intro c hc
    rcases hwrite c hc with rfl | hc
    · decide
    · exact le_toNat_of_mem_writeMembers ih hc

end Json

open Json Connection

namespace Response

theorem plain_statusJson (s : Status) : Plain 1 (statusJson s) := by
  refine .object fun m hm => ?_
  simp only [List.mem_cons, List.not_mem_nil, or_false] at hm
  rcases hm with rfl | rfl | rfl <;> exact .string _

theorem plain_toJson (r : Response) : Plain 2 r.toJson := by
  have hok : ∀ d, Plain d (.bool r.ok) := fun d => .bool r.ok
  unfold toJson
  cases r.error with
  | none =>
    refine .object fun m hm => ?_
    obtain rfl := List.mem_singleton.1 hm
    exact hok _
  | some s =>
    refine .object fun m hm => ?_
    simp only [List.mem_cons, List.not_mem_nil, or_false] at hm
    rcases hm with rfl | rfl
    · exact hok _
    · exact plain_statusJson s

theorem toList_encode (r : Response) : r.encode.toList = write r.toJson := by
  unfold encode render
  rw [String.toList_ofList]

/-- **A response is sent without control characters**, whatever its message says. -/
theorem le_toNat_of_mem_encode (r : Response) {b : UInt8} (h : b ∈ Text.Utf8.encode r.encode) :
    0x20 ≤ b.toNat := by
  by_cases hb : b.toNat < 0x80
  · have hchar := Text.Utf8.ofNat_mem_of_mem_encode h hb
    rw [toList_encode] at hchar
    have hle := le_toNat_of_mem_write r.plain_toJson _ hchar
    rwa [Text.toNat_ofNat_octet] at hle
  · omega

/-- A response is sent on one line. -/
theorem lineFeed_not_mem_encode (r : Response) : lineFeed ∉ Text.Utf8.encode r.encode :=
  fun h => absurd (r.le_toNat_of_mem_encode h) (by decide)

section

variable {α : Type} {a : α} {name : String} {v : Json} {rest : List Char}

theorem lookup_codes (c : Code) : codes.lookup c.name = some c := by
  cases c <;> decide

theorem lookup_kinds (k : Kind) : kinds.lookup k.name = some k := by
  cases k <;> decide

/-- One of several names is read back. -/
theorem readVariant_write {known : List (String × α)} (h : known.lookup name = some a)
    (rest : List Char) : readVariant known (write (.string name) ++ rest) = .ok (a, rest) := by
  rw [write, writeString_append]
  unfold readVariant
  rw [skip_cons rfl]
  simp [readName, readString_write, h, bind, Except.bind]

theorem readText_write (s : String) (rest : List Char) :
    readText (write (.string s) ++ rest) = .ok (s, rest) := by
  rw [write, writeString_append]
  unfold readText
  rw [skip_cons rfl]
  exact readString_write true s rest

theorem readTruth_write (b : Bool) (rest : List Char) :
    readTruth (write (.bool b) ++ rest) = .ok (b, rest) := by
  cases b <;> rw [write] <;> rfl

/-- A field is read back if it has not been read before. -/
theorem readOnce_write (name : String) {value : Reader α} (h : value (write v ++ rest) = .ok (a, rest)) :
    readOnce name none value (':' :: (write v ++ rest)) = .ok (some a, rest) := by
  simp [readOnce, readColon_cons, h, bind, Except.bind]

/-- The fields of a status are read back one after another. -/
theorem takes_statusMember (s : Status) : Takes statusMember ⟨none, none, none⟩
    [("code", .string s.code.name), ("kind", .string s.kind.name), ("message", .string s.message)]
    ⟨some s.code, some s.kind, some s.message⟩ := by
  have hcode : ∀ rest, statusMember ⟨none, none, none⟩ "code"
      (':' :: (write (.string s.code.name) ++ rest)) = .ok (⟨some s.code, none, none⟩, rest) := by
    intro rest
    simp [statusMember, readOnce_write "code" (readVariant_write (lookup_codes s.code) rest), bind,
      Except.bind]
  have hkind : ∀ rest, statusMember ⟨some s.code, none, none⟩ "kind"
      (':' :: (write (.string s.kind.name) ++ rest)) =
        .ok (⟨some s.code, some s.kind, none⟩, rest) := by
    intro rest
    simp [statusMember, readOnce_write "kind" (readVariant_write (lookup_kinds s.kind) rest), bind,
      Except.bind]
  have hmessage : ∀ rest, statusMember ⟨some s.code, some s.kind, none⟩ "message"
      (':' :: (write (.string s.message) ++ rest)) =
        .ok (⟨some s.code, some s.kind, some s.message⟩, rest) := by
    intro rest
    simp [statusMember, readOnce_write "message" (readText_write s.message rest), bind, Except.bind]
  exact .cons hcode (.cons hkind (.cons hmessage .nil))

/-- A status is read back. -/
theorem readStatus_write (s : Status) (rest : List Char) :
    readStatus (write (statusJson s) ++ rest) = .ok (s, rest) := by
  obtain ⟨cs, hcs, hread⟩ := readMembers_write (takes_statusMember s) rest
  unfold statusJson
  rw [hcs]
  unfold readStatus
  rw [skip_cons rfl]
  simp [hread, need, bind, Except.bind]

theorem readError_write (s : Status) (rest : List Char) :
    readError (write (statusJson s) ++ rest) = .ok (some s, rest) := by
  have hstatus := readStatus_write s rest
  obtain ⟨cs, hcs, -⟩ := readMembers_write (takes_statusMember s) rest
  unfold statusJson at hstatus ⊢
  rw [hcs] at hstatus ⊢
  unfold readError
  rw [skip_cons rfl]
  simp [hstatus, bind, Except.bind]

/-- The truth value of a response is read back. -/
theorem responseMember_ok (b : Bool) (rest : List Char) :
    responseMember ⟨none, none⟩ "ok" (':' :: (write (.bool b) ++ rest)) =
      .ok (⟨some b, none⟩, rest) := by
  have hok := readOnce_write "ok" (readTruth_write b rest)
  simp [responseMember, hok, bind, Except.bind]

/-- The failure of a response is read back. -/
theorem responseMember_error (b : Bool) (s : Status) (rest : List Char) :
    responseMember ⟨some b, none⟩ "error" (':' :: (write (statusJson s) ++ rest)) =
      .ok (⟨some b, some (some s)⟩, rest) := by
  have herror := readOnce_write "error" (readError_write s rest)
  simp [responseMember, herror, bind, Except.bind]

/-- An object is a response if its members are. -/
theorem decode_write {first : String × Json} {members : List (String × Json)} {b : Bool}
    {error : Option (Option Status)}
    (h : Takes responseMember ⟨none, none⟩ (first :: members) ⟨some b, error⟩) :
    decode (write (.object (first :: members))) = .ok ⟨b, error.getD none⟩ := by
  obtain ⟨cs, hcs, hread⟩ := readMembers_write h []
  rw [List.append_nil] at hcs
  rw [hcs]
  unfold decode readResponse
  rw [skip_cons rfl]
  simp [hread, need, readEnd, skip, bind, Except.bind]

/-- **A response is got back from its text**; a failure that has been left out is none. -/
theorem decode_toList_encode (r : Response) : decode r.encode.toList = .ok r := by
  rw [toList_encode]
  obtain ⟨b, error⟩ := r
  cases error with
  | none =>
    have htakes : Takes responseMember ⟨none, none⟩ [("ok", .bool b)] ⟨some b, none⟩ :=
      .cons (responseMember_ok b) .nil
    exact decode_write htakes
  | some s =>
    have htakes : Takes responseMember ⟨none, none⟩ [("ok", .bool b), ("error", statusJson s)]
        ⟨some b, some (some s)⟩ :=
      .cons (responseMember_ok b) (.cons (responseMember_error b s) .nil)
    exact decode_write htakes

end

end Response

end VolumeNode
