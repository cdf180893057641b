import Mathlib.Data.Nat.Notation
import VolumeNode.Json.Printer
import VolumeNode.Json.Reader

/-!
# Reading back what is written

A value without numbers is read back from its text, whatever follows the text, if it is nested no deeper
than is allowed.

* `readString_write`: a string is read back, whatever characters it holds.
* `readMembers_write`: the members of an object are handed to a reader one after another.
* `readValue_write`: a value is read back.
-/

namespace VolumeNode.Json

variable {σ : Type} {d n : ℕ} {v : Json} {rest : List Char} {s : σ}

/-- The characters of a string are read back up to the quote that ends it. -/
theorem readPieces_escape {checked : Bool} {seen cs : List Char} (hn : cs.length < n) :
    readPieces checked n seen (cs.flatMap escape ++ '"' :: rest) =
      .ok (String.ofList (seen.reverse ++ cs), rest) := by
  induction cs generalizing n seen with
  | nil =>
    obtain ⟨n, rfl⟩ : ∃ k, n = k + 1 := ⟨n - 1, by simp at hn; omega⟩
    simp [readPieces, readPiece, bind, Except.bind]
  | cons c cs ih =>
    obtain ⟨n, rfl⟩ : ∃ k, n = k + 1 := ⟨n - 1, by simp at hn; omega⟩
    rw [List.flatMap_cons, List.append_assoc, readPieces, readPiece_escape]
    refine (ih (by simpa using hn)).trans ?_
    rw [List.reverse_cons, List.append_assoc]
    rfl

theorem escape_ne_nil (c : Char) : escape c ≠ [] := by
  intro h
  have hpiece := readPiece_escape true c []
  rw [h] at hpiece
  cases hpiece

theorem length_le_flatMap_escape (cs : List Char) : cs.length ≤ (cs.flatMap escape).length := by
  induction cs with
  | nil => exact Nat.zero_le _
  | cons c cs ih =>
    have hpos := List.length_pos_iff.2 (escape_ne_nil c)
    rw [List.flatMap_cons, List.length_append, List.length_cons]
    omega

/-- **A string is read back**, whatever characters it holds. -/
theorem readString_write (checked : Bool) (name : String) (rest : List Char) :
    readString checked (name.toList.flatMap escape ++ '"' :: rest) = .ok (name, rest) := by
  have hlength := length_le_flatMap_escape name.toList
  have hn : name.toList.length < (name.toList.flatMap escape ++ '"' :: rest).length + 1 := by
    rw [List.length_append]
    omega
  refine (readPieces_escape hn).trans ?_
  rw [List.reverse_nil, List.nil_append, String.ofList_toList]

theorem writeString_append (name : String) (rest : List Char) :
    writeString name ++ rest = '"' :: (name.toList.flatMap escape ++ '"' :: rest) := by
  simp [writeString]

/-- Nothing is skipped in front of a token. -/
theorem skip_cons {c : Char} (h : isSpace c = false) (rest : List Char) :
    skip (c :: rest) = c :: rest :=
  List.dropWhile_cons_of_neg (by simp [h])

/-- Whether a value has no numbers in it and is nested at most so deep. -/
inductive Plain : ℕ → Json → Prop where
  | null {d : ℕ} : Plain d .null
  | bool {d : ℕ} (b : Bool) : Plain d (.bool b)
  | string {d : ℕ} (s : String) : Plain d (.string s)
  | array {d : ℕ} {items : List Json} (h : ∀ v ∈ items, Plain d v) : Plain (d + 1) (.array items)
  | object {d : ℕ} {members : List (String × Json)} (h : ∀ m ∈ members, Plain d m.2) :
    Plain (d + 1) (.object members)

/-- The text of a value begins with a token that opens a value. -/
theorem Plain.write_cons (h : Plain d v) :
    ∃ c cs, write v = c :: cs ∧ isSpace c = false ∧ c ≠ ']' := by
  cases h with
  | null => exact ⟨'n', _, by rw [write], rfl, by decide⟩
  | bool b =>
    cases b with
    | true => exact ⟨'t', _, by rw [write], rfl, by decide⟩
    | false => exact ⟨'f', _, by rw [write], rfl, by decide⟩
  | string s => exact ⟨'"', _, by rw [write, writeString]; rfl, rfl, by decide⟩
  | @array _ items h =>
    cases items with
    | nil => exact ⟨'[', _, by rw [write], rfl, by decide⟩
    | cons v items => exact ⟨'[', _, by rw [write]; rfl, rfl, by decide⟩
  | @object _ members h =>
    cases members with
    | nil => exact ⟨'\x7b', _, by rw [write], rfl, by decide⟩
    | cons m members => exact ⟨'\x7b', _, by rw [write]; rfl, rfl, by decide⟩

/-- The front of an item behind its comma, and of the first item. -/
theorem nextItem_write (h : Plain d v) (rest : List Char) :
    nextItem false (',' :: (write v ++ rest)) = .ok (some (write v ++ rest), write v ++ rest) ∧
      nextItem true (write v ++ rest) = .ok (some (write v ++ rest), write v ++ rest) := by
  obtain ⟨c, cs, hv, hspace, hclose⟩ := h.write_cons
  rw [hv, List.cons_append]
  have hcomma : isSpace ',' = false := rfl
  constructor <;> simp [nextItem, skip_cons, hcomma, hspace, hclose]

/-- The name of a member behind its comma, and of the first member. -/
theorem nextMember_write (name : String) (rest : List Char) :
    nextMember false (',' :: (writeString name ++ rest)) = .ok (some name, rest) ∧
      nextMember true (writeString name ++ rest) = .ok (some name, rest) := by
  rw [writeString_append]
  have hcomma : isSpace ',' = false := rfl
  have hquote : isSpace '"' = false := rfl
  constructor <;> simp [nextMember, skip_cons, hcomma, hquote, readString_write, bind, Except.bind]

/-- The items behind the first one are handed to a reader one after another. -/
theorem foldItems_write {item : σ → Reader σ} {advance : σ → Json → σ} {items : List Json}
    (hplain : ∀ v ∈ items, Plain d v)
    (h : ∀ s, ∀ v ∈ items, ∀ rest, item s (write v ++ rest) = .ok (advance s v, rest))
    (hn : items.length < n) :
    foldItems item n false s (writeItems items ++ rest) = .ok (items.foldl advance s, rest) := by
  obtain ⟨n, rfl⟩ : ∃ k, n = k + 1 := ⟨n - 1, by omega⟩
  induction items generalizing n s with
  | nil =>
    rw [writeItems, foldItems, List.singleton_append, nextItem_close]
    rfl
  | cons v items ih =>
    obtain ⟨n, rfl⟩ : ∃ k, n = k + 1 := ⟨n - 1, by simp at hn; omega⟩
    have hv := hplain v List.mem_cons_self
    rw [writeItems, List.cons_append, List.cons_append, List.append_assoc, foldItems,
      (nextItem_write hv _).1]
    change (item s (write v ++ _) >>= fun x => foldItems item (n + 1) false x.1 x.2) = _
    rw [h s v List.mem_cons_self]
    exact ih (fun v hv => hplain v (List.mem_cons_of_mem _ hv))
      (fun s v hv => h s v (List.mem_cons_of_mem _ hv)) n (by simpa using hn)

theorem length_le_writeItems (items : List Json) : items.length ≤ (writeItems items).length := by
  induction items with
  | nil => exact Nat.zero_le _
  | cons v items ih =>
    rw [writeItems, List.length_append, List.length_cons, List.length_cons]
    omega

/-- **The items of a list are handed to a reader one after another.** -/
theorem readItems_write {item : σ → Reader σ} {advance : σ → Json → σ} {items : List Json}
    (hplain : ∀ v ∈ items, Plain d v)
    (h : ∀ s, ∀ v ∈ items, ∀ rest, item s (write v ++ rest) = .ok (advance s v, rest)) :
    ∃ cs, write (.array items) ++ rest = '[' :: cs ∧
      readItems item s cs = .ok (items.foldl advance s, rest) := by
  cases items with
  | nil =>
    refine ⟨']' :: rest, by rw [write]; rfl, ?_⟩
    unfold readItems
    rw [foldItems, nextItem_close]
    rfl
  | cons v items =>
    refine ⟨write v ++ (writeItems items ++ rest), by simp [write], ?_⟩
    have hlength := length_le_writeItems items
    have hn : items.length < (write v ++ (writeItems items ++ rest)).length := by
      have hfirst : 0 < (write v).length := by
        obtain ⟨c, cs, hv, -⟩ := (hplain v List.mem_cons_self).write_cons
        rw [hv]
        exact Nat.succ_pos _
      rw [List.length_append, List.length_append]
      omega
    unfold readItems
    rw [foldItems, (nextItem_write (hplain v List.mem_cons_self) _).2]
    change (item s (write v ++ _) >>= fun x => foldItems item _ false x.1 x.2) = _
    rw [h s v List.mem_cons_self]
    exact foldItems_write (fun v hv => hplain v (List.mem_cons_of_mem _ hv))
      (fun s v hv => h s v (List.mem_cons_of_mem _ hv)) hn

/-- Whether a reader of members takes the written members of a list, and to which state it comes. -/
inductive Takes (member : σ → String → Reader σ) : σ → List (String × Json) → σ → Prop where
  | nil {s : σ} : Takes member s [] s
  | cons {s s' s'' : σ} {m : String × Json} {members : List (String × Json)}
      (h : ∀ rest, member s m.1 (':' :: (write m.2 ++ rest)) = .ok (s', rest))
      (hs : Takes member s' members s'') : Takes member s (m :: members) s''

/-- A reader that takes each member in every state takes them all. -/
theorem Takes.of_forall {member : σ → String → Reader σ} {advance : σ → String × Json → σ}
    {members : List (String × Json)} (h : ∀ s, ∀ m ∈ members, ∀ rest,
      member s m.1 (':' :: (write m.2 ++ rest)) = .ok (advance s m, rest)) :
    Takes member s members (members.foldl advance s) := by
  induction members generalizing s with
  | nil => exact .nil
  | cons m members ih =>
    exact .cons (h s m List.mem_cons_self) (ih fun s m hm => h s m (List.mem_cons_of_mem _ hm))

/-- The members behind the first one are handed to a reader one after another. -/
theorem foldMembers_write {member : σ → String → Reader σ} {members : List (String × Json)} {s' : σ}
    (h : Takes member s members s') (hn : members.length < n) :
    foldMembers member n false s (writeMembers members ++ rest) = .ok (s', rest) := by
  obtain ⟨n, rfl⟩ : ∃ k, n = k + 1 := ⟨n - 1, by omega⟩
  induction h generalizing n with
  | nil =>
    rw [writeMembers, foldMembers, List.singleton_append, nextMember_close]
    rfl
  | @cons s s' _ m members h _ ih =>
    obtain ⟨n, rfl⟩ : ∃ k, n = k + 1 := ⟨n - 1, by simp at hn; omega⟩
    rw [writeMembers, List.append_assoc, List.cons_append, List.cons_append, List.append_assoc,
      List.cons_append, foldMembers, (nextMember_write m.1 _).1]
    change (member s m.1 (':' :: (write m.2 ++ _)) >>= fun x =>
      foldMembers member (n + 1) false x.1 x.2) = _
    rw [h]
    exact ih n (by simpa using hn)

theorem length_le_writeMembers (members : List (String × Json)) :
    members.length ≤ (writeMembers members).length := by
  induction members with
  | nil => exact Nat.zero_le _
  | cons m members ih =>
    rw [writeMembers, List.length_append, List.length_append, List.length_cons, List.length_cons]
    omega

/-- **The members of an object are handed to a reader one after another.** -/
theorem readMembers_write {member : σ → String → Reader σ} {first : String × Json}
    {members : List (String × Json)} {s' : σ} (h : Takes member s (first :: members) s')
    (rest : List Char) : ∃ cs, write (.object (first :: members)) ++ rest = '\x7b' :: cs ∧
      readMembers member s cs = .ok (s', rest) := by
  refine ⟨writeString first.1 ++ ':' :: (write first.2 ++ (writeMembers members ++ rest)),
    by simp [write], ?_⟩
  have hlength := length_le_writeMembers members
  have hn : members.length < (writeString first.1 ++
      ':' :: (write first.2 ++ (writeMembers members ++ rest))).length := by
    rw [List.length_append, List.length_cons, List.length_append, List.length_append]
    omega
  unfold readMembers
  rw [foldMembers, (nextMember_write first.1 _).2]
  cases h with
  | cons hfirst h =>
    change (member s first.1 (':' :: (write first.2 ++ _)) >>= fun x =>
      foldMembers member _ false x.1 x.2) = _
    rw [hfirst]
    exact foldMembers_write h hn

/-- The value of a member is read behind its colon. -/
theorem readColon_cons (rest : List Char) : readColon (':' :: rest) = .ok ((), rest) := by
  simp [readColon, skip_cons (show isSpace ':' = false from rfl)]

/-- The members that have been read are kept, the last first. -/
theorem readMember_write {value : Reader Json} {seen : List (String × Json)} {m : String × Json}
    (h : ∀ rest, value (write m.2 ++ rest) = .ok (m.2, rest)) (rest : List Char) :
    readMember value seen m.1 (':' :: (write m.2 ++ rest)) = .ok (m :: seen, rest) := by
  unfold readMember
  rw [readColon_cons]
  change (value (write m.2 ++ rest) >>= fun x => .ok ((m.1, x.1) :: seen, x.2)) = _
  rw [h]
  rfl

/-- An item that has been read is kept, the last first. -/
def readItem (value : Reader Json) (seen : List Json) : Reader (List Json) :=
  fun cs => (value cs).bind fun x => .ok (x.1 :: seen, x.2)

theorem readArray_eq (value : Reader Json) (cs : List Char) :
    readArray value cs =
      (readItems (readItem value) [] cs).bind fun x => .ok (.array x.1.reverse, x.2) :=
  rfl

/-- A value that begins as neither a list nor an object is read as a scalar. -/
theorem readValue_scalar {c : Char} {cs : List Char} (hspace : isSpace c = false) (hlist : c ≠ '[')
    (hobject : c ≠ '\x7b') : readValue d (c :: cs) = readScalar (c :: cs) := by
  cases d <;> unfold readValue <;> rw [skip_cons hspace] <;> split <;> simp_all

theorem readValue_array {cs : List Char} :
    readValue (d + 1) ('[' :: cs) = readArray (readValue d) cs := by
  rw [readValue, skip_cons rfl]
  rfl

theorem readValue_object {cs : List Char} :
    readValue (d + 1) ('\x7b' :: cs) = readObject (readValue d) cs := by
  rw [readValue, skip_cons rfl]
  rfl

/-- **A value without numbers is read back from its text**, whatever follows, if it is not nested too
deep. -/
theorem readValue_write (h : Plain d v) (rest : List Char) :
    readValue d (write v ++ rest) = .ok (v, rest) := by
  induction h generalizing rest with
  | null =>
    rw [write]
    exact readValue_scalar rfl (by decide) (by decide)
  | bool b =>
    cases b <;> rw [write] <;> exact readValue_scalar rfl (by decide) (by decide)
  | string s =>
    rw [write, writeString_append]
    refine (readValue_scalar rfl (by decide) (by decide)).trans ?_
    unfold readScalar
    simp [readString_write, bind, Except.bind]
  | @array d items h ih =>
    obtain ⟨cs, hcs, hread⟩ : ∃ cs, write (.array items) ++ rest = '[' :: cs ∧
        readItems (readItem (readValue d)) [] cs =
          .ok (items.foldl (fun seen v => v :: seen) [], rest) :=
      readItems_write h fun s v hv rest => by rw [readItem, ih v hv rest]; rfl
    rw [hcs, readValue_array, readArray_eq, hread]
    simp [Except.bind]
  | @object d members h ih =>
    cases members with
    | nil =>
      rw [write, List.cons_append, readValue_object]
      unfold readObject readMembers
      rw [foldMembers, List.singleton_append, nextMember_close]
      rfl
    | cons m members =>
      obtain ⟨cs, hcs, hread⟩ : ∃ cs, write (.object (m :: members)) ++ rest = '\x7b' :: cs ∧
          readMembers (readMember (readValue d)) [] cs =
            .ok (members.foldl (fun seen m => m :: seen) [m], rest) :=
        readMembers_write (.cons (readMember_write (ih m List.mem_cons_self)) (.of_forall
          fun s m' hm => readMember_write (ih m' (List.mem_cons_of_mem _ hm)))) rest
      rw [hcs, readValue_object]
      unfold readObject
      simp [hread, bind, Except.bind]

end VolumeNode.Json
