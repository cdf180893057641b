/-!
# Attribute maps

A finite map from names to texts, kept sorted by name so that equal maps are equal values. Main
statement: `get?_insert`: the last text given to a name is the one it has.
-/

namespace VolumeNode

/-- The entries with the text of one name replaced, or added at its place. -/
def insertEntry (name text : String) : List (String × String) → List (String × String)
  | [] => [(name, text)]
  | e :: rest =>
    if name < e.1 then (name, text) :: e :: rest
    else if e.1 < name then e :: insertEntry name text rest
    else (name, text) :: rest

theorem mem_insertEntry {name text : String} {es : List (String × String)} {e : String × String}
    (h : e ∈ insertEntry name text es) : e = (name, text) ∨ e ∈ es := by
  induction es with
  | nil => simpa [insertEntry] using h
  | cons d rest ih =>
    rw [insertEntry] at h
    split at h
    · simpa using h
    split at h
    · rcases List.mem_cons.1 h with h | h
      · exact .inr (by simp [h])
      · rcases ih h with h | h
        · exact .inl h
        · exact .inr (List.mem_cons_of_mem _ h)
    · rcases List.mem_cons.1 h with h | h
      · exact .inl h
      · exact .inr (List.mem_cons_of_mem _ h)

/-- Rising names. -/
abbrev Rising (es : List (String × String)) : Prop :=
  es.Pairwise fun a b => a.1 < b.1

theorem rising_insertEntry (name text : String) {es : List (String × String)} (h : Rising es) :
    Rising (insertEntry name text es) := by
  induction es with
  | nil => simp [insertEntry, Rising]
  | cons d rest ih =>
    have hd := List.pairwise_cons.1 h
    rw [insertEntry]
    split
    · rename_i hlt
      refine List.pairwise_cons.2 ⟨fun e he => ?_, h⟩
      rcases List.mem_cons.1 he with rfl | he
      · exact hlt
      · exact String.lt_trans hlt (hd.1 e he)
    split
    · rename_i hlt
      refine List.pairwise_cons.2 ⟨fun e he => ?_, ih hd.2⟩
      rcases mem_insertEntry he with rfl | he
      · exact hlt
      · exact hd.1 e he
    · rename_i h1 h2
      have hname : name = d.1 := String.le_antisymm (String.not_lt.1 h2) (String.not_lt.1 h1)
      refine List.pairwise_cons.2 ⟨fun e he => ?_, hd.2⟩
      simpa [hname] using hd.1 e he

/-- A finite map from names to texts. -/
structure Attributes where
  entries : List (String × String)
  rising : Rising entries
  deriving DecidableEq

namespace Attributes

/-- The map without names. -/
def empty : Attributes :=
  ⟨[], List.Pairwise.nil⟩

instance : Inhabited Attributes :=
  ⟨empty⟩

/-- The map in which one name has the given text. -/
def insert (m : Attributes) (name text : String) : Attributes :=
  ⟨insertEntry name text m.entries, rising_insertEntry name text m.rising⟩

/-- The map with the given entries; of two for one name the later counts. -/
def ofList (es : List (String × String)) : Attributes :=
  es.foldl (fun m e => m.insert e.1 e.2) empty

/-- The text of a name. -/
def get? (m : Attributes) (name : String) : Option String :=
  m.entries.lookup name

theorem lookup_cons_if (other : String) (e : String × String) (es : List (String × String)) :
    (e :: es).lookup other = if other = e.1 then some e.2 else es.lookup other := by
  obtain ⟨k, v⟩ := e
  rw [List.lookup_cons]
  by_cases h : other = k
  · simp [h]
  · have hb : (other == k) = false := by simpa using h
    simp [hb, h]

theorem lookup_insertEntry (name text other : String) (es : List (String × String)) :
    (insertEntry name text es).lookup other = if other = name then some text else es.lookup other := by
  induction es with
  | nil => simp only [insertEntry, lookup_cons_if]
  | cons d rest ih =>
    rw [insertEntry]
    split
    · simp only [lookup_cons_if]
    split
    · rename_i hlt
      simp only [lookup_cons_if, ih]
      by_cases h : other = d.1
      · have hne : d.1 ≠ name := fun e => String.lt_irrefl _ (e ▸ hlt)
        simp [h, hne]
      · simp [h]
    · rename_i h1 h2
      have hname : name = d.1 := String.le_antisymm (String.not_lt.1 h2) (String.not_lt.1 h1)
      simp only [lookup_cons_if, hname]
      by_cases h : other = d.1 <;> simp [h]

/-- The last text given to a name is the one it has. -/
theorem get?_insert (m : Attributes) (name text other : String) :
    (m.insert name text).get? other = if other = name then some text else m.get? other :=
  lookup_insertEntry name text other m.entries

end Attributes

end VolumeNode
