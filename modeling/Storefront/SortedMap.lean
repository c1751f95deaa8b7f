/-!
# Maps in the order of their keys

A finite map kept as the list of its entries in strictly ascending order of keys. The order is
part of the type, so equal maps are equal lists and whoever walks a map meets the keys in the
same order; writing a key twice leaves the last value, as `ofList` does for whole lists.

* `SortedMap.get?_insert` – what an insertion does to a look-up;
* `SortedMap.get?_erase` – what a removal does to it;
* `SortedMap.mem_entries_iff` – the entries are what is looked up.
-/

namespace Storefront

/-- A finite map: its entries, the keys strictly ascending. -/
structure SortedMap (κ ν : Type) [Ord κ] where
  entries : List (κ × ν)
  ascending : entries.Pairwise fun a b => compare a.1 b.1 = .lt

namespace SortedMap

variable {κ ν : Type} [Ord κ]

@[ext] theorem ext {m n : SortedMap κ ν} (h : m.entries = n.entries) : m = n := by
  cases m; cases n; simp_all

instance [DecidableEq κ] [DecidableEq ν] : DecidableEq (SortedMap κ ν) := fun m n =>
  decidable_of_iff (m.entries = n.entries) ⟨ext, fun h => h ▸ rfl⟩

/-! ### Insertion and removal on lists of entries -/

/-- The entries with the key set to the value, at its place in the order. -/
def insertEntry (k : κ) (v : ν) : List (κ × ν) → List (κ × ν)
  | [] => [(k, v)]
  | e :: rest =>
    match compare k e.1 with
    | .lt => (k, v) :: e :: rest
    | .eq => (k, v) :: rest
    | .gt => e :: insertEntry k v rest

theorem mem_insertEntry {k : κ} {v : ν} {es : List (κ × ν)} {e : κ × ν}
    (h : e ∈ insertEntry k v es) : e = (k, v) ∨ e ∈ es := by
  induction es with
  | nil => simpa [insertEntry] using h
  | cons x rest ih =>
    simp only [insertEntry] at h
    split at h
    · simpa using h
    · rcases List.mem_cons.1 h with h | h <;> simp [h]
    · rcases List.mem_cons.1 h with h | h
      · simp [h]
      · rcases ih h with h | h <;> simp [h]

theorem ascending_insertEntry [Std.TransOrd κ] [Std.LawfulEqOrd κ] (k : κ) (v : ν)
    {es : List (κ × ν)} (h : es.Pairwise fun a b => compare a.1 b.1 = .lt) :
    (insertEntry k v es).Pairwise fun a b => compare a.1 b.1 = .lt := by
  induction es with
  | nil => simp [insertEntry]
  | cons x rest ih =>
    obtain ⟨hx, hrest⟩ := List.pairwise_cons.1 h
    simp only [insertEntry]
    split
    · -- the key goes in front
      rename_i hlt
      refine List.pairwise_cons.2 ⟨?_, h⟩
      intro e he
      rcases List.mem_cons.1 he with rfl | he
      · exact hlt
      · exact Std.TransCmp.lt_trans hlt (hx e he)
    · -- the key is there already
      rename_i heq
      refine List.pairwise_cons.2 ⟨?_, hrest⟩
      intro e he
      exact Std.TransCmp.lt_of_eq_of_lt heq (hx e he)
    · -- the key goes further back
      rename_i hgt
      refine List.pairwise_cons.2 ⟨?_, ih hrest⟩
      intro e he
      rcases mem_insertEntry he with rfl | he
      · exact Std.OrientedCmp.gt_iff_lt.1 hgt
      · exact hx e he

/-! ### The operations -/

/-- The map without entries. -/
def empty : SortedMap κ ν := ⟨[], List.Pairwise.nil⟩

instance : EmptyCollection (SortedMap κ ν) := ⟨empty⟩
instance : Inhabited (SortedMap κ ν) := ⟨empty⟩

/-- The value at a key. -/
def get? (m : SortedMap κ ν) (k : κ) : Option ν :=
  (m.entries.find? fun e => compare k e.1 == .eq).map (·.2)

/-- Whether the map has the key. -/
def contains (m : SortedMap κ ν) (k : κ) : Bool :=
  (m.get? k).isSome

/-- The number of keys. -/
def size (m : SortedMap κ ν) : Nat :=
  m.entries.length

/-- The entries as pairs, the keys ascending. -/
def toList (m : SortedMap κ ν) : List (κ × ν) :=
  m.entries

/-- The keys, ascending. -/
def keys (m : SortedMap κ ν) : List κ :=
  m.entries.map (·.1)

/-- The map without the key. -/
def erase (m : SortedMap κ ν) (k : κ) : SortedMap κ ν :=
  ⟨m.entries.filter fun e => compare k e.1 != .eq, m.ascending.filter _⟩

/-- The entries that satisfy a condition. -/
def filter (p : κ → ν → Bool) (m : SortedMap κ ν) : SortedMap κ ν :=
  ⟨m.entries.filter fun e => p e.1 e.2, m.ascending.filter _⟩

variable [Std.TransOrd κ] [Std.LawfulEqOrd κ]

/-- The map with the key set to the value. -/
def insert (m : SortedMap κ ν) (k : κ) (v : ν) : SortedMap κ ν :=
  ⟨insertEntry k v m.entries, ascending_insertEntry k v m.ascending⟩

/-- The map of a list of pairs; of several with one key the last counts. -/
def ofList (pairs : List (κ × ν)) : SortedMap κ ν :=
  pairs.foldl (fun m (k, v) => m.insert k v) empty

/-! ### Look-ups -/

omit [Std.LawfulEqOrd κ] in
theorem find?_insertEntry (k l : κ) (v : ν) (es : List (κ × ν)) :
    ((insertEntry k v es).find? fun e => compare l e.1 == .eq).map (·.2) =
      if compare l k == .eq then some v
      else (es.find? fun e => compare l e.1 == .eq).map (·.2) := by
  induction es with
  | nil => by_cases h : compare l k == .eq <;> simp [insertEntry, h]
  | cons x rest ih =>
    simp only [insertEntry]
    split
    · by_cases h : compare l k == .eq <;> simp [List.find?_cons, h]
    · -- the entry found under `l` is the one replaced, because `k` is equal to its key
      rename_i heq
      have hc : compare l k = compare l x.1 := Std.TransCmp.congr_right heq
      by_cases h : compare l k == .eq
      · simp [h]
      · have h' : (compare l x.1 == .eq) = false := by rw [← hc]; simpa using h
        simp [h, h']
    · rename_i hgt
      by_cases hx : compare l x.1 == .eq
      · have h : (compare l k == .eq) = false := by
          have hc : compare l k = compare x.1 k := Std.TransCmp.congr_left (by simpa using hx)
          have : compare x.1 k = .lt := Std.OrientedCmp.gt_iff_lt.1 hgt
          simp [hc, this]
        simp [hx, h]
      · simp only [List.find?_cons, hx]
        simpa using ih

omit [Std.TransOrd κ] [Std.LawfulEqOrd κ] in
@[simp] theorem get?_empty (k : κ) : (empty : SortedMap κ ν).get? k = none := rfl

theorem get?_insert [DecidableEq κ] (m : SortedMap κ ν) (k l : κ) (v : ν) :
    (m.insert k v).get? l = if l = k then some v else m.get? l := by
  have := find?_insertEntry k l v m.entries
  simp only [get?, insert, this]
  by_cases h : l = k
  · simp [h]
  · have : (compare l k == .eq) = false := by simpa using h
    simp [this, h]

omit [Std.TransOrd κ] in
theorem get?_erase [DecidableEq κ] (m : SortedMap κ ν) (k l : κ) :
    (m.erase k).get? l = if l = k then none else m.get? l := by
  simp only [get?, erase, List.find?_filter]
  by_cases h : l = k
  · subst h
    simp
  · have hkeep : ∀ e : κ × ν,
        decide ((compare k e.1 != .eq) = true ∧ (compare l e.1 == .eq) = true) =
          (compare l e.1 == .eq) := by
      intro e
      by_cases he : l = e.1
      · subst he
        have hk : (compare k e.1 != .eq) = true := by
          simpa using fun hk : k = e.1 => h hk.symm
        simp [hk]
      · have hl : (compare l e.1 == .eq) = false := by simpa using he
        simp [hl]
    simp only [h, hkeep, ↓reduceIte]

omit [Std.TransOrd κ] in
/-- The entries of a map are what is looked up in it. -/
theorem mem_entries_iff {m : SortedMap κ ν} {k : κ} {v : ν} :
    (k, v) ∈ m.entries ↔ m.get? k = some v := by
  have hasc := m.ascending
  simp only [get?]
  generalize m.entries = es at hasc
  induction es with
  | nil => simp
  | cons x rest ih =>
    obtain ⟨hx, hrest⟩ := List.pairwise_cons.1 hasc
    by_cases h : k = x.1
    · subst h
      have hno : (x.1, v) ∉ rest := fun hm => by
        have := hx _ hm
        simp at this
      simp only [List.mem_cons, hno, or_false, List.find?_cons, Std.ReflCmp.compare_self,
        beq_self_eq_true, Option.map_some, Option.some.injEq]
      exact ⟨fun h => by rw [← h], fun h => by rw [← h]⟩
    · have hc : (compare k x.1 == .eq) = false := by simpa using h
      have hne : (k, v) ≠ x := fun he => h (by rw [← he])
      simp only [List.mem_cons, hne, false_or, List.find?_cons, hc]
      exact ih hrest

end SortedMap

end Storefront
