import Mathlib.Data.List.Nodup
import Mathlib.Data.List.Perm.Basic
import Storefront.SortedMap

/-!
# The entries of a map, in any order and in their own

A map keeps its entries in the order of their keys, and whoever keeps the same entries in an order
of their own – by age, say – has a permutation of them. What an insertion and a removal do to the
entries is said here up to order, where it does not matter at which place a key goes in.

Where the entries are turned into others under new names, the order counts: of several under one
name the last does (`SortedMap.find?_filterMap_entries_iff`).
-/

namespace Storefront.SortedMap

variable {κ ν : Type}

/-- A list of pairs with a new value at one key has that pair and those of all other keys. -/
theorem map_update_perm [DecidableEq κ] {pairs : List (κ × ν)} {k : κ}
    (hnodup : (pairs.map Prod.fst).Nodup)
    (hk : k ∈ pairs.map Prod.fst) (v : ν) :
    (pairs.map fun e => if e.1 = k then (k, v) else e).Perm
      ((k, v) :: pairs.filter fun e => e.1 ≠ k) := by
  induction pairs with
  | nil => simp at hk
  | cons e rest ih =>
    obtain ⟨hnot, hrest⟩ := List.nodup_cons.1 hnodup
    rw [List.map_cons]
    by_cases he : e.1 = k
    · -- no other pair has the key
      subst he
      have hne : ∀ other ∈ rest, other.1 ≠ e.1 := fun other hother heq =>
        hnot (heq ▸ List.mem_map_of_mem hother)
      have hmap : (rest.map fun other => if other.1 = e.1 then (e.1, v) else other) = rest :=
        (List.map_congr_left fun other hother => if_neg (hne other hother)).trans (List.map_id' rest)
      have hfilter : (rest.filter fun other => other.1 ≠ e.1) = rest :=
        List.filter_eq_self.2 fun other hother => by simpa using hne other hother
      rw [if_pos rfl, hmap, List.filter_cons_of_neg (by simp), hfilter]
    · have hmem : k ∈ rest.map Prod.fst := by simpa [Ne.symm he] using hk
      rw [if_neg he, List.filter_cons_of_pos (by simpa using he)]
      exact ((ih hrest hmem).cons e).trans (List.Perm.swap _ _ _)

variable [Ord κ] [Std.LawfulEqOrd κ]

/-- No key occurs twice. -/
theorem nodup_keys (m : SortedMap κ ν) : (m.entries.map Prod.fst).Nodup := by
  refine List.pairwise_map.2 (m.ascending.imp fun {a b} hlt heq => ?_)
  simp [heq] at hlt

theorem nodup_entries (m : SortedMap κ ν) : m.entries.Nodup :=
  m.nodup_keys.of_map

/-- A look-up among the entries that satisfy a condition. -/
theorem get?_filter (p : κ → ν → Bool) (m : SortedMap κ ν) (k : κ) :
    (m.filter p).get? k = (m.get? k).filter (p k) := by
  refine Option.ext fun v => ?_
  rw [← mem_entries_iff, filter, List.mem_filter, mem_entries_iff, Option.filter_eq_some_iff]

/-- **Maps with the same look-ups are the same.** -/
theorem ext_get? [Std.TransOrd κ] {m n : SortedMap κ ν} (h : ∀ k, m.get? k = n.get? k) : m = n := by
  have hperm : m.entries.Perm n.entries :=
    (List.perm_ext_iff_of_nodup m.nodup_entries n.nodup_entries).2 fun (k, v) => by
      rw [mem_entries_iff, mem_entries_iff, h k]
  refine ext (hperm.eq_of_pairwise (fun a b _ _ hab hba => ?_) m.ascending n.ascending)
  rw [Std.OrientedCmp.gt_of_lt hba] at hab
  cases hab

/-- **The last entry that satisfies a condition.** -/
theorem find?_reverse_entries_iff [Std.TransOrd κ] {m : SortedMap κ ν} {p : κ × ν → Bool}
    {e : κ × ν} :
    m.entries.reverse.find? p = some e ↔
      e ∈ m.entries ∧ p e = true ∧
        ∀ other ∈ m.entries, compare e.1 other.1 = .lt → p other = false := by
  -- whatever is found is the last one
  have hfound : ∀ found, m.entries.reverse.find? p = some found →
      found ∈ m.entries ∧ p found = true ∧
        ∀ other ∈ m.entries, compare found.1 other.1 = .lt → p other = false := by
    intro found hfind
    obtain ⟨hp, later, earlier, hsplit, hlater⟩ := List.find?_eq_some_iff_append.1 hfind
    have hdescending := List.pairwise_reverse.2 m.ascending
    have hmem : ∀ other, other ∈ later ++ found :: earlier ↔ other ∈ m.entries := by
      intro other
      rw [← hsplit, List.mem_reverse]
    rw [hsplit] at hdescending
    refine ⟨(hmem found).1 (by simp), hp, fun other hother hlt => ?_⟩
    rcases List.mem_append.1 ((hmem other).2 hother) with hpassed | hrest
    · simpa using hlater other hpassed
    · rcases List.mem_cons.1 hrest with rfl | hearlier
      · simp at hlt
      · have hbefore := (List.pairwise_append.1 hdescending).2.1
        have hgt := Std.OrientedCmp.gt_of_lt ((List.pairwise_cons.1 hbefore).1 other hearlier)
        rw [hlt] at hgt
        cases hgt
  constructor
  · exact hfound e
  · rintro ⟨hmem, hp, hlast⟩
    obtain ⟨found, hfind⟩ : ∃ found, m.entries.reverse.find? p = some found :=
      Option.isSome_iff_exists.1 (List.find?_isSome.2 ⟨e, List.mem_reverse.2 hmem, hp⟩)
    obtain ⟨hmem', hp', hlast'⟩ := hfound found hfind
    rw [hfind]
    cases hcompare : compare e.1 found.1 with
    | lt => exact absurd hp' (by simp [hlast found hmem' hcompare])
    | gt => exact absurd hp (by simp [hlast' e hmem (Std.OrientedCmp.lt_of_gt hcompare)])
    | eq =>
      have hkey : e.1 = found.1 := Std.LawfulEqCmp.eq_of_compare hcompare
      have hvalue : some e.2 = some found.2 := by
        rw [← mem_entries_iff.1 hmem, ← mem_entries_iff.1 hmem', hkey]
      rw [Prod.ext hkey (Option.some.inj hvalue)]

/-- **Of all that the entries of a map are turned into, the last under a name counts**: it comes from
a key after which none gives anything under this name. -/
theorem find?_filterMap_entries_iff [Std.TransOrd κ] {α β : Type} [DecidableEq α]
    {m : SortedMap κ ν} {f : κ × ν → Option (α × β)} {a : α} {b : β} :
    ((m.entries.filterMap f).reverse.find? fun e => e.1 = a).map (·.2) = some b ↔
      ∃ k v, m.get? k = some v ∧ f (k, v) = some (a, b) ∧
        ∀ l w, m.get? l = some w → compare k l = .lt → ∀ e ∈ f (l, w), e.1 ≠ a := by
  rw [← List.filterMap_reverse, List.find?_filterMap]
  constructor
  · intro h
    obtain ⟨⟨name, value⟩, hgiven, rfl⟩ := Option.map_eq_some_iff.1 h
    obtain ⟨⟨k, v⟩, hfind, hf⟩ := Option.bind_eq_some_iff.1 hgiven
    obtain ⟨hmem, hname, hlast⟩ := find?_reverse_entries_iff.1 hfind
    obtain rfl : name = a := by simpa [hf] using hname
    refine ⟨k, v, mem_entries_iff.1 hmem, hf, fun l w hget hlt e he => ?_⟩
    have hnot := hlast (l, w) (mem_entries_iff.2 hget) hlt
    rw [Option.mem_def.1 he] at hnot
    simpa using hnot
  · rintro ⟨k, v, hget, hf, hlast⟩
    have hfind : (m.entries.reverse.find? fun e => (f e).any fun given => given.1 = a) =
        some (k, v) := by
      refine find?_reverse_entries_iff.2 ⟨mem_entries_iff.2 hget, by simp [hf], ?_⟩
      rintro ⟨l, w⟩ hmem hlt
      have hnot := hlast l w (mem_entries_iff.1 hmem) hlt
      cases hgiven : f (l, w) with
      | none => rfl
      | some given => simpa using hnot given hgiven
    rw [hfind, Option.bind_some, hf]
    rfl

variable [DecidableEq κ]

theorem entries_erase (m : SortedMap κ ν) (k : κ) :
    (m.erase k).entries = m.entries.filter fun e => e.1 ≠ k := by
  refine List.filter_congr fun e _ => ?_
  by_cases h : k = e.1
  · simp [h]
  · simp [h, Ne.symm h]

/-- **An insertion** puts one entry in the place of the one with its key, if there is one. -/
theorem entries_insert_perm [Std.TransOrd κ] (m : SortedMap κ ν) (k : κ) (v : ν) :
    (m.insert k v).entries.Perm ((k, v) :: m.entries.filter fun e => e.1 ≠ k) := by
  refine (List.perm_ext_iff_of_nodup (nodup_entries _) ?_).2 fun (l, w) => ?_
  · exact List.nodup_cons.2 ⟨by simp, m.nodup_entries.filter _⟩
  · rw [mem_entries_iff, get?_insert, List.mem_cons, List.mem_filter, mem_entries_iff]
    by_cases h : l = k
    · simp [h, eq_comm]
    · simp [h]

/-- **Of several pairs with one key the last counts**, if they are inserted one after another. -/
theorem get?_foldl_insert [Std.TransOrd κ] (pairs : List (κ × ν)) (m : SortedMap κ ν) (k : κ) :
    (pairs.foldl (fun m e => m.insert e.1 e.2) m).get? k =
      ((pairs.reverse.find? fun e => e.1 = k).map (·.2)).or (m.get? k) := by
  induction pairs generalizing m with
  | nil => rfl
  | cons e rest ih =>
    rw [List.foldl_cons, ih, get?_insert, List.reverse_cons, List.find?_append]
    cases rest.reverse.find? fun e => e.1 = k with
    | some found => rfl
    | none =>
      by_cases h : e.1 = k
      · simp [h]
      · simp [h, Ne.symm h]

end Storefront.SortedMap
