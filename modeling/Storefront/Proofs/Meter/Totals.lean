import Mathlib.Algebra.BigOperators.Group.List.Basic
import Mathlib.Algebra.GroupWithZero.Nat
import Storefront.Meter

/-!
# What counters come to

A counter has a series of its own for each way in which it is labelled, and what is asked of it is
mostly a sum over several of them: all requests, those with one source, those that were degraded.
The total of a counter (`Journal.total`) is that sum, over all series of its name that carry the
labels asked for. It adds up entry by entry (`Journal.total_append`), and an entry that is one more
occurrence of something adds one where it carries the labels (`Measurement.amount_of_tick`).
-/

namespace Storefront

/-- A reading of a counter, in a series that carries the labels. -/
def Reading.Counts (name : String) (labels : List (String × String)) (reading : Reading) : Prop :=
  reading.kind = .counter ∧ reading.name = name ∧ labels ⊆ reading.labels

instance (name : String) (labels : List (String × String)) :
    DecidablePred (Reading.Counts name labels) :=
  fun _ => inferInstanceAs (Decidable (_ ∧ _ ∧ _))

/-- What an entry adds to a counter, in all series that carry the labels. -/
def Measurement.amount (name : String) (labels : List (String × String))
    (measurement : Measurement) : Nat :=
  ((measurement.readings.filter fun reading => reading.Counts name labels).map
    fun reading => reading.value.countOf 1).sum

/-- **The total of a counter**, in all series that carry the labels. -/
def Journal.total (journal : Journal) (name : String) (labels : List (String × String)) : Nat :=
  (journal.map (Measurement.amount name labels)).sum

/-! ### Entry by entry -/

theorem Journal.total_cons (measurement : Measurement) (journal : Journal) (name : String)
    (labels : List (String × String)) :
    Journal.total (measurement :: journal) name labels =
      measurement.amount name labels + journal.total name labels :=
  List.sum_cons

theorem Journal.total_append (before after : Journal) (name : String)
    (labels : List (String × String)) :
    Journal.total (before ++ after) name labels =
      before.total name labels + after.total name labels := by
  rw [total, List.map_append, List.sum_append]
  rfl

theorem countOf_ofNat_one : (Binary64.ofNat 1).countOf 1 = 1 := by
  decide +kernel

namespace Measurement

variable {measurement : Measurement} {counter : String}

/-- An entry that is one more occurrence of something adds one where it carries the labels. -/
theorem amount_of_tick {name : String} {labels : List (String × String)}
    (h : measurement.readings = [.tick name labels]) (wanted : List (String × String)) :
    measurement.amount counter wanted = if name = counter ∧ wanted ⊆ labels then 1 else 0 := by
  have hcounts : (Reading.tick name labels).Counts counter wanted ↔
      name = counter ∧ wanted ⊆ labels := ⟨And.right, fun hand => ⟨rfl, hand⟩⟩
  rw [amount, h, List.filter_singleton, ← if_congr hcounts rfl rfl]
  by_cases htick : (Reading.tick name labels).Counts counter wanted
  · rw [decide_eq_true htick, if_pos htick, cond_true, List.map_singleton, List.sum_singleton,
      Reading.tick, countOf_ofNat_one]
  · rw [decide_eq_false htick, if_neg htick]
    rfl

/-- An entry adds nothing to a counter that it has no reading of. -/
theorem amount_of_ne (h : ∀ reading ∈ measurement.readings, reading.name ≠ counter)
    (wanted : List (String × String)) : measurement.amount counter wanted = 0 := by
  have hnone : (measurement.readings.filter fun reading => reading.Counts counter wanted) = [] :=
    List.filter_eq_nil_iff.2 fun reading hmem hcounts =>
      h reading hmem (of_decide_eq_true hcounts).2.1
  rw [amount, hnone]
  rfl

end Measurement

end Storefront
