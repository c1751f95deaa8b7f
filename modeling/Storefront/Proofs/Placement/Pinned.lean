import Mathlib.Tactic.SplitIfs
import Storefront.Placement

/-!
# Pinned documents in front

Pins give the documents of a category a place, and a page is arranged by these places. What an
arranged page is can be said without sorting (`PinBoard.Arranges`): it has the same documents, the
pinned ones first and by ascending position, and documents of one place – of one position, or
without any – stand as they stood. There is one such page, and it is the one that is handed out
(`PinBoard.arranges_iff`).
-/

namespace Storefront.PinBoard

variable {board : PinBoard} {category : Int} {a b : Int} {ids arranged others : List Int}

/-! ### Places -/

theorem position?_empty (category document : Int) : empty.position? category document = none := rfl

/-- **The last pin counts** of several for one document of a category. -/
theorem position?_add (board : PinBoard) (pin : Pin) (category document : Int) :
    (board.add pin).position? category document =
      if pin.category = category ∧ pin.document = document then some pin.position
      else board.position? category document := by
  rw [position?, position?, add, List.reverse_append, List.reverse_singleton, List.singleton_append,
    List.find?_cons]
  by_cases h : pin.category = category ∧ pin.document = document
  · simp [h]
  · have hother : (pin.category == category && pin.document == document) = false := by simpa using h
    rw [hother, if_neg h]

/-- The board with the pins of one category only. -/
def within (board : PinBoard) (category : Int) : PinBoard :=
  ⟨board.pins.filter (·.category == category)⟩

/-- The pins of other categories do not give a document its place. -/
theorem position?_within (board : PinBoard) (category document : Int) :
    (board.within category).position? category document = board.position? category document := by
  rw [position?, position?, within, ← List.filter_reverse, List.find?_filter]
  congr 2
  funext pin
  by_cases h : pin.category = category
  · simp [h, Bool.beq_eq_decide_eq]
  · simp [h]

/-- A document stands before another if that one has no position, or both have one and its own is at
most the other's. -/
theorem precedes_iff :
    board.precedes category a b = true ↔
      ∀ q ∈ board.position? category b, ∃ p ∈ board.position? category a, p ≤ q := by
  unfold precedes
  cases board.position? category a <;> cases board.position? category b <;> simp

theorem precedes_trans (board : PinBoard) (category a b c : Int)
    (hab : board.precedes category a b = true) (hbc : board.precedes category b c = true) :
    board.precedes category a c = true := by
  rw [precedes_iff] at *
  intro r hr
  obtain ⟨q, hq, hqr⟩ := hbc r hr
  obtain ⟨p, hp, hpq⟩ := hab q hq
  exact ⟨p, hp, Int.le_trans hpq hqr⟩

theorem precedes_total (board : PinBoard) (category a b : Int) :
    (board.precedes category a b || board.precedes category b a) = true := by
  unfold precedes
  cases board.position? category a <;> cases board.position? category b <;>
    simp [Int.le_total]

/-- Documents stand before each other if they have the same place, and only then. -/
theorem position?_eq_iff :
    board.position? category a = board.position? category b ↔
      board.precedes category a b = true ∧ board.precedes category b a = true := by
  unfold precedes
  cases board.position? category a <;> cases board.position? category b <;>
    simp [Int.le_antisymm_iff]

/-! ### Arranged pages -/

/-- The documents of a page that have one place, pinned to one position or not at all. -/
def atPlace (board : PinBoard) (category : Int) (place : Option Int) (ids : List Int) : List Int :=
  ids.filter fun id => board.position? category id = place

/-- **A page arranged by the pins of a category.** -/
structure Arranges (board : PinBoard) (category : Int) (ids arranged : List Int) : Prop where
  perm : arranged.Perm ids
  pinned_first : arranged.Pairwise fun a b =>
    (board.position? category b).isSome → (board.position? category a).isSome
  ascending : arranged.Pairwise fun a b =>
    ∀ p ∈ board.position? category a, ∀ q ∈ board.position? category b, p ≤ q
  stable : ∀ place, board.atPlace category place arranged = board.atPlace category place ids

/-- On an arranged page each document may stand before the ones behind it. -/
theorem Arranges.sorted (h : board.Arranges category ids arranged) :
    arranged.Pairwise fun a b => board.precedes category a b = true := by
  refine h.pinned_first.imp₂ (fun a b hfirst hascending => ?_) h.ascending
  refine precedes_iff.2 fun q hq => ?_
  obtain ⟨p, hp⟩ := Option.isSome_iff_exists.1 (hfirst (Option.isSome_iff_exists.2 ⟨q, hq⟩))
  exact ⟨p, hp, hascending p hp q hq⟩

theorem sorted_apply (board : PinBoard) (category : Int) (ids : List Int) :
    (board.apply category ids).Pairwise fun a b => board.precedes category a b = true :=
  List.pairwise_mergeSort (board.precedes_trans category) (board.precedes_total category) ids

/-- **Sorting leaves the documents of a place as they stood.** -/
theorem atPlace_apply (board : PinBoard) (category : Int) (place : Option Int) (ids : List Int) :
    board.atPlace category place (board.apply category ids) = board.atPlace category place ids := by
  induction ids with
  | nil => rw [apply, List.mergeSort_nil]
  | cons id rest ih =>
    obtain ⟨front, back, hsorted, hrest, hfront⟩ :=
      List.mergeSort_cons (board.precedes_trans category) (board.precedes_total category) id rest
    rw [apply, hrest, atPlace, atPlace, List.filter_append] at ih
    rw [apply, hsorted, atPlace, atPlace, List.filter_append, List.filter_cons, List.filter_cons,
      ← ih]
    split_ifs with hplace
    · -- whatever stands before the document has another place
      have hnone : (front.filter fun other => board.position? category other = place) = [] := by
        refine List.filter_eq_nil_iff.2 fun other hother hsame => ?_
        have hboth := (of_decide_eq_true hplace).trans (of_decide_eq_true hsame).symm
        simpa [(position?_eq_iff.1 hboth).1] using hfront other hother
      rw [hnone, List.nil_append, List.nil_append]
    · rfl

theorem arranges_apply (board : PinBoard) (category : Int) (ids : List Int) :
    board.Arranges category ids (board.apply category ids) where
  perm := List.mergeSort_perm ids _
  pinned_first := (board.sorted_apply category ids).imp fun hprecedes hpinned => by
    obtain ⟨q, hq⟩ := Option.isSome_iff_exists.1 hpinned
    obtain ⟨p, hp, -⟩ := precedes_iff.1 hprecedes q hq
    exact Option.isSome_iff_exists.2 ⟨p, hp⟩
  ascending := (board.sorted_apply category ids).imp fun hprecedes p hp q hq => by
    obtain ⟨p', hp', hle⟩ := precedes_iff.1 hprecedes q hq
    rwa [Option.some.inj (hp.symm.trans hp')]
  stable := fun place => board.atPlace_apply category place ids

/-- Pages with the same documents at each place have the same documents. -/
theorem mem_of_atPlace_eq
    (h : ∀ place, board.atPlace category place ids = board.atPlace category place others)
    (ha : a ∈ ids) : a ∈ others := by
  have hplace : a ∈ board.atPlace category (board.position? category a) ids :=
    List.mem_filter.2 ⟨ha, decide_eq_true rfl⟩
  rw [h] at hplace
  exact (List.mem_filter.1 hplace).1

/-- The first document of a sorted page stands before all of the page. -/
theorem precedes_of_mem_cons (h : ∀ b ∈ ids, board.precedes category a b = true)
    (hb : b ∈ a :: ids) : board.precedes category a b = true := by
  rcases List.mem_cons.1 hb with rfl | hb
  · exact (position?_eq_iff.1 rfl).1
  · exact h b hb

/-- **The order is all in the places**: pages that are sorted by place and have the same documents,
in the same order, at each place are the same. -/
theorem eq_of_atPlace_eq
    (hsorted : ids.Pairwise fun a b => board.precedes category a b = true)
    (hothers : others.Pairwise fun a b => board.precedes category a b = true)
    (h : ∀ place, board.atPlace category place ids = board.atPlace category place others) :
    ids = others := by
  have hsymm := fun place => (h place).symm
  induction ids generalizing others with
  | nil =>
    cases others with
    | nil => rfl
    | cons y ys => cases mem_of_atPlace_eq hsymm (List.mem_cons_self ..)
  | cons x xs ih =>
    cases others with
    | nil => cases mem_of_atPlace_eq h (List.mem_cons_self ..)
    | cons y ys =>
      obtain ⟨hx, hxs⟩ := List.pairwise_cons.1 hsorted
      obtain ⟨hy, hys⟩ := List.pairwise_cons.1 hothers
      -- each page begins with a document that may stand before the first of the other
      have hplace : board.position? category x = board.position? category y :=
        position?_eq_iff.2
          ⟨precedes_of_mem_cons hx (mem_of_atPlace_eq hsymm (List.mem_cons_self ..)),
            precedes_of_mem_cons hy (mem_of_atPlace_eq h (List.mem_cons_self ..))⟩
      -- so both are the first of their place
      obtain rfl : x = y := by
        have hfirst := h (board.position? category x)
        simp only [atPlace, List.filter_cons, hplace, decide_true, if_true] at hfirst
        exact (List.cons.inj hfirst).1
      have hrest (place : Option Int) :
          board.atPlace category place xs = board.atPlace category place ys := by
        have hall := h place
        rw [atPlace, atPlace, List.filter_cons, List.filter_cons] at hall
        split_ifs at hall
        · exact (List.cons.inj hall).2
        · exact hall
      exact congrArg (x :: ·) (ih hxs hys hrest fun place => (hrest place).symm)

/-- **There is one arranged page**, and it is what the overlay makes. -/
theorem arranges_iff :
    board.Arranges category ids arranged ↔ arranged = board.apply category ids := by
  refine ⟨fun h => ?_, fun h => h ▸ board.arranges_apply category ids⟩
  exact eq_of_atPlace_eq h.sorted (board.sorted_apply category ids) fun place =>
    (h.stable place).trans (board.atPlace_apply category place ids).symm

/-- An arranged page stays as it is. -/
theorem apply_apply (board : PinBoard) (category : Int) (ids : List Int) :
    board.apply category (board.apply category ids) = board.apply category ids :=
  List.mergeSort_of_pairwise (board.sorted_apply category ids)

/-- The pins of other categories arrange nothing. -/
theorem apply_eq_of_within_eq {other : PinBoard} (h : other.within category = board.within category)
    (ids : List Int) : other.apply category ids = board.apply category ids := by
  have hprecedes : other.precedes category = board.precedes category := by
    funext a b
    rw [precedes, precedes, ← position?_within other, ← position?_within other, h, position?_within,
      position?_within]
  rw [apply, apply, hprecedes]

end Storefront.PinBoard
