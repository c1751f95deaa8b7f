import Storefront.Engine.Script
import Storefront.Proofs.Facet.OwnField

/-!
# Counts in one round trip for each taxonomy

The counts of several taxonomies are asked for one after another, and no taxonomy should have to pay
for another: each that has a field in the index takes one statement, however the statements before
it were answered, and its counts are what the reply to this one statement says.

What a reply says is read row by row from the last of several result sets (`Reply.said`), and there
are many ways to say nothing:

| reply | what it says |
|---|---|
| a fault, a single set, none at all | nothing |
| a last set without rows, or without a column of counts | nothing |
| a row without a readable key or count | nothing of any key |
| a row with both | so many matches of the key, of a negative count none |

Counts *add up* what is said (`SumsUp`) if their keys are those that something is said of, and the
value of a key is the sum of all that is said of it, as long as that fits a count.

Main statement: for an engine whose replies are a matter of the statement alone, the statements are
one for each taxonomy with a field, in the order of the list, and of exactly the listed taxonomies
there are counts, which add up what the reply to their own statement says
(`Planner.facetCountsFor_isolated`).
-/

namespace Storefront

open Number

/-- **An engine whose replies are a matter of the statement alone**, whatever it was asked before.
-/
def Engine.RepliesBy {σ : Type} (engine : Engine σ) (reply : String → Reply) : Prop :=
  ∀ statement s, (engine.execute statement s).1 = reply statement

/-! ### What a reply says -/

/-- What a row says: its key with its count, if both can be read. -/
def ResultSet.said? (countColumn : Nat) (row : List Cell) : Option (Int × Nat) :=
  match row[0]?.bind Cell.id?, row[countColumn]?.bind Cell.id? with
  | some key, some n => some (key, n.toNat)
  | _, _ => none

/-- **What a reply says**: what the rows of the last of several result sets do. -/
def Reply.said : Reply → List (Int × Nat)
  | .error _ => []
  | .ok answer =>
    match answer.sets.getLast? with
    | none => []
    | some set =>
      match set.countIndex? with
      | none => []
      | some countColumn =>
        if answer.sets.length < 2 then [] else set.rows.filterMap (ResultSet.said? countColumn)

/-- All that is said of a key, added up. -/
def saidOf (said : List (Int × Nat)) (key : Int) : Nat :=
  ((said.filter fun entry => entry.1 = key).map Prod.snd).sum

/-- **Counts that add up what is said** of each key, and have no other key. -/
structure SumsUp (said : List (Int × Nat)) (counts : SortedMap Int Nat) : Prop where
  contains_iff : ∀ key, counts.contains key = true ↔ key ∈ said.map Prod.fst
  get?_eq : ∀ key ∈ said.map Prod.fst, saidOf said key ≤ maxCount →
    counts.get? key = some (saidOf said key)

variable {said : List (Int × Nat)} {counts : SortedMap Int Nat}

/-- Where nothing is said there are no counts. -/
theorem SumsUp.eq_empty (h : SumsUp [] counts) : counts = ∅ := by
  refine SortedMap.ext_get? fun key => ?_
  have hnone : counts.contains key = false := by
    rw [Bool.eq_false_iff]
    intro hkey
    exact List.not_mem_nil ((h.contains_iff key).1 hkey)
  rw [SortedMap.contains, Option.isSome_eq_false_iff, Option.isNone_iff_eq_none] at hnone
  exact hnone

/-! ### Adding up -/

/-- The counts with what is said of one more key. -/
def addSaid (counts : SortedMap Int Nat) (entry : Int × Nat) : SortedMap Int Nat :=
  counts.insert entry.1 (addCounts ((counts.get? entry.1).getD 0) entry.2)

/-- Rows are added up by what they say. -/
theorem foldl_addRow_eq (countColumn : Nat) (rows : List (List Cell)) (counts : SortedMap Int Nat) :
    rows.foldl (ResultSet.addRow 0 countColumn Cell.id?) counts =
      (rows.filterMap (ResultSet.said? countColumn)).foldl addSaid counts := by
  induction rows generalizing counts with
  | nil => rfl
  | cons row rows ih =>
    rw [List.foldl_cons, ih]
    unfold ResultSet.addRow
    split
    · rename_i key n hkey hn
      have hsaid : ResultSet.said? countColumn row = some (key, n.toNat) := by
        rw [ResultSet.said?, hkey, hn]
      rw [List.filterMap_cons_some hsaid]
      rfl
    · rename_i hunread
      have hsaid : ResultSet.said? countColumn row = none := by
        unfold ResultSet.said?
        split
        · rename_i key n hkey hn
          exact (hunread key n hkey hn).elim
        · rfl
      rw [List.filterMap_cons_none hsaid]

/-- Nothing is added to a key that nothing is said of. -/
theorem saidOf_eq_zero {key : Int} (h : key ∉ said.map Prod.fst) : saidOf said key = 0 := by
  have hnone : (said.filter fun entry => entry.1 = key) = [] := by
    refine List.filter_eq_nil_iff.2 fun entry hentry hkey => ?_
    rw [decide_eq_true_eq] at hkey
    exact h (List.mem_map.2 ⟨entry, hentry, hkey⟩)
  rw [saidOf, hnone]
  rfl

/-- **What is said goes to its key**, and counts go round at the greatest one. -/
theorem get?_foldl_addSaid (said : List (Int × Nat)) (counts : SortedMap Int Nat) (key : Int) :
    (said.foldl addSaid counts).get? key =
      if key ∈ said.map Prod.fst then
        some (((counts.get? key).getD 0 + saidOf said key) % (maxCount + 1))
      else counts.get? key := by
  induction said generalizing counts with
  | nil => simp
  | cons entry said ih =>
    rw [List.foldl_cons, ih, addSaid, SortedMap.get?_insert]
    by_cases hkey : key = entry.1
    · -- the entry is the first for its key, and others may follow
      have hsum : saidOf (entry :: said) key = entry.2 + saidOf said key := by
        rw [saidOf, List.filter_cons_of_pos (by simp [hkey]), List.map_cons, List.sum_cons, saidOf]
      have hmem : key ∈ (entry :: said).map Prod.fst := by simp [hkey]
      rw [if_pos hkey, if_pos hmem, hsum, ← hkey, Option.getD_some, addCounts]
      split_ifs with hmore
      · rw [Nat.mod_add_mod, Nat.add_assoc]
      · rw [saidOf_eq_zero hmore]
        rfl
    · have hsum : saidOf (entry :: said) key = saidOf said key := by
        rw [saidOf, List.filter_cons_of_neg (by simpa using Ne.symm hkey), saidOf]
      simp only [hkey, List.map_cons, List.mem_cons, false_or, hsum, reduceIte]

/-- Adding up from nothing. -/
theorem sumsUp_foldl_addSaid (said : List (Int × Nat)) : SumsUp said (said.foldl addSaid ∅) := by
  have hget (key : Int) : (said.foldl addSaid ∅).get? key =
      if key ∈ said.map Prod.fst then some (saidOf said key % (maxCount + 1)) else none := by
    rw [get?_foldl_addSaid]
    change (if _ then some ((0 + _) % _) else none) = _
    rw [Nat.zero_add]
  constructor
  · intro key
    rw [SortedMap.contains, hget]
    split_ifs with hkey
    · exact iff_of_true rfl hkey
    · exact iff_of_false Bool.false_ne_true hkey
  · intro key hkey hfits
    rw [hget, if_pos hkey, Nat.mod_eq_of_lt (by omega)]

/-- **The counts of an answer add up what it says**; without any, it says nothing. -/
theorem sumsUp_facetCounts? (answer : Answer) :
    SumsUp (Reply.said (.ok answer)) (answer.facetCounts?.getD ∅) := by
  have hnothing : SumsUp [] ∅ := sumsUp_foldl_addSaid []
  rw [Answer.facetCounts?, Reply.said, Answer.last?]
  split_ifs with hfew
  · split <;> [exact hnothing; (split <;> exact hnothing)]
  cases answer.sets.getLast? with
  | none => exact hnothing
  | some set =>
    dsimp only
    rw [ResultSet.countsBy]
    split_ifs with hrows
    · -- without rows nothing is said, whether or not there is a column of counts
      rw [List.isEmpty_iff] at hrows
      rw [hrows]
      split <;> exact hnothing
    · cases hcolumn : set.countIndex? with
      | none => exact hnothing
      | some countColumn =>
        dsimp only
        rw [foldl_addRow_eq]
        exact sumsUp_foldl_addSaid _

namespace Planner

variable {σ : Type}

/-! ### Taxonomy by taxonomy -/

/-- What is asked for the counts of a taxonomy; nothing without a field for it. -/
def facetText? (planner : Planner) (limit : Nat) (filter : Filter) (taxonomy : String) :
    Option String :=
  (planner.schema.facetField? taxonomy).map fun field =>
    (planner.facet (filter.withoutTaxonomy taxonomy) field limit).render

/-- What an engine with these replies says of a taxonomy, if it is asked. -/
def facetSaid (planner : Planner) (reply : String → Reply) (limit : Nat) (filter : Filter)
    (taxonomy : String) : List (Int × Nat) :=
  match planner.facetText? limit filter taxonomy with
  | none => []
  | some statement => (reply statement).said

variable {engine : Engine σ} {reply : String → Reply}

/-- The counts of one taxonomy are those of the reply to its statement. -/
theorem sumsUp_facetCounts (h : engine.RepliesBy reply) (planner : Planner) (limit : Nat)
    (filter : Filter) (taxonomy : String) (s : Witnessed σ) :
    SumsUp (planner.facetSaid reply limit filter taxonomy)
      (planner.facetCounts engine.witnessed.execute limit (filter.withoutTaxonomy taxonomy) taxonomy
        s).1.counts := by
  rw [facetSaid, facetText?]
  unfold facetCounts
  cases planner.schema.facetField? taxonomy with
  | none => exact sumsUp_foldl_addSaid []
  | some field =>
    dsimp only [Option.map_some]
    rw [← h _ s.inner]
    rcases hreply : engine.execute
      (planner.facet (filter.withoutTaxonomy taxonomy) field limit).render s.inner with
      ⟨reply, inner⟩
    simp only [bind, StateT.bind, Engine.witnessed, hreply]
    cases reply with
    | error fault => exact sumsUp_foldl_addSaid []
    | ok answer =>
      have hanswer := sumsUp_facetCounts? answer
      dsimp only
      cases hcounts : answer.facetCounts? <;> rw [hcounts] at hanswer <;> exact hanswer

/-- **The counts of several taxonomies** come in the order of the list, each those of the reply to
its own statement. -/
theorem facetCountsFor_forall (h : engine.RepliesBy reply) (planner : Planner) (limit : Nat)
    (filter : Filter) (taxonomies : List String) (s : Witnessed σ) :
    ((planner.facetCountsFor engine.witnessed.execute limit filter taxonomies s).1.map Prod.fst =
        taxonomies) ∧
      ∀ entry ∈ (planner.facetCountsFor engine.witnessed.execute limit filter taxonomies s).1,
        SumsUp (planner.facetSaid reply limit filter entry.1) entry.2.counts := by
  induction taxonomies generalizing s with
  | nil => exact ⟨rfl, nofun⟩
  | cons taxonomy taxonomies ih =>
    have hone := sumsUp_facetCounts h planner limit filter taxonomy s
    rcases hcounts : planner.facetCounts engine.witnessed.execute limit
      (filter.withoutTaxonomy taxonomy) taxonomy s with ⟨counts, after⟩
    rw [hcounts] at hone
    have hcons : (planner.facetCountsFor engine.witnessed.execute limit filter
        (taxonomy :: taxonomies) s).1 =
          (taxonomy, counts) ::
            (planner.facetCountsFor engine.witnessed.execute limit filter taxonomies after).1 := by
      rw [facetCountsFor, List.mapM_cons]
      simp only [bind, StateT.bind, hcounts]
      rfl
    obtain ⟨hnames, hsums⟩ := ih after
    rw [hcons, List.map_cons, hnames]
    exact ⟨rfl, List.forall_mem_cons.2 ⟨hone, hsums⟩⟩

/-- A look-up among counts that are told apart by their taxonomies finds the last of a taxonomy. -/
theorem get?_countsByTaxonomy (counted : List (String × FacetCounts)) (taxonomy : String) :
    (countsByTaxonomy counted).get? taxonomy =
      (counted.reverse.find? fun entry => entry.1 = taxonomy).map fun entry => entry.2.counts := by
  rw [countsByTaxonomy, SortedMap.ofList, SortedMap.get?_foldl_insert, SortedMap.get?_empty,
    Option.or_none, ← List.map_reverse, List.find?_map, Option.map_map]
  rfl

/-- **One round trip for each taxonomy, and none that disturbs another.** The engine is asked once
for each taxonomy of the list that has a field, in the order of the list, and for no other. There
are counts of exactly the taxonomies of the list, and they add up what the reply to the taxonomy's
own statement says; where it says nothing, or there is none, they are empty. -/
theorem facetCountsFor_isolated (h : engine.RepliesBy reply) (planner : Planner) (limit : Nat)
    (filter : Filter) (taxonomies : List String) (s : Witnessed σ) :
    ∃ counted after,
      planner.facetCountsFor engine.witnessed.execute limit filter taxonomies s = (counted, after) ∧
        after.executed = s.executed ++ taxonomies.filterMap (planner.facetText? limit filter) ∧
        (∀ taxonomy, (countsByTaxonomy counted).contains taxonomy = true ↔ taxonomy ∈ taxonomies) ∧
        ∀ taxonomy counts, (countsByTaxonomy counted).get? taxonomy = some counts →
          SumsUp (planner.facetSaid reply limit filter taxonomy) counts ∧
            (planner.facetSaid reply limit filter taxonomy = [] → counts = ∅) := by
  have hexecuted := executed_facetCountsFor planner engine limit filter taxonomies s
  obtain ⟨hnames, hsums⟩ := facetCountsFor_forall h planner limit filter taxonomies s
  rcases hrun : planner.facetCountsFor engine.witnessed.execute limit filter taxonomies s with
    ⟨counted, after⟩
  rw [hrun] at hexecuted hnames hsums
  refine ⟨counted, after, rfl, hexecuted, ?_, ?_⟩
  · intro taxonomy
    rw [SortedMap.contains, get?_countsByTaxonomy, Option.isSome_map, List.find?_isSome, ← hnames]
    simp only [List.mem_reverse, List.mem_map, decide_eq_true_eq]
  · intro taxonomy counts hget
    rw [get?_countsByTaxonomy, Option.map_eq_some_iff] at hget
    obtain ⟨entry, hfind, rfl⟩ := hget
    have hname : entry.1 = taxonomy := by simpa using List.find?_some hfind
    have hsum := hsums entry (List.mem_reverse.1 (List.mem_of_find?_eq_some hfind))
    rw [hname] at hsum
    refine ⟨hsum, fun hnothing => ?_⟩
    rw [hnothing] at hsum
    exact hsum.eq_empty

/-- A reply with counts for the colors, some of which cannot be read, and none to anything else. -/
def patchyReply (statement : String) : Reply :=
  if Catalog.mentions statement "FACET pa_color_ids" then
    .ok ⟨[⟨["id"], [[.whole 812]]⟩,
      ⟨["pa_color_ids", "COUNT(*)"],
        [[.whole 5, .whole 2], [.text "red", .whole 9], [.text " 5 ", .text "3"], [.whole 7],
          [.whole 8, .whole (-4)]]⟩]⟩
  else .error (.unreachable "connection reset")

/-- An engine that replies so, and counts how often it is spoken to. -/
def patchyEngine : Engine Nat where
  execute statement := fun n => (patchyReply statement, n + 1)
  probe := fun n => (true, n + 1)

/-- Colors, brands without a field, categories and colors again: three statements, and of the colors
what can be read. -/
theorem facetCountsFor_patchyEngine :
    patchyEngine.RepliesBy patchyReply ∧
      ∃ counted after,
        coloredProducts.facetCountsFor patchyEngine.witnessed.execute 50 .products
            ["pa_color", "brand", "product_cat", "pa_color"] ⟨0, [], 0⟩ = (counted, after) ∧
          after.executed.length = 3 ∧
          (countsByTaxonomy counted).contains "brand" = true ∧
          ∀ counts, (countsByTaxonomy counted).get? "pa_color" = some counts →
            counts.get? 5 = some 5 ∧ counts.get? 8 = some 0 ∧ counts.contains 7 = false := by
  have hreplies : patchyEngine.RepliesBy patchyReply := fun _ _ => rfl
  obtain ⟨counted, after, hrun, hexecuted, hnames, hcounts⟩ :=
    facetCountsFor_isolated hreplies coloredProducts 50 .products
      ["pa_color", "brand", "product_cat", "pa_color"] ⟨0, [], 0⟩
  refine ⟨hreplies, counted, after, hrun, ?_, (hnames "brand").2 (by decide), ?_⟩
  · rw [hexecuted]
    decide +kernel
  · intro counts hget
    obtain ⟨hsum, -⟩ := hcounts "pa_color" counts hget
    have hsaid : coloredProducts.facetSaid patchyReply 50 .products "pa_color" =
        [(5, 2), (5, 3), (8, 0)] := by decide +kernel
    rw [hsaid] at hsum
    refine ⟨hsum.get?_eq 5 (by decide) (by decide), hsum.get?_eq 8 (by decide) (by decide), ?_⟩
    rw [Bool.eq_false_iff, ne_eq, hsum.contains_iff]
    decide

end Planner

end Storefront
