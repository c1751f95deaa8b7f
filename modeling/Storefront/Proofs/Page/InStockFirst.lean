import Storefront.Proofs.Engine.Serving

/-!
# Everything in stock first, across all pages

Where everything in stock has to come first, the pages of a search are slices of one sequence: the
documents in stock in the engine's order, then all others in the engine's order
(`inStockFirst`). Nobody ever fetches that sequence. What is fetched are parts of its two halves, and
which parts is decided by two numbers; that the parts put together are the slice is a fact about
lists (`slice_append`, with a form for each way in which a page can lie across the two halves), and
it needs the numbers to be those of the halves, which is what is read of the counts by status.

The result is `inStockFirstPage_refines`: every page is the slice that it should be, its total is that
of the plain page, it takes three statements at most, and all pages one after another are the
sequence.
-/

namespace Storefront

open Number Sql

/-! ### Slices -/

/-- **The slice of two lists one after the other** is a slice of the first, and what is missing of it
from the second. -/
theorem slice_append {α : Type} (xs ys : List α) (offset size : Nat) :
    ((xs ++ ys).drop offset).take size =
      (xs.drop offset).take size ++ (ys.drop (offset - xs.length)).take (size - (xs.length - offset)) := by
  rw [List.drop_append, List.take_append, List.length_drop]

section Slices

variable {α : Type} {xs ys : List α} {offset size : Nat}

/-- A slice that runs over from the first list into the second. -/
theorem slice_append_across (h : offset < xs.length) :
    ((xs ++ ys).drop offset).take size =
      (xs.drop offset).take size ++ (ys.drop 0).take (size - (xs.length - offset)) := by
  rw [slice_append, Nat.sub_eq_zero_of_le h.le]

/-- A slice that ends within the first list, because it is full or there is no second. -/
theorem slice_append_within (h : size ≤ xs.length - offset ∨ ys.length = 0) :
    ((xs ++ ys).drop offset).take size = (xs.drop offset).take size := by
  have hnothing : (ys.drop (offset - xs.length)).take (size - (xs.length - offset)) = [] := by
    rw [← List.length_eq_zero_iff, List.length_take, List.length_drop]
    omega
  rw [slice_append, hnothing, List.append_nil]

/-- A slice that begins behind the first list. -/
theorem slice_append_behind (h : xs.length ≤ offset) :
    ((xs ++ ys).drop offset).take size = (ys.drop (offset - xs.length)).take size := by
  rw [slice_append, List.drop_eq_nil_of_le h, List.take_nil, List.nil_append,
    Nat.sub_eq_zero_of_le h, Nat.sub_zero]

end Slices

/-- **All slices of one size**, one after the other, are the list. -/
theorem flatMap_slices {α : Type} (xs : List α) (size count : Nat) (h : xs.length ≤ count * size) :
    (List.range count).flatMap (fun k => (xs.drop (k * size)).take size) = xs := by
  have hslices (n : Nat) :
      (List.range n).flatMap (fun k => (xs.drop (k * size)).take size) = xs.take (n * size) := by
    induction n with
    | zero => simp
    | succ n ih => rw [List.range_succ, List.flatMap_append, ih, Nat.succ_mul, List.take_add,
        List.flatMap_singleton]
  rw [hslices, List.take_of_length_le h]

/-! ### Rows of a page -/

namespace PageRows

theorem ids_addRows (rows : List (Int × Option Binary64)) (page : PageRows) :
    (page.addRows rows).ids = page.ids ++ rows.map Prod.fst := by
  induction rows generalizing page with
  | nil => simp [addRows]
  | cons row rows ih =>
    rw [addRows, List.foldl_cons, ← addRows, ih]
    simp [addRow]

theorem total_addRows (rows : List (Int × Option Binary64)) (page : PageRows) :
    (page.addRows rows).total = page.total := by
  induction rows generalizing page with
  | nil => rfl
  | cons row rows ih =>
    rw [addRows, List.foldl_cons, ← addRows, ih]
    rfl

end PageRows

theorem map_fst_read (scored : Bool) (documents : List Match) :
    (documents.map (Match.read scored)).map Prod.fst = documents.map Match.id := by
  rw [List.map_map]
  rfl

/-! ### What the engine serves -/

/-- The documents with everything in stock first, the two halves each in the engine's order. -/
def inStockFirst (found : List Match) : List Match :=
  found.filter Match.inStock ++ found.filter fun document => !document.inStock

theorem length_halves (found : List Match) :
    (halfOf (some .inStock) found).length + (halfOf (some .otherwise) found).length =
      found.length := by
  have hsplit := List.length_eq_countP_add_countP (l := found) Match.inStock
  simp only [Bool.not_eq_true, Bool.decide_eq_false] at hsplit
  rw [halfOf, halfOf, ← List.countP_eq_length_filter, ← List.countP_eq_length_filter, hsplit]

/-- An exchange in which the documents of a filter are served. -/
def Exchange.Served (planner : Planner) (filter : Filter) (found : List Match)
    (exchange : Exchange) : Prop :=
  planner.Fetches filter exchange.statement → ∃ answer, exchange.reply = .ok answer ∧
    Answers (planner.conditions filter none) found exchange.statement answer

section Course

variable {planner : Planner} {filter : Filter} {found : List Match} {exchanges : List Exchange}

/-- Where documents are served, a question for a page is answered, and its answer read. -/
theorem Dialogue.Course.of_served {α β : Type} {statement : Statement}
    {reader : Answer → Except EngineFault β} {next : β → Dialogue α} {result : Except EngineFault α}
    (h : (Dialogue.read statement reader next).Course exchanges result)
    (hserved : ∀ exchange ∈ exchanges, exchange.Served planner filter found)
    (hfetches : planner.Fetches filter statement) {value : β}
    (hreader : ∀ answer, Answers (planner.conditions filter none) found statement answer →
      reader answer = .ok value) :
    ∃ first rest, exchanges = first :: rest ∧ (next value).Course rest result := by
  rcases h.of_read with ⟨fault, rfl, -⟩ | ⟨answer, fault, hfault, rfl, -⟩ |
    ⟨answer, read, rest, hread, rfl, hrest⟩
  · obtain ⟨answer, hreply, -⟩ := hserved _ (List.mem_singleton_self _) hfetches
    exact absurd hreply nofun
  · obtain ⟨other, hreply, hanswer⟩ := hserved _ (List.mem_singleton_self _) hfetches
    obtain rfl := Except.ok.inj hreply
    rw [hreader _ hanswer] at hfault
    exact absurd hfault nofun
  · obtain ⟨other, hreply, hanswer⟩ := hserved _ List.mem_cons_self hfetches
    obtain rfl := Except.ok.inj hreply
    rw [hreader _ hanswer] at hread
    obtain rfl := Except.ok.inj hread
    exact ⟨_, rest, rfl, hrest⟩

/-- **A page in the engine's order** is the slice of the documents that it should be. -/
theorem rankedDialogue_served (hcount : found.length ≤ maxCount) (hsize : 1 ≤ filter.pageSize)
    {result : Except EngineFault PageRows}
    (h : (planner.rankedDialogue filter).Course exchanges result)
    (hserved : ∀ exchange ∈ exchanges, exchange.Served planner filter found) :
    ∃ page, result = .ok page ∧
      page.ids = ((found.drop filter.offset).take filter.pageSize).map Match.id ∧
      page.total = found.length := by
  obtain ⟨first, rest, rfl, hrest⟩ := h.of_served hserved (.page none filter.offset filter.pageSize)
    fun _ hanswer => hanswer.scoredIds hcount
  obtain ⟨second, last, rfl, hlast⟩ := hrest.of_served
    (fun exchange hexchange => hserved exchange (List.mem_cons_of_mem _ hexchange)) .count
    fun _ hanswer => hanswer.total
  cases hlast
  refine ⟨_, rfl, ?_, rfl⟩
  rw [PageRows.ids_addRows, map_fst_read, Nat.max_eq_left hsize]
  rfl

/-- **A page with everything in stock first** is the slice that it should be. -/
theorem inStockFirstDialogue_served (hcount : found.length ≤ maxCount)
    (hsize : 1 ≤ filter.pageSize) {result : Except EngineFault PageRows}
    (h : (planner.inStockFirstDialogue filter).Course exchanges result)
    (hserved : ∀ exchange ∈ exchanges, exchange.Served planner filter found) :
    ∃ page, result = .ok page ∧
      page.ids = (((inStockFirst found).drop filter.offset).take filter.pageSize).map Match.id ∧
      page.total = found.length ∧ exchanges.length = page.roundTrips := by
  obtain ⟨first, rest, rfl, hrest⟩ := h.of_served hserved .countByStock
    fun _ hanswer => hanswer.stockHalves hcount
  have hserved := (List.forall_mem_cons.1 hserved).2
  have htotal : addCounts (halfOf (some .inStock) found).length
      (halfOf (some .otherwise) found).length = found.length := by
    rw [addCounts, length_halves]
    exact Nat.mod_eq_of_lt (by omega)
  have hsequence : inStockFirst found =
      halfOf (some .inStock) found ++ halfOf (some .otherwise) found := rfl
  simp only [Planner.halvesDialogue, Nat.max_eq_left hsize, htotal] at hrest
  rw [hsequence]
  split_ifs at hrest with hin hothers
  · -- the page begins in stock
    obtain ⟨second, rest, rfl, hsecond⟩ := hrest.of_served hserved
      (.page (some .inStock) filter.offset filter.pageSize) fun _ hanswer => hanswer.scoredIds hcount
    have hserved := (List.forall_mem_cons.1 hserved).2
    simp only [Nat.max_eq_left hsize, List.length_map, List.length_take, List.length_drop]
      at hsecond
    split_ifs at hsecond with hshort
    · -- and runs over into the others
      rw [Bool.and_eq_true, decide_eq_true_eq, decide_eq_true_eq] at hshort
      obtain ⟨third, rest, rfl, hthird⟩ := hsecond.of_served hserved (.page (some .otherwise) 0 _)
        fun _ hanswer => hanswer.scoredIds hcount
      cases hthird
      have hmissing : max (filter.pageSize -
          min filter.pageSize ((halfOf (some .inStock) found).length - filter.offset)) 1 =
            filter.pageSize - ((halfOf (some .inStock) found).length - filter.offset) := by
        omega
      refine ⟨_, rfl, ?_, ?_, rfl⟩
      · rw [slice_append_across hin, PageRows.ids_addRows, PageRows.ids_addRows, map_fst_read,
          map_fst_read, hmissing, List.map_append]
        rfl
      · rw [PageRows.total_addRows]
        exact PageRows.total_addRows _ _
    · -- and ends there, because it is full or there are no others
      cases hsecond
      rw [Bool.and_eq_true, decide_eq_true_eq, decide_eq_true_eq] at hshort
      refine ⟨_, rfl, ?_, PageRows.total_addRows _ _, rfl⟩
      rw [slice_append_within (by omega), PageRows.ids_addRows, map_fst_read]
      rfl
  · -- the page begins among the others
    obtain ⟨second, rest, rfl, hsecond⟩ := hrest.of_served hserved
      (.page (some .otherwise) _ filter.pageSize) fun _ hanswer => hanswer.scoredIds hcount
    cases hsecond
    refine ⟨_, rfl, ?_, PageRows.total_addRows _ _, rfl⟩
    rw [slice_append_behind (Nat.le_of_not_lt hin), PageRows.ids_addRows, map_fst_read,
      Nat.max_eq_left hsize]
    rfl
  · -- the page begins behind the last match
    cases hrest
    refine ⟨_, rfl, ?_, rfl, rfl⟩
    rw [slice_append_behind (Nat.le_of_not_lt hin),
      List.drop_eq_nil_of_le (Nat.le_of_not_lt hothers), List.take_nil]
    rfl

end Course

/-! ### Runs -/

/-- The filter at another page. -/
def Filter.atPage (filter : Filter) (number : Nat) : Filter :=
  { filter with page := number }

section Run

variable {σ : Type} {engine : Engine σ} {planner : Planner} {filter : Filter} {found : List Match}

/-- Which page is asked for makes no difference to what is served. -/
theorem Engine.Serves.atPage (h : engine.Serves planner filter found) (number : Nat) :
    engine.Serves planner (filter.atPage number) found := by
  intro statement s hfetches
  refine h statement s ?_
  cases hfetches with
  | page half offset limit => exact .page half offset limit
  | count => exact .count
  | countByStock => exact .countByStock

/-- A record of what the engine is asked does not change what it serves. -/
theorem Engine.Serves.served (h : engine.Serves planner filter found) {s last : Witnessed σ}
    {exchanges : List Exchange}
    (hasked : Dialogue.Asked engine.witnessed.asking s exchanges last) :
    ∀ exchange ∈ exchanges, exchange.Served planner filter found :=
  hasked.forall_mem fun statement s hfetches => h statement s.inner hfetches

/-- The record has one statement more for each exchange. -/
theorem length_executed {s last : Witnessed σ} {exchanges : List Exchange}
    (hasked : Dialogue.Asked engine.witnessed.asking s exchanges last) :
    last.executed.length = s.executed.length + exchanges.length := by
  induction hasked with
  | nil s => rfl
  | @cons s next last statement reply exchanges hstep _ ih =>
    have hnext : next.executed = s.executed ++ [statement.render] := by
      rw [← (Prod.mk.inj hstep).2]
    rw [ih, hnext, List.length_append, List.length_singleton, List.length_cons]
    omega

/-- A page in the engine's order, fetched from an engine that serves the documents. -/
theorem rankedPage_served (h : engine.Serves planner filter found)
    (hcount : found.length ≤ maxCount) (hsize : 1 ≤ filter.pageSize) (number : Nat)
    (world : Witnessed σ) :
    ∃ page after,
      (planner.rankedPage engine.witnessed.asking (filter.atPage number)).run world =
          (.ok page, after) ∧
        page.ids = ((found.drop ((number - 1) * filter.pageSize)).take filter.pageSize).map Match.id ∧
        page.total = found.length := by
  have hpage : 1 ≤ (filter.atPage number).pageSize := hsize
  rw [Planner.rankedPage_eq_run]
  obtain ⟨exchanges, hcourse, hasked⟩ := Dialogue.exists_course engine.witnessed.asking
    (planner.rankedDialogue (filter.atPage number)) world
  obtain ⟨page, hresult, hids, htotal⟩ := rankedDialogue_served hcount hpage hcourse
    ((h.atPage number).served hasked)
  exact ⟨page, _, Prod.ext hresult rfl, hids, htotal⟩

/-- A page with everything in stock first, fetched from an engine that serves the documents. -/
theorem inStockFirstPage_served (h : engine.Serves planner filter found)
    (hcount : found.length ≤ maxCount) (hsize : 1 ≤ filter.pageSize) (number : Nat)
    (world : Witnessed σ) :
    ∃ page after,
      (planner.inStockFirstPage engine.witnessed.asking (filter.atPage number)).run world =
          (.ok page, after) ∧
        page.ids = (((inStockFirst found).drop ((number - 1) * filter.pageSize)).take
          filter.pageSize).map Match.id ∧
        page.total = found.length ∧
        after.executed.length = world.executed.length + page.roundTrips ∧ page.roundTrips ≤ 3 := by
  have hpage : 1 ≤ (filter.atPage number).pageSize := hsize
  rw [Planner.inStockFirstPage_eq_run]
  obtain ⟨exchanges, hcourse, hasked⟩ := Dialogue.exists_course engine.witnessed.asking
    (planner.inStockFirstDialogue (filter.atPage number)) world
  obtain ⟨page, hresult, hids, htotal, hlength⟩ := inStockFirstDialogue_served hcount hpage hcourse
    ((h.atPage number).served hasked)
  have hthree := hcourse.length_le (planner.inStockFirstDialogue_careful (filter.atPage number))
  refine ⟨page, _, Prod.ext hresult rfl, hids, htotal, ?_, hlength ▸ hthree⟩
  rw [length_executed hasked, hlength]

end Run

/-! ### Page after page -/

/-- Steps that succeed one after the other, whatever the state, succeed together. -/
theorem mapM_run {S β γ : Type} {step : β → ExceptT EngineFault (StateM S) γ} {P : β → γ → Prop}
    (h : ∀ b s, ∃ c last, (step b).run s = (.ok c, last) ∧ P b c) (bs : List β) (s : S) :
    ∃ cs last, (bs.mapM step).run s = (.ok cs, last) ∧ List.Forall₂ P bs cs := by
  induction bs generalizing s with
  | nil => exact ⟨[], s, rfl, .nil⟩
  | cons b bs ih =>
    obtain ⟨c, next, hstep, hc⟩ := h b s
    obtain ⟨cs, last, hrest, hcs⟩ := ih next
    refine ⟨c :: cs, last, ?_, .cons hc hcs⟩
    rw [List.mapM_cons, ExceptT.run_bind]
    change StateT.bind (step b).run _ s = _
    rw [StateT.bind, hstep]
    change ((bs.mapM step >>= fun cs => pure (c :: cs)) : ExceptT _ _ _).run next = _
    rw [ExceptT.run_bind]
    change StateT.bind (bs.mapM step).run _ next = _
    rw [StateT.bind, hrest]
    rfl

/-- The pages of a list, put together again. -/
theorem flatMap_ids {documents : List Match} {size count : Nat} {pages : List PageRows}
    (h : documents.length ≤ count * size)
    (hpages : List.Forall₂ (fun k (page : PageRows) =>
      page.ids = ((documents.drop (k * size)).take size).map Match.id) (List.range count) pages) :
    pages.flatMap PageRows.ids = documents.map Match.id := by
  have hids : pages.map PageRows.ids = (List.range count).map fun k =>
      ((documents.drop (k * size)).take size).map Match.id := by
    generalize List.range count = ks at hpages
    induction hpages with
    | nil => rfl
    | cons hpage _ ih => rw [List.map_cons, List.map_cons, hpage, ih]
  calc pages.flatMap PageRows.ids
      = (pages.map PageRows.ids).flatten := List.flatMap_def
    _ = (List.range count).flatMap fun k =>
          ((documents.drop (k * size)).take size).map Match.id := by rw [hids, List.flatMap_def]
    _ = ((List.range count).flatMap fun k => (documents.drop (k * size)).take size).map Match.id :=
          (List.map_flatMap ..).symm
    _ = documents.map Match.id := by rw [flatMap_slices documents size count h]

/-- **Paging with everything in stock first.** Of an engine that serves the documents `found` for a
filter, every page is the slice of the documents with everything in stock first that its number
asks for, its total is the number of documents and the total of the plain page, and it takes the
three statements at most that it accounts for. As many pages as hold all documents are, one after the
other, the documents of the plain pages with everything in stock first. -/
theorem inStockFirstPage_refines {σ : Type} {engine : Engine σ} {planner : Planner}
    {filter : Filter} {found : List Match} (hserves : engine.Serves planner filter found)
    (hcount : found.length ≤ maxCount) (hsize : 1 ≤ filter.pageSize) :
    (∀ (number : Nat) (world : Witnessed σ), ∃ page after ranked,
      (planner.inStockFirstPage engine.witnessed.asking (filter.atPage number)).run world =
          (.ok page, after) ∧
        page.ids = (((inStockFirst found).drop ((number - 1) * filter.pageSize)).take
          filter.pageSize).map Match.id ∧
        page.total = found.length ∧
        after.executed.length = world.executed.length + page.roundTrips ∧ page.roundTrips ≤ 3 ∧
        ((planner.rankedPage engine.witnessed.asking (filter.atPage number)).run world).1 =
          .ok ranked ∧
        ranked.total = page.total) ∧
      ∀ (count : Nat) (world : Witnessed σ), found.length ≤ count * filter.pageSize →
        ∃ pages ranked,
          (((List.range count).mapM fun k => planner.inStockFirstPage engine.witnessed.asking
              (filter.atPage (k + 1))).run world).1 = .ok pages ∧
            (((List.range count).mapM fun k => planner.rankedPage engine.witnessed.asking
              (filter.atPage (k + 1))).run world).1 = .ok ranked ∧
            ranked.flatMap PageRows.ids = found.map Match.id ∧
            pages.flatMap PageRows.ids = (inStockFirst found).map Match.id := by
  constructor
  · intro number world
    obtain ⟨page, after, hrun, hids, htotal, hexecuted, hthree⟩ :=
      inStockFirstPage_served hserves hcount hsize number world
    obtain ⟨ranked, last, hranked, -, hrankedTotal⟩ :=
      rankedPage_served hserves hcount hsize number world
    exact ⟨page, after, ranked, hrun, hids, htotal, hexecuted, hthree, congrArg Prod.fst hranked,
      hrankedTotal.trans htotal.symm⟩
  · intro count world hall
    obtain ⟨pages, last, hrun, hpages⟩ := mapM_run
      (P := fun k (page : PageRows) => page.ids = (((inStockFirst found).drop (k * filter.pageSize)).take
        filter.pageSize).map Match.id)
      (fun k s => by
        obtain ⟨page, after, hrun, hids, -⟩ :=
          inStockFirstPage_served hserves hcount hsize (k + 1) s
        exact ⟨page, after, hrun, hids⟩) (List.range count) world
    obtain ⟨ranked, end_, hranked, hrankedPages⟩ := mapM_run
      (P := fun k (page : PageRows) => page.ids = ((found.drop (k * filter.pageSize)).take
        filter.pageSize).map Match.id)
      (fun k s => by
        obtain ⟨page, after, hrun, hids, -⟩ := rankedPage_served hserves hcount hsize (k + 1) s
        exact ⟨page, after, hrun, hids⟩) (List.range count) world
    have hlength : (inStockFirst found).length = found.length := by
      rw [inStockFirst, List.length_append]
      exact length_halves found
    exact ⟨pages, ranked, congrArg Prod.fst hrun, congrArg Prod.fst hranked,
      flatMap_ids hall hrankedPages, flatMap_ids (hlength ▸ hall) hpages⟩

/-- Five documents, two of them in stock, one without a status and one with an empty one. -/
def shelf : List Match :=
  [⟨11, some "outofstock", .whole 9⟩, ⟨12, some "instock", .whole 7⟩, ⟨13, none, .whole 7⟩,
    ⟨14, some "", .text "5"⟩, ⟨15, some "instock", .null⟩]

/-- The five documents on pages of three: the first page runs over from stock into the others. -/
theorem pages_of_shelf :
    ∃ pages ranked,
      (((List.range 2).mapM fun k => Planner.products.inStockFirstPage
          (Engine.serving .products { Filter.products with pageSize := 3 } shelf).witnessed.asking
          (Filter.atPage { Filter.products with pageSize := 3 } (k + 1))).run
            ⟨(), [], 0⟩).1 = .ok pages ∧
        (((List.range 2).mapM fun k => Planner.products.rankedPage
          (Engine.serving .products { Filter.products with pageSize := 3 } shelf).witnessed.asking
          (Filter.atPage { Filter.products with pageSize := 3 } (k + 1))).run
            ⟨(), [], 0⟩).1 = .ok ranked ∧
        ranked.flatMap PageRows.ids = [11, 12, 13, 14, 15] ∧
        pages.flatMap PageRows.ids = [12, 15, 11, 13, 14] :=
  (inStockFirstPage_refines (Engine.serves_serving _ _ shelf) (by decide) (by decide)).2 2
    ⟨(), [], 0⟩ (by decide)

end Storefront
