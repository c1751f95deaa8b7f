import Mathlib
import Storefront.Proofs.Planner.Recovery

/-!
# Engines that serve documents

What an engine answers is its own affair, but of an engine that *serves* the documents that match a
filter one knows what to expect. A page is the part that is asked for of the documents that satisfy
the condition of its half, after the engine has cut them off at its window; a count is their number;
and counts by stock status have one row for each status, in any order, documents without a status
in a row of their own (`Engine.Serves`, by way of `Answers`).

The tables are read back leniently, so what is read has to be followed through the cells: pages
(`Answers.scoredIds`), counts (`Answers.total`) and, where rows of several statuses are added up, the
numbers of matches in stock and of all others (`Answers.stockHalves`).
-/

namespace Storefront

open Number Sql

/-! ### Documents -/

/-- A document that matches a filter, as far as its pages show it. -/
structure Match where
  id : Int
  /-- The stock status, if the document has one. -/
  stock : Option String
  /-- The cell with its relevance. -/
  relevance : Cell

namespace Match

/-- Whether the document is in stock; without a status it is not. -/
def inStock (document : Match) : Bool :=
  document.stock = some StockStatus.inStock.text

/-- Whether the document satisfies a condition on its stock status. Without a status it has none of
any, and differs from every one. -/
def satisfies (document : Match) : Condition → Bool
  | .textAmong _ values => document.stock.any fun status => status ∈ values
  | .textDiffers _ value => document.stock ≠ some value
  | _ => true

/-- The document as a row of a page. -/
def row (scored : Bool) (document : Match) : List Cell :=
  if scored then [.whole document.id, document.relevance] else [.whole document.id]

/-- What is read of the row. -/
def read (scored : Bool) (document : Match) : Int × Option Binary64 :=
  (document.id, if scored then document.relevance.number? else none)

end Match

/-- One half of the documents, or all of them. -/
def halfOf (half : Option StockHalf) (found : List Match) : List Match :=
  match half with
  | none => found
  | some .inStock => found.filter Match.inStock
  | some .otherwise => found.filter fun document => !document.inStock

/-- The halves are what their conditions make of the documents. -/
theorem filter_satisfies (half : Option StockHalf) (found : List Match) :
    (found.filter fun document => (Planner.halfCondition half).all document.satisfies) =
      halfOf half found := by
  match half with
  | none => simp [Planner.halfCondition, halfOf]
  | some .inStock =>
    refine List.filter_congr fun document _ => ?_
    cases hstock : document.stock <;>
      simp [Planner.halfCondition, Match.satisfies, Match.inStock, hstock]
  | some .otherwise =>
    refine List.filter_congr fun document _ => ?_
    simp [Planner.halfCondition, Match.satisfies, Match.inStock]

/-! ### Answers -/

/-- The names of a page's columns. -/
def pageColumns (scored : Bool) : List String :=
  if scored then ["id", "relevance"] else ["id"]

/-- The cell of a stock status. -/
def statusCell : Option String → Cell
  | some status => .text status
  | none => .null

/-- **What an engine answers** that has found the documents `found` for the conditions `base` of a
filter. -/
inductive Answers (base : List Condition) (found : List Match) : Statement → Answer → Prop
  /-- Of the documents that satisfy the conditions behind those of the filter, the engine ranks as
  many as its window holds, passes over `offset` of them and returns `rows`. -/
  | page (index : String) (stock : List Condition) (scored : Bool) (order : SortOrder)
    (offset rows window : Nat) (ranking : Option Ranking) :
    Answers base found (.page index (base ++ stock) scored order offset rows window ranking)
      (.single ⟨pageColumns scored,
        ((((found.filter fun document => stock.all document.satisfies).take window).drop offset).take
          rows).map (Match.row scored)⟩)
  | count (index : String) :
    Answers base found (.count index base) (.single ⟨["count(*)"], [[.whole found.length]]⟩)
  /-- One row for each status that some document has, in any order. -/
  | countByStock (index : String) (statuses : List (Option String)) (distinct : statuses.Nodup)
    (all : ∀ status, status ∈ statuses ↔ ∃ document ∈ found, document.stock = status) :
    Answers base found (.countByStock index base)
      (.single ⟨["stock_status", "cnt"], statuses.map fun status =>
        [statusCell status, .whole (found.countP fun document => document.stock = status)]⟩)

/-- The statements that pages of a filter are made of. -/
inductive Planner.Fetches (planner : Planner) (filter : Filter) : Statement → Prop
  | page (half : Option StockHalf) (offset limit : Nat) :
    Fetches planner filter (planner.page filter half offset limit)
  | count : Fetches planner filter (planner.count filter none)
  | countByStock : Fetches planner filter (planner.countByStock filter)

/-- No other statement is asked for a page. -/
theorem Planner.pageDialogue_asksOnly (planner : Planner) (filter : Filter) :
    (planner.pageDialogue filter).AsksOnly (planner.Fetches filter) := by
  rw [pageDialogue]
  split_ifs
  · refine .of_read .countByStock fun halves => ?_
    obtain ⟨inStock, others⟩ := halves
    simp only [halvesDialogue]
    split_ifs
    · refine .of_read (.page _ _ _) fun rows => ?_
      split_ifs
      · exact .of_read (.page _ _ _) fun rest => .done _
      · exact .done _
    · exact .of_read (.page _ _ _) fun rows => .done _
    · exact .done _
  · exact .of_read (.page none _ _) fun rows => .of_read .count fun total => .done _

/-- **An engine that serves the documents of a filter**, whatever state it is in. -/
def Engine.Serves {σ : Type} (engine : Engine σ) (planner : Planner) (filter : Filter)
    (found : List Match) : Prop :=
  ∀ (statement : Statement) (s : σ), planner.Fetches filter statement →
    ∃ answer, (engine.execute statement.render s).1 = .ok answer ∧
      Answers (planner.conditions filter none) found statement answer

/-! ### There are such engines -/

/-- **Statements that pages are made of are told apart by their texts.** -/
theorem Planner.Fetches.render_inj {planner : Planner} {filter : Filter}
    {statement other : Statement} (h : planner.Fetches filter statement)
    (hother : planner.Fetches filter other) (htext : statement.render = other.render) :
    statement = other := by
  -- a page, a count and the counts by status differ in their first column
  have hcount (back back' : String) : "SELECT id" ++ back ≠ "SELECT COUNT(*) FROM " ++ back' :=
    append_ne_append 7 (by decide) (by decide) (by decide) _ _
  have hstock (back back' : String) :
      "SELECT id" ++ back ≠ "SELECT stock_status, COUNT(*) AS cnt FROM " ++ back' :=
    append_ne_append 7 (by decide) (by decide) (by decide) _ _
  have hcounts (back back' : String) :
      "SELECT COUNT(*) FROM " ++ back ≠ "SELECT stock_status, COUNT(*) AS cnt FROM " ++ back' :=
    append_ne_append 7 (by decide) (by decide) (by decide) _ _
  cases h with
  | page half offset limit =>
    cases hother with
    | page half' offset' limit' =>
      obtain ⟨rfl, rfl, hrows⟩ := half_of_render_page htext
      rw [Planner.page, Planner.page, hrows]
    | count =>
      rw [render_page_eq, Planner.count, Statement.render_count, String.append_assoc] at htext
      exact absurd htext (hcount _ _)
    | countByStock =>
      rw [render_page_eq, Planner.countByStock, Statement.render_countByStock, String.append_assoc,
        String.append_assoc] at htext
      exact absurd htext (hstock _ _)
  | count =>
    cases hother with
    | page half' offset' limit' =>
      rw [render_page_eq, Planner.count, Statement.render_count, String.append_assoc] at htext
      exact absurd htext.symm (hcount _ _)
    | count => rfl
    | countByStock =>
      rw [Planner.count, Statement.render_count, Planner.countByStock,
        Statement.render_countByStock] at htext
      simp only [String.append_assoc] at htext
      exact absurd htext (hcounts _ _)
  | countByStock =>
    cases hother with
    | page half' offset' limit' =>
      rw [render_page_eq, Planner.countByStock, Statement.render_countByStock] at htext
      simp only [String.append_assoc] at htext
      exact absurd htext.symm (hstock _ _)
    | count =>
      rw [Planner.count, Statement.render_count, Planner.countByStock,
        Statement.render_countByStock] at htext
      simp only [String.append_assoc] at htext
      exact absurd htext.symm (hcounts _ _)
    | countByStock => rfl

/-- Every statement that pages are made of has an answer. -/
theorem Planner.Fetches.exists_answer {planner : Planner} {filter : Filter} {statement : Statement}
    (h : planner.Fetches filter statement) (found : List Match) :
    ∃ answer, Answers (planner.conditions filter none) found statement answer := by
  cases h with
  | page half offset limit =>
    rw [Planner.page, planner.conditions_half filter half]
    exact ⟨_, .page _ _ _ _ _ _ _ _⟩
  | count =>
    rw [Planner.count]
    exact ⟨_, .count _⟩
  | countByStock =>
    rw [Planner.countByStock]
    exact ⟨_, .countByStock _ (found.map Match.stock).dedup (List.nodup_dedup _) (by simp)⟩

/-- A text that is a statement for a page of the filter, with an answer to it. -/
def IsAnswered (planner : Planner) (filter : Filter) (found : List Match) (text : String)
    (answer : Answer) : Prop :=
  ∃ statement, planner.Fetches filter statement ∧ statement.render = text ∧
    Answers (planner.conditions filter none) found statement answer

open Classical in
/-- An engine that serves the documents of a filter and nothing else: it looks up which statement a
text is of. -/
noncomputable def Engine.serving (planner : Planner) (filter : Filter) (found : List Match) :
    Engine Unit :=
  .ofFunction fun text =>
    if h : ∃ answer, IsAnswered planner filter found text answer then .ok h.choose else .ok .empty

/-- **It does serve them.** -/
theorem Engine.serves_serving (planner : Planner) (filter : Filter) (found : List Match) :
    (serving planner filter found).Serves planner filter found := by
  intro statement s hfetches
  obtain ⟨answer, hanswer⟩ := hfetches.exists_answer found
  have hexists : ∃ answer, IsAnswered planner filter found statement.render answer :=
    ⟨answer, statement, hfetches, rfl, hanswer⟩
  -- the answer that is looked up belongs to a statement of the same text, hence to the same
  obtain ⟨other, hother, htext, hchosen⟩ := hexists.choose_spec
  rw [← hfetches.render_inj hother htext.symm] at hchosen
  refine ⟨hexists.choose, ?_, hchosen⟩
  rw [serving, ofFunction]
  simp only [hexists, dite_true]
  rfl

/-! ### Reading pages and counts -/

variable {planner : Planner} {filter : Filter} {found : List Match}

/-- A page is read as it was written, row by row. -/
theorem scoredIds_table (scored : Bool) (documents : List Match) :
    (Answer.single ⟨pageColumns scored, documents.map (Match.row scored)⟩).scoredIds =
      .ok (documents.map (Match.read scored)) := by
  cases documents with
  | nil => rfl
  | cons first rest =>
    have hid (rows : List (List Cell)) :
        ResultSet.columnIndex? ⟨pageColumns scored, rows⟩ "id" = some 0 := by
      change ResultSet.columnIndex? ⟨pageColumns scored, []⟩ "id" = some 0
      cases scored <;> decide +kernel
    have hrelevance (rows : List (List Cell)) :
        ResultSet.columnIndex? ⟨pageColumns scored, rows⟩ "relevance" =
          if scored then some 1 else none := by
      change ResultSet.columnIndex? ⟨pageColumns scored, []⟩ "relevance" = _
      cases scored <;> decide +kernel
    have hrow : (Answer.scoredId? 0 (if scored then some 1 else none)) ∘ Match.row scored =
        some ∘ Match.read scored := by
      funext document
      cases scored <;> rfl
    simp only [Answer.scoredIds, Answer.primary, Answer.single, List.headD_cons, List.map_cons,
      List.isEmpty_cons, Bool.false_eq_true, if_false, hid, hrelevance]
    rw [← List.map_cons, List.filterMap_map, hrow, List.filterMap_eq_map, List.map_cons]

/-- Of the documents that a page is taken from, the window never cuts off any that it asks for. -/
theorem take_window {documents : List Match} (h : documents.length ≤ maxCount)
    (least offset rows : Nat) :
    ((documents.take (max least (addCountsUpTo offset rows))).drop offset).take rows =
      (documents.drop offset).take rows := by
  rcases Nat.le_total (offset + rows) maxCount with hle | hle
  · have hwindow : rows ≤ max least (addCountsUpTo offset rows) - offset := by
      rw [addCountsUpTo, Nat.min_eq_left hle]
      omega
    rw [List.drop_take, List.take_take, Nat.min_eq_left hwindow]
  -- a window that is clipped to the largest count holds all documents
  · have hall : documents.length ≤ max least (addCountsUpTo offset rows) := by
      rw [addCountsUpTo, Nat.min_eq_right hle]
      omega
    rw [List.take_of_length_le hall]

theorem length_halfOf_le (half : Option StockHalf) (found : List Match) :
    (halfOf half found).length ≤ found.length := by
  rw [← filter_satisfies]
  exact List.length_filter_le _ _

/-- **What is read of a page**: the documents of its half from its offset on, as many as are asked
for. -/
theorem Answers.scoredIds {half : Option StockHalf} {offset limit : Nat} {answer : Answer}
    (h : Answers (planner.conditions filter none) found (planner.page filter half offset limit)
      answer)
    (hcount : found.length ≤ maxCount) :
    answer.scoredIds =
      .ok ((((halfOf half found).drop offset).take (max limit 1)).map
        (Match.read filter.hasText)) := by
  generalize hstatement : planner.page filter half offset limit = statement at h
  cases h with
  | page index stock scored order offset rows window ranking =>
    obtain ⟨rfl, hconditions, rfl, rfl, rfl, rfl, rfl, rfl⟩ := Statement.page.inj hstatement
    rw [planner.conditions_half filter half, List.append_cancel_left_eq] at hconditions
    rw [scoredIds_table, ← hconditions, filter_satisfies,
      take_window ((length_halfOf_le half found).trans hcount)]
  | count => exact absurd hstatement nofun
  | countByStock => exact absurd hstatement nofun

/-- **What is read of a count**: the number of documents. -/
theorem Answers.total {answer : Answer}
    (h : Answers (planner.conditions filter none) found (planner.count filter none) answer) :
    answer.total = .ok found.length := by
  generalize hstatement : planner.count filter none = statement at h
  cases h with
  | count => rfl
  | page => exact absurd hstatement nofun
  | countByStock => exact absurd hstatement nofun

/-! ### Counts by status -/

namespace SortedMap

variable {κ : Type} [Ord κ] [Std.TransOrd κ] [Std.LawfulEqOrd κ]

/-- The sum over all entries of what each of them weighs. -/
def weigh (weight : κ → Nat → Nat) (m : SortedMap κ Nat) : Nat :=
  (m.entries.map fun entry => weight entry.1 entry.2).sum

/-- **Writing a key** takes what its old value weighed from the sum and adds what the new one does. -/
theorem weigh_insert [DecidableEq κ] (weight : κ → Nat → Nat) (hzero : ∀ k, weight k 0 = 0)
    (m : SortedMap κ Nat) (k : κ) (n : Nat) :
    (m.insert k n).weigh weight + weight k ((m.get? k).getD 0) = m.weigh weight + weight k n := by
  obtain ⟨entries, hascending⟩ := m
  simp only [weigh, insert, get?]
  induction entries with
  | nil => simp [insertEntry, hzero]
  | cons first rest ih =>
    obtain ⟨hfirst, hrest⟩ := List.pairwise_cons.1 hascending
    simp only [insertEntry]
    split
    · -- a new key in front of all others
      rename_i hlt
      have hnone : (first :: rest).find? (fun e => compare k e.1 == .eq) = none := by
        rw [List.find?_eq_none]
        intro entry hentry
        rcases List.mem_cons.1 hentry with rfl | hentry
        · simp [hlt]
        · simp [Std.TransCmp.lt_trans hlt (hfirst entry hentry)]
      simp only [hnone, Option.map_none, Option.getD_none, hzero, List.map_cons, List.sum_cons]
      omega
    · rename_i heq
      obtain rfl : k = first.1 := Std.LawfulEqOrd.eq_of_compare heq
      simp only [List.find?_cons, heq, BEq.rfl, Option.map_some, Option.getD_some, List.map_cons,
        List.sum_cons]
      omega
    · rename_i hgt
      have ih := ih hrest
      have hne : (compare k first.1 == .eq) = false := by simp [hgt]
      simp only [List.find?_cons, hne, List.map_cons, List.sum_cons] at ih ⊢
      omega

omit [Std.TransOrd κ] in
theorem get?_le_weigh (m : SortedMap κ Nat) (k : κ) :
    (m.get? k).getD 0 ≤ m.weigh fun _ n => n := by
  cases hget : m.get? k with
  | none => simp
  | some n =>
    exact List.le_sum_of_mem (List.mem_map_of_mem (mem_entries_iff.2 hget))

end SortedMap

namespace Planner

/-- What an entry counts for among the matches that are not in stock. -/
def othersWeight (status : String) (n : Nat) : Nat :=
  if status = StockStatus.inStock.text then 0 else n

/-- Counts are added up without loss where their sum fits a count. -/
theorem foldl_addCounts (entries : List (String × Nat)) (sum : Nat)
    (hsum : sum + (entries.map fun entry => othersWeight entry.1 entry.2).sum ≤ maxCount) :
    entries.foldl (fun sum (status, n) =>
      if status = StockStatus.inStock.text then sum else addCounts sum n) sum =
        sum + (entries.map fun entry => othersWeight entry.1 entry.2).sum := by
  induction entries generalizing sum with
  | nil => rfl
  | cons first rest ih =>
    obtain ⟨status, n⟩ := first
    rw [List.map_cons, List.sum_cons] at hsum ⊢
    rw [List.foldl_cons]
    by_cases hstock : status = StockStatus.inStock.text
    · have hweight : othersWeight status n = 0 := if_pos hstock
      simp only [hweight, if_pos hstock] at hsum ⊢
      rw [ih sum (by omega), Nat.zero_add]
    · have hweight : othersWeight status n = n := if_neg hstock
      simp only [hweight, if_neg hstock] at hsum ⊢
      have hadd : addCounts sum n = sum + n := Nat.mod_eq_of_lt (by omega)
      rw [hadd, ih (sum + n) (by omega), Nat.add_assoc]

/-- The two halves, where the matches that are not in stock fit a count. -/
theorem stockHalves_eq {counts : SortedMap String Nat}
    (h : counts.weigh othersWeight ≤ maxCount) :
    stockHalves counts =
      ((counts.get? StockStatus.inStock.text).getD 0, counts.weigh othersWeight) := by
  rw [stockHalves, foldl_addCounts counts.entries 0 (by rw [SortedMap.weigh] at h; omega), Nat.zero_add]
  rfl

end Planner

/-- The status as a key of the counts: documents without one go with those whose status is empty. -/
def statusKey (status : Option String) : String :=
  status.getD ""

/-- The counts after the rows of some more statuses. -/
def addStatuses (count : Option String → Nat) (statuses : List (Option String))
    (counts : SortedMap String Nat) : SortedMap String Nat :=
  statuses.foldl (fun counts status => counts.insert (statusKey status)
    (addCounts ((counts.get? (statusKey status)).getD 0) (count status))) counts

/-- **Adding up rows** loses nothing as long as all of them together fit a count: what is counted in
stock is what the rows in stock have, and so with the others. -/
theorem addStatuses_eq (count : Option String → Nat) (statuses : List (Option String))
    (counts : SortedMap String Nat)
    (h : (counts.weigh fun _ n => n) + (statuses.map count).sum ≤ maxCount) :
    ((addStatuses count statuses counts).get? StockStatus.inStock.text).getD 0 =
        (counts.get? StockStatus.inStock.text).getD 0 +
          ((statuses.filter fun status => status = some StockStatus.inStock.text).map count).sum ∧
      (addStatuses count statuses counts).weigh Planner.othersWeight =
        counts.weigh Planner.othersWeight +
          ((statuses.filter fun status => status ≠ some StockStatus.inStock.text).map count).sum := by
  induction statuses generalizing counts with
  | nil => exact ⟨rfl, rfl⟩
  | cons status statuses ih =>
    rw [List.map_cons, List.sum_cons] at h
    -- no count overflows, because all of them together do not
    have hle := counts.get?_le_weigh (statusKey status)
    have hadd : addCounts ((counts.get? (statusKey status)).getD 0) (count status) =
        (counts.get? (statusKey status)).getD 0 + count status :=
      Nat.mod_eq_of_lt (by omega)
    have hall := counts.weigh_insert (fun _ n => n) (fun _ => rfl) (statusKey status)
      ((counts.get? (statusKey status)).getD 0 + count status)
    have hothers := counts.weigh_insert Planner.othersWeight (fun k => by simp [Planner.othersWeight])
      (statusKey status) ((counts.get? (statusKey status)).getD 0 + count status)
    have hnext := ih (counts.insert (statusKey status)
      ((counts.get? (statusKey status)).getD 0 + count status)) (by omega)
    have hkey : statusKey status = StockStatus.inStock.text ↔
        status = some StockStatus.inStock.text := by
      cases status with
      | none => exact iff_of_false (by decide) nofun
      | some text => simp [statusKey]
    rw [addStatuses, List.foldl_cons, hadd, ← addStatuses, hnext.1, hnext.2, SortedMap.get?_insert]
    -- a row in stock adds to the first number and any other row to the second
    by_cases hstock : status = some StockStatus.inStock.text
    · have hk := hkey.2 hstock
      have hweight (n : Nat) : Planner.othersWeight (statusKey status) n = 0 := if_pos hk
      have hget : (counts.get? (statusKey status)).getD 0 =
          (counts.get? StockStatus.inStock.text).getD 0 := by rw [hk]
      rw [List.filter_cons_of_pos (by simpa using hstock),
        List.filter_cons_of_neg (by simpa using hstock), List.map_cons, List.sum_cons,
        if_pos hk.symm, Option.getD_some]
      rw [hweight, hweight] at hothers
      exact ⟨by omega, by omega⟩
    · have hk : statusKey status ≠ StockStatus.inStock.text := fun hk => hstock (hkey.1 hk)
      have hweight (n : Nat) : Planner.othersWeight (statusKey status) n = n := if_neg hk
      rw [List.filter_cons_of_neg (by simpa using hstock),
        List.filter_cons_of_pos (by simpa using hstock), List.map_cons, List.sum_cons,
        if_neg (Ne.symm hk)]
      rw [hweight, hweight] at hothers
      exact ⟨rfl, by omega⟩

/-- The rows of counts by status, as they are added up. -/
theorem countsBy_statuses (count : Option String → Nat) (statuses : List (Option String)) :
    (ResultSet.mk ["stock_status", "cnt"] (statuses.map fun status =>
        [statusCell status, .whole (count status)])).countsBy 0
          (fun cell => some (cell.text?.getD "")) = .ok (addStatuses count statuses ∅) := by
  have hindex (rows : List (List Cell)) :
      ResultSet.countIndex? ⟨["stock_status", "cnt"], rows⟩ = some 1 := by
    change ResultSet.countIndex? ⟨["stock_status", "cnt"], []⟩ = some 1
    decide +kernel
  rw [ResultSet.countsBy, hindex]
  simp only [List.foldl_map, addStatuses]
  congr 2
  funext counts status
  cases status <;> rfl

theorem stockHalves_statuses (count : Option String → Nat) (statuses : List (Option String)) :
    (Answer.single ⟨["stock_status", "cnt"], statuses.map fun status =>
        [statusCell status, .whole (count status)]⟩).stockHalves =
      .ok (Planner.stockHalves (addStatuses count statuses ∅)) := by
  have hcounts := countsBy_statuses count statuses
  cases statuses with
  | nil => rfl
  | cons first rest =>
    rw [Answer.stockHalves, if_neg (by simp [Answer.primary, Answer.single])]
    exact congrArg (Except.map Planner.stockHalves) hcounts

/-- The rows of some statuses have all documents with one of them. -/
theorem sum_count_statuses {statuses : List (Option String)} (hdistinct : statuses.Nodup)
    (hall : ∀ status, status ∈ statuses ↔ ∃ document ∈ found, document.stock = status)
    (p : Option String → Bool) :
    ((statuses.filter p).map fun status =>
      found.countP fun document => document.stock = status).sum =
        found.countP fun document => p document.stock := by
  -- the rows are the statuses of the documents, each of them once, in some order
  have hperm : statuses.Perm (found.map Match.stock).dedup := by
    refine (List.perm_ext_iff_of_nodup hdistinct (List.nodup_dedup _)).2 fun status => ?_
    rw [hall, List.mem_dedup, List.mem_map]
  have hcount := List.sum_map_count_dedup_filter_eq_countP p (found.map Match.stock)
  simp only [List.count, List.countP_map] at hcount
  rw [((hperm.filter p).map _).sum_eq]
  exact hcount

/-- **What is read of the counts by status**: how many documents are in stock, and how many are
not. -/
theorem Answers.stockHalves {answer : Answer}
    (h : Answers (planner.conditions filter none) found (planner.countByStock filter) answer)
    (hcount : found.length ≤ maxCount) :
    answer.stockHalves =
      .ok ((halfOf (some .inStock) found).length, (halfOf (some .otherwise) found).length) := by
  generalize hstatement : planner.countByStock filter = statement at h
  cases h with
  | page => exact absurd hstatement nofun
  | count => exact absurd hstatement nofun
  | countByStock index statuses hdistinct hall =>
    have hsum := sum_count_statuses hdistinct hall
    have htotal := hsum fun _ => true
    rw [List.filter_true, List.countP_true] at htotal
    obtain ⟨hin, hothers⟩ := addStatuses_eq
      (fun status => found.countP fun document => document.stock = status) statuses ∅
      (by rw [htotal]; exact (Nat.zero_add _).trans_le hcount)
    rw [hsum] at hin hothers
    have hfit : (addStatuses (fun status => found.countP fun document => document.stock = status)
        statuses ∅).weigh Planner.othersWeight ≤ maxCount := by
      rw [hothers]
      exact (Nat.zero_add _).trans_le (List.countP_le_length.trans hcount)
    have hread := stockHalves_statuses
      (fun status => found.countP fun document => document.stock = status) statuses
    have hhalves := Planner.stockHalves_eq hfit
    rw [hin, hothers] at hhalves
    have hnot : (fun document : Match => decide (document.stock ≠ some StockStatus.inStock.text)) =
        fun document => !document.inStock := by
      funext document
      simp [Match.inStock]
    rw [hread, hhalves, hnot, halfOf, halfOf, ← List.countP_eq_length_filter,
      ← List.countP_eq_length_filter]
    change Except.ok (0 + _, 0 + _) = _
    rw [Nat.zero_add, Nat.zero_add]
    rfl

end Storefront
