import Storefront.Listing.Key
import Storefront.Proofs.Page.Dialogue
import Storefront.Proofs.Planner.Sealed

/-!
# What can be read back from statements

The text of a page statement tells how the page was asked for. Clause by clause, the text up to a
character that the clause cannot hold is the clause: an order has no capital `L`, a number has
neither commas nor blanks, and no statement has a line feed. So from two texts that are equal one
gets back

* the conditions as they are written, from the count that goes with the page;
* whether there is a text to search for, the order as it is written, the offset and the number of
  rows (`Planner.render_page_inj`);
* and, for one filter, the half of the matches that is asked for (`Planner.half_of_render_page`).

This is what makes keys of listings tell listings apart (`Planner.keyText_inj`): a key is the digest
of two statements and a flag, and all that the engine is asked for a listing can be read back from
them.
-/

namespace Storefront

open Number Sql Text

/-! ### Cutting at a character -/

/-- Two texts that are cut at the first occurrence of one character. -/
theorem cut_inj {α : Type} {xs ys us vs : List α} {a : α} (hx : a ∉ xs) (hu : a ∉ us)
    (h : xs ++ a :: ys = us ++ a :: vs) : xs = us ∧ ys = vs := by
  induction xs generalizing us with
  | nil =>
    cases us with
    | nil => exact ⟨rfl, (List.cons.inj h).2⟩
    | cons u us => exact absurd (List.cons.inj h).1 fun he => hu (he ▸ List.mem_cons_self)
  | cons x xs ih =>
    cases us with
    | nil => exact absurd (List.cons.inj h).1 fun he => hx (he ▸ List.mem_cons_self)
    | cons u us =>
      obtain ⟨rfl, htail⟩ := List.cons.inj h
      obtain ⟨hxs, hys⟩ := ih (fun hm => hx (List.mem_cons_of_mem _ hm))
        (fun hm => hu (List.mem_cons_of_mem _ hm)) htail
      exact ⟨by rw [hxs], hys⟩

theorem mem_joinWith {c : Char} {separator : String} {parts : List String}
    (h : c ∈ (joinWith separator parts).toList) :
    c ∈ separator.toList ∨ ∃ part ∈ parts, c ∈ part.toList := by
  fun_induction joinWith separator parts with
  | case1 => simp at h
  | case2 part => exact .inr ⟨part, by simp, h⟩
  | case3 part next rest ih =>
    rw [String.toList_append, String.toList_append, List.mem_append, List.mem_append] at h
    rcases h with (h | h) | h
    · exact .inr ⟨part, by simp, h⟩
    · exact .inl h
    · rcases ih h with h | ⟨other, hother, h⟩
      · exact .inl h
      · exact .inr ⟨other, List.mem_cons_of_mem _ hother, h⟩

/-! ### Lines -/

/-- A text of one line. -/
def OneLine (cs : List Char) : Prop :=
  '\n' ∉ cs

instance (cs : List Char) : Decidable (OneLine cs) :=
  inferInstanceAs (Decidable (_ ∉ _))

theorem oneLine_value (cs : List Char) : OneLine (cs.flatMap literalChar) := by
  intro h
  obtain ⟨c, -, hc⟩ := List.mem_flatMap.1 h
  rw [literalChar] at hc
  split_ifs at hc with hb hq hcontrol
  · exact absurd hc (by decide)
  · exact absurd hc (by decide)
  · simp at hc
  · obtain rfl := List.mem_singleton.1 hc
    exact hcontrol (by decide)

theorem oneLine_escapeMatch (s : String) : OneLine (escapeMatch s).toList := by
  rw [escapeMatch, String.toList_ofList]
  intro h
  obtain ⟨c, -, hc⟩ := List.mem_flatMap.1 h
  rw [escapeMatchChar] at hc
  split_ifs at hc with hoperator hq hcontrol
  · have hne : '\n' ≠ c := by
      rintro rfl
      exact absurd hoperator (by decide)
    simp [hne] at hc
  · exact absurd hc (by decide)
  · exact absurd hc (by decide)
  · obtain rfl := List.mem_singleton.1 hc
    exact hcontrol (by decide)

theorem Variant.oneLine_expression (variant : Variant) : OneLine variant.expression.toList := by
  cases variant with
  | «exact» term =>
    rw [expression]
    split_ifs
    · simpa [OneLine] using oneLine_escapeMatch term
    · exact oneLine_escapeMatch term
  | start term => simpa [expression, OneLine] using oneLine_escapeMatch term

theorem oneLine_joinWith {α : Type} {separator : String} {text : α → String} {as : List α}
    (hseparator : OneLine separator.toList) (h : ∀ a, OneLine (text a).toList) :
    OneLine (joinWith separator (as.map text)).toList := by
  intro hmem
  rcases mem_joinWith hmem with hmem | ⟨part, hpart, hmem⟩
  · exact hseparator hmem
  · obtain ⟨a, -, rfl⟩ := List.mem_map.1 hpart
    exact h a hmem

theorem Alternatives.oneLine_expression (group : Alternatives) :
    OneLine group.expression.toList := by
  unfold expression
  split
  · exact Variant.oneLine_expression _
  · have hjoin : OneLine (joinWith " | " (group.variants.map Variant.expression)).toList :=
      oneLine_joinWith (by decide) Variant.oneLine_expression
    simpa [OneLine] using hjoin

theorem Wording.oneLine_expression (wording : Wording) : OneLine wording.expression.toList :=
  oneLine_joinWith (by decide) Alternatives.oneLine_expression

namespace Planner

variable {planner : Planner} {filter other : Filter}

theorem oneLine_matchExpression {expression : String}
    (h : planner.matchExpression filter = some expression) : OneLine expression.toList := by
  have hwording := (wordingOf filter).oneLine_expression
  rw [← overFields_of_matchExpression h]
  unfold overFields
  split
  · exact hwording
  · refine oneLine_joinWith (by decide) fun weight hmem => ?_
    simp only [String.toList_append, List.mem_append] at hmem
    rcases hmem with (((hmem | hmem) | hmem) | hmem) | hmem
    · exact absurd hmem (by decide)
    · exact absurd (Identifier.isIdentifierChar_of_mem hmem) (by decide)
    · exact absurd hmem (by decide)
    · exact hwording hmem
    · exact absurd hmem (by decide)

/-- **No statement has a line feed.** -/
theorem Sends.oneLine {statement : Statement} (h : planner.Sends filter statement) :
    OneLine statement.render.toList := by
  have hmeets : ∀ piece ∈ statement.pieces, piece.Meets planner.Knows OneLine :=
    meets_pieces oneLine_value statement h.knows fun expression hexpression =>
      oneLine_matchExpression ((h.fullText_mem_iff expression).1 hexpression)
  -- code has no line feed by its alphabet, and quoted texts have none by their escaping
  rw [← statement.written_pieces]
  intro hmem
  obtain ⟨piece, hpiece, hmem⟩ := List.mem_flatMap.1 hmem
  have hpiece := hmeets piece hpiece
  cases piece with
  | quoted content =>
    have hcontent : '\n' ∉ content := hpiece
    simp [Piece.chars, hcontent] at hmem
  | word text => exact absurd (isCodeChar_of_mem_vocabulary hpiece _ hmem) (by decide)
  | name text => exact absurd (hpiece.2 _ hmem) (by decide)
  | number text => exact absurd (hpiece _ hmem) (by decide)

/-! ### Halves -/

/-- The text of the condition that limits a statement to one half of the matches. -/
def halfText : Option StockHalf → String
  | none => ""
  | some .inStock => " AND stock_status = 'instock'"
  | some .otherwise => " AND stock_status != 'instock'"

theorem conditions_half (planner : Planner) (filter : Filter) (half : Option StockHalf) :
    planner.conditions filter half = planner.conditions filter none ++ halfCondition half := by
  simp [conditions, halfCondition]

theorem joinWith_concat {separator : String} {parts : List String} (h : parts ≠ [])
    (part : String) :
    joinWith separator (parts ++ [part]) = joinWith separator parts ++ separator ++ part := by
  fun_induction joinWith separator parts with
  | case1 => exact absurd rfl h
  | case2 only => rfl
  | case3 first next rest ih =>
    have hrest := ih (by simp)
    rw [List.cons_append, List.cons_append, joinWith, ← List.cons_append, hrest]
    simp only [String.append_assoc]

/-- **The condition of a half stands at the end**, behind those of the filter. -/
theorem renderWhere_half (planner : Planner) (filter : Filter) (half : Option StockHalf) :
    renderWhere (planner.conditions filter half) =
      renderWhere (planner.conditions filter none) ++ halfText half := by
  have hconditions : (planner.conditions filter none).map Condition.render ≠ [] := by
    simp [conditions]
  rw [conditions_half]
  cases half with
  | none => simp [halfCondition, halfText]
  | some half =>
    cases half with
    | inStock =>
      rw [renderWhere, renderWhere, halfCondition, List.map_append, List.map_singleton,
        joinWith_concat hconditions]
      simp only [String.append_assoc]
      congr 2
    | otherwise =>
      rw [renderWhere, renderWhere, halfCondition, List.map_append, List.map_singleton,
        joinWith_concat hconditions]
      simp only [String.append_assoc]
      congr 2

/-! ### Pages -/

theorem not_mem_toString {c : Char} (hc : isNumeralChar c = false) (n : Nat) :
    c ∉ (toString n).toList := fun h => by
  simp [isNumeralChar_of_mem_nat h] at hc

/-- No order has a capital `L`, so it ends where the limit begins. -/
theorem not_mem_renderOrder (order : SortOrder) : 'L' ∉ (renderOrder order).toList := by
  obtain ⟨key, direction⟩ := order
  cases key <;> cases direction <;> decide +kernel

/-- The columns of a page behind the identifier. -/
def columnText (scored : Bool) : String :=
  if scored then ", WEIGHT() AS relevance" else ""

/-- A page from its order on. -/
def pageTail (planner : Planner) (filter : Filter) (offset limit : Nat) : String :=
  " ORDER BY " ++ (renderOrder filter.effectiveOrder ++ (" LIMIT " ++ (toString offset ++ ("," ++
    (toString (max limit 1) ++ (" OPTION max_matches=" ++
      (toString (max planner.maxMatches (addCountsUpTo offset (max limit 1))) ++
        renderRanking (planner.ranking filter))))))))

theorem render_page_eq (planner : Planner) (filter : Filter) (half : Option StockHalf)
    (offset limit : Nat) :
    (planner.page filter half offset limit).render =
      "SELECT id" ++ (columnText filter.hasText ++ (" FROM " ++ (planner.index.text ++
        (renderWhere (planner.conditions filter half) ++
          planner.pageTail filter offset limit)))) := by
  have hcolumns : "SELECT " ++ (if filter.hasText then "id, WEIGHT() AS relevance" else "id") =
      "SELECT id" ++ columnText filter.hasText := by
    cases filter.hasText <;> decide +kernel
  rw [page, Statement.render_page, hcolumns, pageTail]
  simp only [String.append_assoc]

/-- A clause tells what it is about, if its first words are known and the next clause begins with
a character that it cannot hold. -/
theorem clause_inj {text text' rest rest' next : String} {front back : List Char} {a : Char}
    (hnext : next.toList = front ++ a :: back) (hfront : a ∉ front) (ht : a ∉ text.toList)
    (ht' : a ∉ text'.toList) (h : text ++ (next ++ rest) = text' ++ (next ++ rest')) :
    text = text' ∧ rest = rest' := by
  have hlist := congrArg String.toList h
  simp only [String.toList_append, hnext, List.append_assoc, List.cons_append] at hlist
  rw [← List.append_assoc, ← List.append_assoc text'.toList] at hlist
  obtain ⟨htext, hrest⟩ := cut_inj (by simp [ht, hfront]) (by simp [ht', hfront]) hlist
  exact ⟨String.toList_injective (List.append_cancel_right htext),
    String.toList_injective (List.append_cancel_left hrest)⟩

/-- The end of a page tells its order, its offset and the number of its rows. -/
theorem pageTail_inj {offset limit offset' limit' : Nat}
    (h : planner.pageTail filter offset limit = planner.pageTail other offset' limit') :
    renderOrder filter.effectiveOrder = renderOrder other.effectiveOrder ∧ offset = offset' ∧
      max limit 1 = max limit' 1 := by
  have hlimit : " LIMIT ".toList = [' '] ++ 'L' :: "IMIT ".toList := by decide +kernel
  have hcomma : ",".toList = [] ++ ',' :: [] := by decide
  have hoption : " OPTION max_matches=".toList = [] ++ ' ' :: "OPTION max_matches=".toList := by
    decide +kernel
  rw [pageTail, pageTail, String.append_right_inj] at h
  obtain ⟨horder, h⟩ := clause_inj hlimit (by decide) (not_mem_renderOrder _)
    (not_mem_renderOrder _) h
  obtain ⟨hoffset, h⟩ := clause_inj hcomma (by decide) (not_mem_toString (by decide) offset)
    (not_mem_toString (by decide) offset') h
  obtain ⟨hrows, -⟩ := clause_inj hoption (by decide)
    (not_mem_toString (by decide) (max limit 1)) (not_mem_toString (by decide) (max limit' 1)) h
  exact ⟨horder, toString_inj hoffset, toString_inj hrows⟩

/-- Texts that differ at a place within their beginnings differ. -/
theorem append_ne_append {front front' : String} (i : Nat)
    (hi : i < front.toList.length) (hi' : i < front'.toList.length)
    (hne : front.toList[i]? ≠ front'.toList[i]?) (back back' : String) :
    front ++ back ≠ front' ++ back' := by
  intro h
  have hplace := congrArg (fun s : String => s.toList[i]?) h
  simp only [String.toList_append] at hplace
  rw [List.getElem?_append_left hi, List.getElem?_append_left hi'] at hplace
  exact hne hplace

/-- **What a page tells**, given its conditions: whether there is a text, the order, the offset, and
the number of rows. -/
theorem render_page_inj {half half' : Option StockHalf} {offset limit offset' limit' : Nat}
    (hwhere : renderWhere (planner.conditions filter half) =
      renderWhere (planner.conditions other half'))
    (h : (planner.page filter half offset limit).render =
      (planner.page other half' offset' limit').render) :
    filter.hasText = other.hasText ∧
      renderOrder filter.effectiveOrder = renderOrder other.effectiveOrder ∧ offset = offset' ∧
      max limit 1 = max limit' 1 := by
  rw [render_page_eq, render_page_eq, hwhere, String.append_right_inj] at h
  -- behind the identifier stands the comma of a second column or the blank of the next clause
  have hcolumns (back back' : String) :
      columnText true ++ back ≠ columnText false ++ (" FROM " ++ back') := by
    rw [columnText, columnText, if_pos rfl, if_neg Bool.false_ne_true, String.empty_append]
    exact append_ne_append 0 (by decide) (by decide) (by decide) _ _
  have htext : filter.hasText = other.hasText := by
    cases hf : filter.hasText <;> cases ho : other.hasText <;> rw [hf, ho] at h
    · exact absurd h.symm (hcolumns _ _)
    · exact absurd h (hcolumns _ _)
  rw [htext, String.append_right_inj, String.append_right_inj, String.append_right_inj,
    String.append_right_inj] at h
  exact ⟨htext, pageTail_inj h⟩

/-- **What a page tells**, given its filter: the half of the matches that it is taken from, the
offset, and the number of rows. -/
theorem half_of_render_page {half half' : Option StockHalf} {offset limit offset' limit' : Nat}
    (h : (planner.page filter half offset limit).render =
      (planner.page filter half' offset' limit').render) :
    half = half' ∧ offset = offset' ∧ max limit 1 = max limit' 1 := by
  have hhalf : half = half' := by
    rw [render_page_eq, render_page_eq, renderWhere_half, renderWhere_half planner filter half']
      at h
    simp only [String.append_right_inj, String.append_assoc, pageTail] at h
    -- behind the conditions of the filter stand an order or the condition of one of the halves
    have horder (half : StockHalf) (back back' : String) :
        halfText (some half) ++ back ≠ halfText none ++ (" ORDER BY " ++ back') := by
      rw [halfText.eq_def none, String.empty_append]
      cases half <;> exact append_ne_append 1 (by decide) (by decide) (by decide) _ _
    have hsides (back back' : String) :
        halfText (some .inStock) ++ back ≠ halfText (some .otherwise) ++ back' :=
      append_ne_append 18 (by decide) (by decide) (by decide) _ _
    match half, half' with
    | none, none => rfl
    | some half, none => exact absurd h (horder half _ _)
    | none, some half' => exact absurd h.symm (horder half' _ _)
    | some .inStock, some .inStock => rfl
    | some .otherwise, some .otherwise => rfl
    | some .inStock, some .otherwise => exact absurd h (hsides _ _)
    | some .otherwise, some .inStock => exact absurd h.symm (hsides _ _)
  obtain ⟨-, -, hrest⟩ := render_page_inj (by rw [hhalf]) h
  exact ⟨hhalf, hrest⟩

/-! ### Keys -/

/-- The three lines of a key's text. -/
theorem keyText_inj {select count select' count' : String} {first first' : Bool}
    (hs : OneLine select.toList) (hs' : OneLine select'.toList) (hc : OneLine count.toList)
    (hc' : OneLine count'.toList) (h : keyText select count first = keyText select' count' first') :
    select = select' ∧ count = count' ∧ first = first' := by
  have hline : "\n".toList = [] ++ '\n' :: [] := by decide
  simp only [keyText, String.append_assoc] at h
  obtain ⟨hselect, h⟩ := clause_inj hline (by decide) hs hs' h
  obtain ⟨hcount, h⟩ := clause_inj hline (by decide) hc hc' h
  refine ⟨hselect, hcount, ?_⟩
  cases first <;> cases first' <;> first | rfl | exact absurd h (by decide)

/-- **Two filters ask the same of the engine**: their conditions are written alike, and so are the
order and the place of their pages. -/
structure AsksAlike (planner : Planner) (filter other : Filter) : Prop where
  conditions : renderWhere (planner.conditions filter none) =
    renderWhere (planner.conditions other none)
  text : filter.hasText = other.hasText
  order : renderOrder filter.effectiveOrder = renderOrder other.effectiveOrder
  offset : filter.offset = other.offset
  rows : max filter.pageSize 1 = max other.pageSize 1
  inStockFirst : filter.inStockFirst = other.inStockFirst

/-- **All that a filter asks of the engine can be read back from the text of its key.** -/
theorem asksAlike_of_keyText
    (h : keyText (planner.plan filter).select.render (planner.plan filter).count.render
        filter.inStockFirst =
      keyText (planner.plan other).select.render (planner.plan other).count.render
        other.inStockFirst) :
    planner.AsksAlike filter other := by
  obtain ⟨hselect, hcount, hfirst⟩ := keyText_inj (Sends.page none _ _).oneLine
    (Sends.page none _ _).oneLine (Sends.count none).oneLine (Sends.count none).oneLine h
  have hconditions : renderWhere (planner.conditions filter none) =
      renderWhere (planner.conditions other none) := by
    exact (String.append_right_inj _).1 hcount
  obtain ⟨htext, horder, hoffset, hrows⟩ := render_page_inj hconditions hselect
  exact ⟨hconditions, htext, horder, hoffset, hrows, hfirst⟩

namespace AsksAlike

variable (h : planner.AsksAlike filter other)

include h

theorem render_page (half : Option StockHalf) (offset limit : Nat) :
    (planner.page filter half offset limit).render =
      (planner.page other half offset limit).render := by
  have hranking : planner.ranking filter = planner.ranking other := by rw [ranking, ranking, h.text]
  rw [render_page_eq, render_page_eq, renderWhere_half, renderWhere_half planner other, pageTail,
    pageTail, h.conditions, h.text, h.order, hranking]

theorem render_count :
    (planner.count filter none).render = (planner.count other none).render := by
  rw [count, count, Statement.render_count, Statement.render_count, h.conditions]

theorem render_countByStock :
    (planner.countByStock filter).render = (planner.countByStock other).render := by
  rw [countByStock, countByStock, Statement.render_countByStock, Statement.render_countByStock,
    h.conditions]

/-- Filters that ask alike are on the same page, and of the same size, if they are on a page at all. -/
theorem page_eq (hpage : 1 ≤ filter.page) (hother : 1 ≤ other.page)
    (hsize : 1 ≤ filter.pageSize) (hotherSize : 1 ≤ other.pageSize) :
    filter.page = other.page ∧ filter.pageSize = other.pageSize := by
  have hrows := h.rows
  have hsizes : filter.pageSize = other.pageSize := by omega
  have hoffset := h.offset
  rw [Filter.offset, Filter.offset, hsizes] at hoffset
  -- pages of one size that begin at the same place have the same number
  have hbefore := Nat.eq_of_mul_eq_mul_right hotherSize hoffset
  exact ⟨by omega, hsizes⟩

/-- **Filters that ask alike have the same page**, whatever the engine does. -/
theorem pageDialogue : (planner.pageDialogue filter).Alike (planner.pageDialogue other) := by
  rw [Planner.pageDialogue, Planner.pageDialogue, h.inStockFirst]
  split_ifs
  · refine .of_read h.render_countByStock fun halves => ?_
    obtain ⟨inStock, others⟩ := halves
    simp only [halvesDialogue, h.offset, h.rows]
    split_ifs
    · refine .of_read (h.render_page _ _ _) fun rows => ?_
      split_ifs
      · exact .of_read (h.render_page _ _ _) fun rest => .done _
      · exact .done _
    · exact .of_read (h.render_page _ _ _) fun rows => .done _
    · exact .done _
  · refine .of_read ?_ fun rows => .of_read h.render_count fun total => .done _
    have hsize : (planner.page other none other.offset filter.pageSize).render =
        (planner.page other none other.offset other.pageSize).render := by
      rw [page, page, h.rows]
    change (planner.page filter none filter.offset filter.pageSize).render = _
    rw [h.render_page, h.offset]
    exact hsize

end AsksAlike

end Planner

end Storefront
