import Storefront.Facet
import Storefront.Proofs.Planner.Names
import Storefront.Proofs.Wording.Quotes

/-!
# What shoppers write stays between quotes

A statement is *sealed* if its reader takes it apart the way its writer put it together: every
literal ends at the quote that was written to end it, none is open at the end, and outside the
literals there is nothing but the fixed words of the language, numbers, and names that the planner
knows from its schema and settings. Nothing that a shopper, a synonym or a request's parameter spells
is then ever read as anything but the content of a literal.

The values of columns give no trouble. The full-text expression does, because its escaping writes a
backslash as an odd number of backslashes (see `Storefront.Proofs.Sql.Escape`), and this is what
decides: the statements of a filter are sealed exactly if the filter's *quotes hold*
(`Planner.QuotesHold`). They always hold without a backslash in the words searched for
(`Planner.quotesHold_of_no_backslash`), and a backslash in front of a quote is enough for a search
box to write code (`Planner.not_forall_sealed`).
-/

namespace Storefront

open Number Sql Text

/-! ### Sealed statements -/

/-- **A sealed statement**: read the way it is written, and with nothing outside its literals but
words of the vocabulary, numbers, and names of the given kind. -/
structure Sql.Statement.Sealed (names : String → Prop) (statement : Statement) : Prop where
  /-- The pieces are the text. -/
  text : written statement.pieces = statement.render.toList
  /-- Every character is taken for what it is meant to be: what is written between quotes for the
  content of a literal, the quote behind it for the end of the literal, all the rest for code. -/
  read : Scan.outside.roles statement.render.toList = meant statement.pieces
  /-- No literal is open at the end. -/
  closed : Scan.outside.finish statement.render.toList = .outside
  /-- Outside the literals only known names stand beside words and numbers. -/
  code : ∀ piece ∈ statement.pieces, piece.Meets names fun _ => True

/-- **A statement on identifiers is sealed exactly if its full-text expressions are contained** in
their quotes. -/
theorem Sql.Statement.sealed_iff {names : String → Prop} {statement : Statement}
    (hnames : ∀ name ∈ statement.names, names name)
    (hidentifier : ∀ name, names name → ∀ c ∈ name.toList, isIdentifierChar c = true) :
    statement.Sealed names ↔
      ∀ expression : String, .fullText expression ∈ statement.conditions →
        Contained expression.toList := by
  have hcode : ∀ piece ∈ statement.pieces, piece.Meets names fun _ => True :=
    meets_pieces (fun _ => trivial) statement hnames fun _ _ => trivial
  have hplain : ∀ piece ∈ statement.pieces, piece.Plain :=
    fun piece hpiece => (hcode piece hpiece).plain hidentifier
  have hread := reads_as_written_iff hplain
  rw [statement.written_pieces] at hread
  constructor
  · intro h expression hexpression
    have hholds := hread.1 ⟨h.read, h.closed⟩
    have hwhere : Piece.quoted expression.toList ∈ wherePieces statement.conditions :=
      List.mem_cons_of_mem _ (mem_separate_of_mem " AND " (List.mem_map_of_mem hexpression)
        (by simp [Condition.pieces]))
    exact hholds _ (statement.mem_pieces_of_mem_where hwhere)
  · intro h
    have hmeets : ∀ piece ∈ statement.pieces, piece.Meets names Contained :=
      meets_pieces contained_literal statement hnames h
    obtain ⟨hroles, hfinish⟩ := hread.2 fun piece hpiece => (hmeets piece hpiece).holds
    exact ⟨statement.written_pieces, hroles, hfinish, hcode⟩

namespace Planner

/-- **The statements that a planner sends for a filter**: pages of all matches or of one half of
them, the counts of these, the counts for each stock status, and the counts for each term of a
taxonomy that has a field. -/
inductive Sends (planner : Planner) (filter : Filter) : Statement → Prop
  | page (half : Option StockHalf) (offset limit : Nat) :
    Sends planner filter (planner.page filter half offset limit)
  | count (half : Option StockHalf) : Sends planner filter (planner.count filter half)
  | countByStock : Sends planner filter (planner.countByStock filter)
  | facet {taxonomy field : String} (h : planner.schema.facetField? taxonomy = some field)
    (limit : Nat) : Sends planner filter (planner.facet filter field limit)

variable {planner : Planner} {filter : Filter} {statement : Statement}

/-- **All names in a statement are known to its planner.** -/
theorem Sends.knows (h : planner.Sends filter statement) :
    ∀ name ∈ statement.names, planner.Knows name := by
  intro name hname
  cases h with
  | page half offset limit =>
    rcases List.mem_append.1 hname with hname | hname
    · rcases List.mem_cons.1 hname with rfl | hname
      · exact knows_index
      · exact knows_of_mem_conditions hname
    · exact knows_of_mem_ranking hname
  | count half =>
    rcases List.mem_cons.1 hname with rfl | hname
    · exact knows_index
    · exact knows_of_mem_conditions hname
  | countByStock =>
    rcases List.mem_cons.1 hname with rfl | hname
    · exact knows_index
    · exact knows_of_mem_conditions hname
  | facet hfield limit =>
    rcases List.mem_append.1 hname with hname | hname
    · rcases List.mem_cons.1 hname with rfl | hname
      · exact knows_index
      · exact knows_of_mem_conditions hname
    · rw [List.mem_singleton.1 hname]
      exact knows_facetField hfield

/-- The full-text expression of all statements is that of the filter. -/
theorem Sends.fullText_mem_iff (h : planner.Sends filter statement) (expression : String) :
    .fullText expression ∈ statement.conditions ↔
      planner.matchExpression filter = some expression := by
  cases h <;> exact fullText_mem_conditions_iff

/-! ### The full-text expression within its quotes -/

/-- Limiting an expression to fields closes it with parentheses, so nothing is left waiting behind
it. -/
theorem hold_overFields (planner : Planner) {expression : String} {breaks opens : Bool}
    (h : hold false expression.toList = if breaks then none else some opens) :
    hold false (planner.overFields expression).toList =
      if breaks then none else some (planner.weights.isEmpty && opens) := by
  unfold overFields
  split
  · rename_i hweights
    simpa [hweights] using h
  rename_i hweights
  have hfield (weight : WeightedField) :
      hold false ("(@" ++ weight.field.text ++ " " ++ expression ++ ")").toList =
        if breaks then none else some false := by
    have hopen : Ordinary ("(@" ++ weight.field.text ++ " ").toList := by
      intro c hc
      simp only [String.toList_append, List.mem_append] at hc
      have hends : Ordinary ("(@".toList ++ " ".toList) := by decide
      rcases hc with (hc | hc) | hc
      · exact hends c (List.mem_append_left _ hc)
      · constructor <;> rintro rfl <;>
          exact absurd (Identifier.isIdentifierChar_of_mem hc) (by decide)
      · exact hends c (List.mem_append_right _ hc)
    rw [String.toList_append, String.toList_append, List.append_assoc,
      hold_ordinary_append hopen]
    exact hold_append_ordinary (by decide) (by decide) h
  rw [hold_joinWith (by decide) (by decide) hfield]
  obtain ⟨first, rest, hcons⟩ := List.exists_cons_of_ne_nil hweights
  have hany : planner.weights.any (fun _ => breaks) = breaks := by
    rw [hcons]
    cases breaks <;> simp
  -- the parenthesis of the last field is what a waiting backslash is spent on
  have hlast : (planner.weights.getLast?.map fun _ => false).getD false = false := by
    cases planner.weights.getLast? <;> rfl
  rw [hany, hlast, hcons, List.isEmpty_cons, Bool.false_and]

/-- **The quotes of a filter hold**: if there is something to search for, no term of its wording
breaks out of the literal that it is written into, and the wording does not end open – unless it is
limited to fields, which ends it with a parenthesis. -/
structure QuotesHold (planner : Planner) (filter : Filter) : Prop where
  contained : planner.matchExpression filter ≠ none → (wordingOf filter).breaksOut = false
  finished : planner.matchExpression filter ≠ none → planner.weights = [] →
    (wordingOf filter).endsOpen = false

/-- The expression that is searched for is that of the wording, limited to the fields. -/
theorem overFields_of_matchExpression {expression : String}
    (h : planner.matchExpression filter = some expression) :
    planner.overFields (wordingOf filter).expression = expression := by
  unfold matchExpression at h
  by_cases htext : filter.hasText = true
  · rw [if_pos htext] at h
    exact Option.some.inj (Option.ite_none_left_eq_some.1 h).2
  · rw [if_neg htext] at h
    exact absurd h nofun

/-- The full-text expression is contained in its quotes exactly if these hold. -/
theorem contained_matchExpression_iff :
    (∀ expression, planner.matchExpression filter = some expression →
      Contained expression.toList) ↔ planner.QuotesHold filter := by
  have hcontained := planner.hold_overFields (wordingOf filter).hold_expression
  cases hexpression : planner.matchExpression filter with
  | none =>
    exact iff_of_true (fun _ h => absurd h (by simp))
      ⟨fun h => absurd hexpression h, fun h => absurd hexpression h⟩
  | some expression =>
    have hnone : planner.matchExpression filter ≠ none := by simp [hexpression]
    rw [overFields_of_matchExpression hexpression] at hcontained
    have hsome : (∀ other, some expression = some other → Contained other.toList) ↔
        Contained expression.toList := by simp
    rw [hsome, Contained, hcontained]
    cases hbreaks : (wordingOf filter).breaksOut with
    | true => exact iff_of_false (by simp) fun h => by simpa [hbreaks] using h.contained hnone
    | false =>
      rw [if_neg Bool.false_ne_true, Option.some.injEq, Bool.and_eq_false_imp, List.isEmpty_iff]
      exact ⟨fun h => ⟨fun _ => hbreaks, fun _ => h⟩, fun h => h.finished hnone⟩

/-- **Without a backslash in the words searched for, quotes hold.** -/
theorem quotesHold_of_no_backslash (h : ∀ group ∈ (wordingOf filter).groups,
    ∀ variant ∈ group.variants, '\\' ∉ variant.term.toList) : planner.QuotesHold filter where
  contained _ := by
    simp only [Wording.breaksOut, Alternatives.breaksOut, List.any_eq_false]
    intro group hgroup
    rw [Bool.not_eq_true, List.any_eq_false]
    intro variant hvariant
    rw [Bool.not_eq_true]
    exact breaksOut_of_no_backslash (h group hgroup variant hvariant)
  finished _ _ := by
    rw [Wording.endsOpen]
    cases hlast : (wordingOf filter).groups.getLast? with
    | none => rfl
    | some group =>
      have hvariant := h group (List.mem_of_getLast? hlast)
      change group.endsOpen = false
      unfold Alternatives.endsOpen
      split
      · rename_i variant hone
        exact Variant.endsOpen_of_no_backslash (hvariant variant (by simp [hone]))
      · rfl

/-! ### Which statements are sealed -/

/-- **The statements of a filter are sealed exactly if its quotes hold**: a page, a count or the
counts of a taxonomy, whatever the filter's texts, values and taxonomies are called. -/
theorem Sends.sealed_iff_quotesHold (h : planner.Sends filter statement) :
    statement.Sealed planner.Knows ↔ planner.QuotesHold filter := by
  rw [Statement.sealed_iff h.knows fun _ hname => hname.2]
  simp only [h.fullText_mem_iff]
  exact contained_matchExpression_iff

/-- A page of matches for a text with quotes of both kinds, an escaped backslash and an operator, of
a type whose name tries to end its literal. -/
theorem sealed_page_of_hostile_filter :
    (products.page { Filter.ofType "product\\' OR 1=1 -- " with
      text := some "o'neil \\\\' \"50%\" \\" } (some .otherwise) 24 12).Sealed products.Knows :=
  (Sends.sealed_iff_quotesHold (.page _ _ _)).2
    ⟨fun _ => by decide +kernel, fun _ hweights => absurd hweights (by decide)⟩

/-- **A backslash in front of a quote** opens the statement to the search box: not all statements
are sealed that the planner of a product index sends. -/
theorem not_forall_sealed :
    ¬ ∀ (schema : Schema) (settings : Settings) (planner : Planner) (filter : Filter)
      (statement : Statement), ofSettings schema settings = .ok planner →
        planner.Sends filter statement → statement.Sealed planner.Knows := by
  intro hall
  have hsends : products.Sends { Filter.products with text := some "\\'" } _ := .count none
  have hsealed := hall _ _ _ _ _ ofSettings_products hsends
  rw [Statement.sealed_iff hsends.knows fun _ hname => hname.2] at hsealed
  simp only [hsends.fullText_mem_iff] at hsealed
  have hbreaks := (contained_matchExpression_iff.1 hsealed).contained (by decide +kernel)
  exact absurd hbreaks (by decide +kernel)

end Planner

end Storefront
