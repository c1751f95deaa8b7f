import Storefront.Proofs.Number.Numeral
import Storefront.Proofs.Sql.Escape
import Storefront.Sql.Identifier
import Storefront.Sql.Statement

/-!
# Statements in pieces

A statement is one text, but it was written in pieces: the words of the language, names, numbers,
and the texts between quotes. `Sql.Statement.pieces` takes it apart again, clause by clause, and
`Sql.Statement.written_pieces` says that the pieces are the statement, letter by letter.

With the pieces at hand the reader of `Storefront.Proofs.Sql.Scan` can be compared with the writer,
and the comparison comes down to one place (`Sql.reads_as_written_iff`). What the pieces of a
statement are (`Sql.meets_pieces`) depends on its names and its full-text expressions alone: numbers
have no quote, the words of the language are known one by one, and values of columns are always
contained in their quotes.
-/

namespace Storefront.Sql

open Number Text

/-! ### Clauses in pieces -/

/-- A value of a column between its quotes. -/
def Piece.value (value : String) : Piece :=
  .quoted (value.toList.flatMap literalChar)

/-- Parts with a word between neighbours. -/
def separate (separator : String) : List (List Piece) → List Piece
  | [] => []
  | [part] => part
  | part :: next :: rest => part ++ .word separator :: separate separator (next :: rest)

/-- Values of a column with commas between them. -/
def valuePieces (values : List String) : List Piece :=
  separate "," (values.map fun value => [.value value])

/-- Identifiers with commas between them. -/
def idPieces (ids : List Int) : List Piece :=
  separate "," (ids.map fun id => [.number (toString id)])

/-- A condition in pieces. -/
def Condition.pieces : Condition → List Piece
  | .fullText expression => [.word "MATCH(", .quoted expression.toList, .word ")"]
  | .textAmong field [value] => [.name field, .word " = ", .value value]
  | .textAmong field values =>
    [.name field, .word " IN ("] ++ valuePieces values ++ [.word ")"]
  | .textDiffers field value => [.name field, .word " != ", .value value]
  | .idIs field id => [.name field, .word " = ", .number (toString id)]
  | .idAmong field [id] => [.name field, .word " = ", .number (toString id)]
  | .idAmong field ids =>
    [.name field, .word " IN ("] ++ idPieces ids ++ [.word ")"]
  | .idNotAmong field ids =>
    [.name field, .word " NOT IN ("] ++ idPieces ids ++ [.word ")"]
  | .atLeast field bound => [.name field, .word " >= ", .number bound.toText]
  | .atMost field bound => [.name field, .word " <= ", .number bound.toText]

/-- The conditions of a statement, with the word in front of them. -/
def wherePieces (conditions : List Condition) : List Piece :=
  .word " WHERE " :: separate " AND " (conditions.map Condition.pieces)

/-- The weight of a field in pieces. -/
def weightPieces (weight : String × Nat) : List Piece :=
  [.name weight.1, .word "=", .number (toString weight.2)]

/-- A ranking in pieces. -/
def rankingPieces : Option Ranking → List Piece
  | none => []
  | some ranking =>
    [.word ", field_weights=("] ++
      separate ", " (ranking.weights.map weightPieces) ++
      [.word "), ranker=", .name ranking.ranker]

namespace Statement

/-- The conditions of a statement. -/
def conditions : Statement → List Condition
  | .page _ conditions .. => conditions
  | .count _ conditions => conditions
  | .countByStock _ conditions => conditions
  | .facet _ conditions .. => conditions

/-- **A statement in pieces.** -/
def pieces : Statement → List Piece
  | .page index conditions scored order offset rows window ranking =>
    [.word "SELECT ", .word (if scored then "id, WEIGHT() AS relevance" else "id"), .word " FROM ",
      .name index] ++ wherePieces conditions ++
    [.word " ORDER BY ", .word (renderOrder order), .word " LIMIT ", .number (toString offset),
      .word ",", .number (toString rows), .word " OPTION max_matches=",
      .number (toString window)] ++ rankingPieces ranking
  | .count index conditions =>
    [.word "SELECT COUNT(*) FROM ", .name index] ++ wherePieces conditions
  | .countByStock index conditions =>
    [.word "SELECT stock_status, COUNT(*) AS cnt FROM ", .name index] ++ wherePieces conditions ++
      [.word " GROUP BY stock_status"]
  | .facet index conditions field window limit =>
    [.word "SELECT id FROM ", .name index] ++ wherePieces conditions ++
      [.word " LIMIT 0,1 OPTION max_matches=", .number (toString window), .word " FACET ",
        .name field, .word " ORDER BY COUNT(*) DESC LIMIT ", .number (toString limit)]

end Statement

/-! ### The pieces are the statement -/

@[simp] theorem written_nil : written [] = [] := rfl

@[simp] theorem written_cons (piece : Piece) (pieces : List Piece) :
    written (piece :: pieces) = piece.chars ++ written pieces := rfl

@[simp] theorem written_append (pieces more : List Piece) :
    written (pieces ++ more) = written pieces ++ written more :=
  List.flatMap_append

@[simp] theorem chars_word (text : String) : (Piece.word text).chars = text.toList := rfl
@[simp] theorem chars_name (text : String) : (Piece.name text).chars = text.toList := rfl
@[simp] theorem chars_number (text : String) : (Piece.number text).chars = text.toList := rfl

@[simp] theorem chars_value (value : String) : (Piece.value value).chars = (literal value).toList := by
  simp [Piece.value, Piece.chars, literal, literalChars]

/-- Parts that are texts make, with a word between them, the texts joined by it. -/
theorem written_separate {α : Type} (separator : String) (part : α → List Piece)
    (text : α → String) (h : ∀ a, written (part a) = (text a).toList) (as : List α) :
    written (separate separator (as.map part)) = (joinWith separator (as.map text)).toList := by
  induction as with
  | nil => rfl
  | cons a as ih =>
    cases as with
    | nil => exact h a
    | cons b bs =>
      simp only [List.map_cons] at ih ⊢
      rw [separate, joinWith, written_append, written_cons, ih, h]
      simp

theorem written_valuePieces (values : List String) :
    written (valuePieces values) = (joinWith "," (values.map literal)).toList :=
  written_separate "," _ literal (fun value => by simp) values

theorem written_idPieces (ids : List Int) : written (idPieces ids) = (renderIds ids).toList :=
  written_separate "," _ toString (fun id => by simp) ids

theorem Condition.written_pieces (condition : Condition) :
    written condition.pieces = condition.render.toList := by
  fun_cases Condition.render condition with
  | case1 expression =>
    have hopen : "MATCH('".toList = "MATCH(".toList ++ ['\x27'] := by decide
    have hclose : "')".toList = ['\x27'] ++ ")".toList := by decide
    simp only [pieces, written_cons, written_nil, Piece.chars, String.toList_append,
      hopen, hclose, List.append_assoc, List.cons_append, List.nil_append, List.append_nil]
  -- a list of one value is written as an equation, so here there are more or none
  | case3 field values hmany =>
    rw [pieces.eq_3 field values hmany]
    simp only [written_cons, written_nil, written_append, chars_word, chars_name,
      written_valuePieces, String.toList_append, List.append_assoc, List.append_nil]
  | case7 field ids hmany =>
    rw [pieces.eq_7 field ids hmany]
    simp only [written_cons, written_nil, written_append, chars_word, chars_name,
      written_idPieces, String.toList_append, List.append_assoc, List.append_nil]
  | case8 field ids =>
    simp only [pieces, written_cons, written_nil, written_append, chars_word, chars_name,
      written_idPieces, String.toList_append, List.append_assoc, List.append_nil]
  | _ =>
    simp only [pieces, written_cons, written_nil, chars_word, chars_name, chars_number, chars_value,
      String.toList_append, List.append_assoc, List.append_nil]

theorem written_wherePieces (conditions : List Condition) :
    written (wherePieces conditions) = (renderWhere conditions).toList := by
  rw [wherePieces, written_cons,
    written_separate " AND " _ Condition.render Condition.written_pieces, renderWhere,
    String.toList_append, chars_word]

theorem renderRanking_some (ranking : Ranking) :
    renderRanking (some ranking) =
      ", field_weights=(" ++ joinWith ", " (ranking.weights.map fun (field, weight) =>
        field ++ "=" ++ toString weight) ++ "), ranker=" ++ ranking.ranker := rfl

theorem written_rankingPieces (ranking : Option Ranking) :
    written (rankingPieces ranking) = (renderRanking ranking).toList := by
  cases ranking with
  | none => rfl
  | some ranking =>
    have hweights : written (separate ", " (ranking.weights.map weightPieces)) =
        (joinWith ", " (ranking.weights.map fun (field, weight) =>
          field ++ "=" ++ toString weight)).toList := by
      refine written_separate ", " weightPieces _ ?_ ranking.weights
      rintro ⟨field, weight⟩
      simp only [weightPieces, written_cons, written_nil, chars_word, chars_name, chars_number,
        String.toList_append, List.append_assoc, List.append_nil]
    rw [rankingPieces, renderRanking_some, written_append, written_append, hweights]
    simp only [written_cons, written_nil, chars_word, chars_name, String.toList_append,
      List.append_assoc, List.append_nil]

namespace Statement

theorem render_page (index : String) (conditions : List Condition) (scored : Bool)
    (order : SortOrder) (offset rows window : Nat) (ranking : Option Ranking) :
    (page index conditions scored order offset rows window ranking).render =
      "SELECT " ++ (if scored then "id, WEIGHT() AS relevance" else "id") ++ " FROM " ++ index ++
        renderWhere conditions ++ " ORDER BY " ++ renderOrder order ++
        " LIMIT " ++ toString offset ++ "," ++ toString rows ++
        " OPTION max_matches=" ++ toString window ++ renderRanking ranking := rfl

theorem render_count (index : String) (conditions : List Condition) :
    (count index conditions).render =
      "SELECT COUNT(*) FROM " ++ index ++ renderWhere conditions := rfl

theorem render_countByStock (index : String) (conditions : List Condition) :
    (countByStock index conditions).render =
      "SELECT stock_status, COUNT(*) AS cnt FROM " ++ index ++ renderWhere conditions ++
        " GROUP BY stock_status" := rfl

theorem render_facet (index : String) (conditions : List Condition) (field : String)
    (window limit : Nat) :
    (facet index conditions field window limit).render =
      "SELECT id FROM " ++ index ++ renderWhere conditions ++
        " LIMIT 0,1 OPTION max_matches=" ++ toString window ++
        " FACET " ++ field ++ " ORDER BY COUNT(*) DESC LIMIT " ++ toString limit := rfl

/-- **The pieces of a statement are its text.** -/
theorem written_pieces (statement : Statement) :
    written statement.pieces = statement.render.toList := by
  cases statement with
  | page index conditions scored order offset rows window ranking =>
    rw [render_page, pieces]
    simp only [written_append, written_cons, written_nil, chars_word, chars_name, chars_number,
      written_wherePieces, written_rankingPieces, String.toList_append, List.append_assoc,
      List.append_nil]
  | count index conditions =>
    rw [render_count, pieces]
    simp only [written_append, written_cons, written_nil, chars_word, chars_name,
      written_wherePieces, String.toList_append, List.append_assoc, List.append_nil]
  | countByStock index conditions =>
    rw [render_countByStock, pieces]
    simp only [written_append, written_cons, written_nil, chars_word, chars_name,
      written_wherePieces, String.toList_append, List.append_assoc, List.append_nil]
  | facet index conditions field window limit =>
    rw [render_facet, pieces]
    simp only [written_append, written_cons, written_nil, chars_word, chars_name, chars_number,
      written_wherePieces, String.toList_append, List.append_assoc, List.append_nil]

end Statement

/-! ### What is in the pieces -/

/-- The characters of a statement outside its literals. -/
def isCodeChar (c : Char) : Bool :=
  isIdentifierChar c || c ∈ [' ', '(', ')', ',', '=', '!', '<', '>', '*', '.', '-']

theorem isCodeChar_of_isIdentifierChar {c : Char} (h : isIdentifierChar c = true) :
    isCodeChar c = true := by
  simp [isCodeChar, h]

theorem isCodeChar_of_isNumeralChar {c : Char} (h : isNumeralChar c = true) :
    isCodeChar c = true := by
  simp only [isNumeralChar, Bool.or_eq_true, decide_eq_true_eq] at h
  rcases h with (h | rfl) | rfl
  · simp [isCodeChar, isIdentifierChar, h]
  · rfl
  · rfl

/-- The orders that pages come in, as they are written. -/
def orderWords : List String :=
  [.relevance, .price, .popularity, .rating, .date, .id, .menuOrder].flatMap fun key =>
    [renderOrder ⟨key, .ascending⟩, renderOrder ⟨key, .descending⟩]

/-- **The fixed words of all statements.** -/
def vocabulary : List String :=
  ["SELECT ", "id, WEIGHT() AS relevance", "id", " FROM ", "SELECT COUNT(*) FROM ",
    "SELECT stock_status, COUNT(*) AS cnt FROM ", "SELECT id FROM ", " WHERE ", "MATCH(", ")",
    " AND ", " = ", " != ", " >= ", " <= ", " IN (", " NOT IN (", ",", " ORDER BY ", " LIMIT ",
    " OPTION max_matches=", ", field_weights=(", "=", ", ", "), ranker=", " GROUP BY stock_status",
    " LIMIT 0,1 OPTION max_matches=", " FACET ", " ORDER BY COUNT(*) DESC LIMIT "] ++ orderWords

theorem isCodeChar_of_mem_vocabulary {text : String} (h : text ∈ vocabulary) :
    ∀ c ∈ text.toList, isCodeChar c = true := by
  have hall : (vocabulary.all fun text => text.toList.all isCodeChar) = true := by decide +kernel
  exact List.all_eq_true.1 (List.all_eq_true.1 hall text h)

theorem renderOrder_mem_vocabulary (order : SortOrder) : renderOrder order ∈ vocabulary := by
  refine List.mem_append_right _ (List.mem_flatMap.2 ⟨order.key, ?_, ?_⟩)
  · cases order.key <;> decide
  · obtain ⟨key, direction⟩ := order
    cases direction <;> simp

namespace Piece

/-- **What a piece may be**: a word of the vocabulary, a number in the characters of numbers, a name
of one kind, a quoted text of another. -/
def Meets (names : String → Prop) (texts : List Char → Prop) : Piece → Prop
  | word text => text ∈ vocabulary
  | number text => ∀ c ∈ text.toList, isNumeralChar c = true
  | name text => names text
  | quoted content => texts content

section Meets

variable {names : String → Prop} {texts : List Char → Prop}

@[simp] theorem meets_word {text : String} :
    (word text).Meets names texts ↔ text ∈ vocabulary := Iff.rfl

@[simp] theorem meets_name {text : String} : (name text).Meets names texts ↔ names text := Iff.rfl

@[simp] theorem meets_quoted {content : List Char} :
    (quoted content).Meets names texts ↔ texts content := Iff.rfl

@[simp] theorem meets_value {text : String} :
    (value text).Meets names texts ↔ texts (text.toList.flatMap literalChar) := Iff.rfl

@[simp] theorem meets_nat (n : Nat) : (number n.repr).Meets names texts :=
  fun _ hc => isNumeralChar_of_mem_nat hc

@[simp] theorem meets_int (n : Int) : (number n.repr).Meets names texts :=
  fun _ hc => isNumeralChar_of_mem_int hc

@[simp] theorem meets_double (x : Binary64) : (number x.toText).Meets names texts :=
  fun _ hc => isNumeralChar_of_mem_toText hc

end Meets

/-- Where all names are identifiers, code has no quotes. -/
theorem Meets.plain {names : String → Prop} {texts : List Char → Prop} {piece : Piece}
    (h : piece.Meets names texts)
    (hidentifier : ∀ name, names name → ∀ c ∈ name.toList, isIdentifierChar c = true) :
    piece.Plain := by
  have hcode : ∀ text : String, (∀ c ∈ text.toList, isCodeChar c = true) →
      '\x27' ∉ text.toList := fun text hall hmem => absurd (hall _ hmem) (by decide)
  cases piece with
  | quoted content => trivial
  | word text => exact hcode text (isCodeChar_of_mem_vocabulary h)
  | number text => exact hcode text fun c hc => isCodeChar_of_isNumeralChar (h c hc)
  | name text => exact hcode text fun c hc => isCodeChar_of_isIdentifierChar (hidentifier _ h c hc)

/-- Where all quoted texts are contained in their quotes, every piece holds. -/
theorem Meets.holds {names : String → Prop} {piece : Piece} (h : piece.Meets names Contained) :
    piece.Holds := by
  cases piece with
  | quoted content => exact h
  | _ => trivial

end Piece

/-! ### What is in a statement -/

/-- What holds of the separator and of all parts holds of the parts between separators. -/
theorem forall_mem_separate {P : Piece → Prop} {separator : String} {parts : List (List Piece)}
    (hseparator : P (.word separator)) (hparts : ∀ part ∈ parts, ∀ piece ∈ part, P piece) :
    ∀ piece ∈ separate separator parts, P piece := by
  fun_induction separate separator parts with
  | case1 => simp
  | case2 part => exact hparts part (by simp)
  | case3 part next rest ih =>
    have hnext := ih fun other hother => hparts other (List.mem_cons_of_mem _ hother)
    intro piece h
    rcases List.mem_append.1 h with h | h
    · exact hparts part (by simp) piece h
    · rcases List.mem_cons.1 h with rfl | h
      · exact hseparator
      · exact hnext piece h

theorem mem_separate_of_mem (separator : String) {parts : List (List Piece)} {part : List Piece}
    {piece : Piece} (hpart : part ∈ parts) (h : piece ∈ part) :
    piece ∈ separate separator parts := by
  fun_induction separate separator parts with
  | case1 => simp at hpart
  | case2 only => rwa [← List.mem_singleton.1 hpart]
  | case3 first next rest ih =>
    rcases List.mem_cons.1 hpart with rfl | hpart
    · exact List.mem_append_left _ h
    · exact List.mem_append_right _ (List.mem_cons_of_mem _ (ih hpart))

/-- The field that a condition is on; a full-text expression is on none. -/
def Condition.field? : Condition → Option String
  | .fullText _ => none
  | .textAmong field _ | .textDiffers field _ | .idIs field _ | .idAmong field _
  | .idNotAmong field _ | .atLeast field _ | .atMost field _ => some field

/-- The names in a ranking. -/
def rankingNames : Option Ranking → List String
  | none => []
  | some ranking => ranking.weights.map (·.1) ++ [ranking.ranker]

/-- The names in a statement. -/
def Statement.names : Statement → List String
  | .page index conditions _ _ _ _ _ ranking =>
    index :: conditions.filterMap Condition.field? ++ rankingNames ranking
  | .count index conditions | .countByStock index conditions =>
    index :: conditions.filterMap Condition.field?
  | .facet index conditions field _ _ =>
    index :: conditions.filterMap Condition.field? ++ [field]

/-- The fields of its conditions are names of a statement. -/
theorem Statement.field_mem_names {statement : Statement} {field : String}
    (h : field ∈ statement.conditions.filterMap Condition.field?) : field ∈ statement.names := by
  cases statement with
  | page => exact List.mem_cons_of_mem _ (List.mem_append_left _ h)
  | count => exact List.mem_cons_of_mem _ h
  | countByStock => exact List.mem_cons_of_mem _ h
  | facet => exact List.mem_cons_of_mem _ (List.mem_append_left _ h)

/-- Every statement has its conditions among its pieces. -/
theorem Statement.mem_pieces_of_mem_where {statement : Statement} {piece : Piece}
    (h : piece ∈ wherePieces statement.conditions) : piece ∈ statement.pieces := by
  cases statement <;> simp_all [Statement.pieces, Statement.conditions]

section Meets

variable {names : String → Prop} {texts : List Char → Prop}
  (hvalue : ∀ cs : List Char, texts (cs.flatMap literalChar))

include hvalue

theorem meets_valuePieces (values : List String) :
    ∀ piece ∈ valuePieces values, piece.Meets names texts := by
  refine forall_mem_separate (Piece.meets_word.2 (by decide)) ?_
  intro part hpart piece hpiece
  obtain ⟨value, -, rfl⟩ := List.mem_map.1 hpart
  rw [List.mem_singleton.1 hpiece]
  exact hvalue _

omit hvalue in
theorem meets_idPieces (ids : List Int) :
    ∀ piece ∈ idPieces ids, piece.Meets names texts := by
  refine forall_mem_separate (Piece.meets_word.2 (by decide)) ?_
  intro part hpart piece hpiece
  obtain ⟨id, -, rfl⟩ := List.mem_map.1 hpart
  rw [List.mem_singleton.1 hpiece]
  exact Piece.meets_int id

/-- What the pieces of a condition are depends on its field and its expression. -/
theorem meets_conditionPieces (condition : Condition)
    (hfield : ∀ field ∈ condition.field?, names field)
    (hexpression : ∀ expression : String,
      condition = .fullText expression → texts expression.toList) :
    ∀ piece ∈ condition.pieces, piece.Meets names texts := by
  fun_cases Condition.pieces condition with
  | case1 expression => simpa +decide using hexpression expression rfl
  | case2 field value => simpa +decide using ⟨hfield field rfl, hvalue _⟩
  | case3 field values hmany =>
    simpa +decide [or_imp, forall_and] using ⟨hfield field rfl, meets_valuePieces hvalue values⟩
  | case4 field value => simpa +decide using ⟨hfield field rfl, hvalue _⟩
  | case7 field ids hmany =>
    simpa +decide [or_imp, forall_and] using ⟨hfield field rfl, meets_idPieces ids⟩
  | case8 field ids =>
    simpa +decide [or_imp, forall_and] using ⟨hfield field rfl, meets_idPieces ids⟩
  | _ field => simpa +decide using hfield field rfl

/-- The conditions of a statement. -/
theorem meets_wherePieces (conditions : List Condition)
    (hfields : ∀ field ∈ conditions.filterMap Condition.field?, names field)
    (hexpressions : ∀ expression : String,
      .fullText expression ∈ conditions → texts expression.toList) :
    ∀ piece ∈ wherePieces conditions, piece.Meets names texts := by
  refine List.forall_mem_cons.2 ⟨Piece.meets_word.2 (by decide), ?_⟩
  refine forall_mem_separate (Piece.meets_word.2 (by decide)) ?_
  intro part hpart
  obtain ⟨condition, hcondition, rfl⟩ := List.mem_map.1 hpart
  refine meets_conditionPieces hvalue condition ?_ ?_
  · intro field hfield
    exact hfields field (List.mem_filterMap.2 ⟨condition, hcondition, hfield⟩)
  · rintro expression rfl
    exact hexpressions expression hcondition

omit hvalue in
theorem meets_rankingPieces (ranking : Option Ranking)
    (hnames : ∀ name ∈ rankingNames ranking, names name) :
    ∀ piece ∈ rankingPieces ranking, piece.Meets names texts := by
  cases ranking with
  | none => simp [rankingPieces]
  | some ranking =>
    have hweights : ∀ piece ∈ separate ", " (ranking.weights.map weightPieces),
        piece.Meets names texts := by
      refine forall_mem_separate (Piece.meets_word.2 (by decide)) ?_
      intro part hpart
      obtain ⟨weight, hweight, rfl⟩ := List.mem_map.1 hpart
      have hname := hnames weight.1 (by
        rw [rankingNames]
        exact List.mem_append_left _ (List.mem_map_of_mem hweight))
      simpa +decide [weightPieces] using hname
    have hranker := hnames ranking.ranker (by simp [rankingNames])
    simpa +decide [rankingPieces, or_imp, forall_and] using ⟨hweights, hranker⟩

/-- **What the pieces of a statement are** depends on its names and its expressions. -/
theorem meets_pieces (statement : Statement) (hnames : ∀ name ∈ statement.names, names name)
    (hexpressions : ∀ expression : String,
      .fullText expression ∈ statement.conditions → texts expression.toList) :
    ∀ piece ∈ statement.pieces, piece.Meets names texts := by
  have hfields : ∀ field ∈ statement.conditions.filterMap Condition.field?, names field :=
    fun field hfield => hnames field (Statement.field_mem_names hfield)
  have hwhere := meets_wherePieces hvalue statement.conditions hfields hexpressions
  cases statement with
  | page index conditions scored order offset rows window ranking =>
    have hindex := hnames index (by simp [Statement.names])
    have hranking : ∀ piece ∈ rankingPieces ranking, piece.Meets names texts :=
      meets_rankingPieces ranking fun name hname =>
        hnames name (by simp [Statement.names, hname])
    have hcolumns : (if scored then "id, WEIGHT() AS relevance" else "id") ∈ vocabulary := by
      cases scored <;> decide
    have horder := renderOrder_mem_vocabulary order
    simpa +decide [Statement.pieces, or_imp, forall_and] using
      ⟨hcolumns, hindex, hwhere, horder, hranking⟩
  | count index conditions =>
    have hindex := hnames index (by simp [Statement.names])
    simpa +decide [Statement.pieces, or_imp, forall_and] using ⟨hindex, hwhere⟩
  | countByStock index conditions =>
    have hindex := hnames index (by simp [Statement.names])
    simpa +decide [Statement.pieces, or_imp, forall_and] using ⟨hindex, hwhere⟩
  | facet index conditions field window limit =>
    have hindex := hnames index (by simp [Statement.names])
    have hfield := hnames field (by simp [Statement.names])
    simpa +decide [Statement.pieces, or_imp, forall_and] using ⟨hindex, hwhere, hfield⟩

end Meets

end Storefront.Sql
