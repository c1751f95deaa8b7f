import Storefront.Proofs.Number.Order
import Storefront.Proofs.Number.Spelling
import Storefront.Proofs.Sql.Pieces
import Storefront.Proofs.Sql.Tokens

/-!
# What conditions say of a document

An engine does not see conditions but the text of a clause. It reads the text as a conjunction of
*predicates* (`Sql.readWhere?`) and keeps the documents that satisfy all of them
(`Sql.Predicate.holds`). The reader knows the comparisons `=`, `!=`, `>=` and `<=` and the lists of
`IN` and `NOT IN`, and it tells a text from an identifier by the quotes.

Main statement: the clause of a list of conditions is read as what the conditions say, one predicate
for each (`Sql.readWhere?_renderWhere`). This needs of a condition only what its text needs to be
readable at all (`Sql.Condition.IsReadable`): a name that is a word and not the word between
predicates, and a list that is not empty.
-/

namespace Storefront

open Number Text

namespace Sql

/-! ### Documents and predicates -/

/-- A document of an index, by the names of its fields. No document has the identifier zero. -/
structure IndexedDocument where
  id : Int
  id_ne_zero : id ≠ 0
  /-- The attributes that are texts. -/
  text : String → String
  /-- The attributes that are numbers. -/
  number : String → Binary64
  /-- The multi-valued fields. -/
  terms : String → List Int

/-- Whether the document has the identifier, or holds it among the values of the field. -/
def IndexedDocument.carries (document : IndexedDocument) (field : String) (id : Int) : Bool :=
  if field = "id" then document.id == id else document.terms field |>.contains id

/-- A predicate on documents, as an engine has read it. -/
inductive Predicate where
  /-- The field has one of the values. -/
  | textAmong (field : String) (values : List String)
  /-- The field has none of the values. -/
  | textNotAmong (field : String) (values : List String)
  /-- The field is, or holds among its values, one of the identifiers. -/
  | idAmong (field : String) (ids : List Int)
  /-- The field neither is one of the identifiers nor holds any. -/
  | idNotAmong (field : String) (ids : List Int)
  /-- The field is a number from the bound on. -/
  | atLeast (field : String) (bound : Binary64)
  /-- The field is a number up to the bound. -/
  | atMost (field : String) (bound : Binary64)
deriving DecidableEq

/-- **Whether a document satisfies a predicate.** -/
def Predicate.holds (document : IndexedDocument) : Predicate → Bool
  | .textAmong field values => values.contains (document.text field)
  | .textNotAmong field values => !values.contains (document.text field)
  | .idAmong field ids => ids.any (document.carries field)
  | .idNotAmong field ids => !ids.any (document.carries field)
  | .atLeast field bound => bound.le (document.number field)
  | .atMost field bound => (document.number field).le bound

/-! ### The reader -/

namespace Token

/-- The content of a literal. -/
def text? : Token → Option String
  | .quoted content => some content
  | _ => none

/-- The whole number that a word spells. -/
def whole? : Token → Option Int
  | .word text => readWhole? text.toList
  | _ => none

/-- The double that a word spells. -/
def double? : Token → Option Binary64
  | .word text => Binary64.read? text.toList
  | _ => none

end Token

/-- The items of a list, read behind the opening parenthesis. -/
def readList? : List Token → Option (List Token)
  | [item, .mark ')'] => some [item]
  | item :: .mark ',' :: rest => (readList? rest).map (item :: ·)
  | _ => none

/-- That a field has one of some values: all of them texts, or all of them identifiers. -/
def among? (field : String) (values : List Token) : Option Predicate :=
  match values.mapM Token.text? with
  | some texts => some (.textAmong field texts)
  | none => (values.mapM Token.whole?).map (.idAmong field)

/-- That a field has none of some values. -/
def notAmong? (field : String) (values : List Token) : Option Predicate :=
  match values.mapM Token.text? with
  | some texts => some (.textNotAmong field texts)
  | none => (values.mapM Token.whole?).map (.idNotAmong field)

/-- **One predicate**: a comparison, or a list. -/
def readPredicate? : List Token → Option Predicate
  | [.word field, .sign "=", value] => among? field [value]
  | [.word field, .sign "!=", value] => notAmong? field [value]
  | [.word field, .sign ">=", value] => value.double?.map (.atLeast field)
  | [.word field, .sign "<=", value] => value.double?.map (.atMost field)
  | .word field :: .word "IN" :: .mark '(' :: list => (readList? list).bind (among? field)
  | .word field :: .word "NOT" :: .word "IN" :: .mark '(' :: list =>
    (readList? list).bind (notAmong? field)
  | _ => none

/-- **The predicates of a clause**, with the word `AND` between neighbours. -/
def readWhere? (s : String) : Option (List Predicate) :=
  match lex s.toList with
  | some (.word "WHERE" :: tokens) => (tokens.splitOn (.word "AND")).mapM readPredicate?
  | _ => none

/-! ### Lists -/

/-- Reading all items of a list, each of which is readable. -/
theorem mapM_eq_some_filterMap {α β γ : Type} (read : β → Option γ) (item : α → β)
    (content : α → Option γ) {as : List α}
    (h : ∀ a ∈ as, (content a).isSome ∧ read (item a) = content a) :
    (as.map item).mapM read = some (as.filterMap content) := by
  induction as with
  | nil => rfl
  | cons a as ih =>
    obtain ⟨hsome, hread⟩ := h a List.mem_cons_self
    obtain ⟨c, hc⟩ := Option.isSome_iff_exists.1 hsome
    rw [List.map_cons, List.mapM_cons, ih fun b hb => h b (List.mem_cons_of_mem _ hb), hread, hc,
      List.filterMap_cons_some hc]
    rfl

/-- What is between two neighbours is one of the two or the separator. -/
theorem mem_of_mem_intersperse {α : Type} {separator a : α} {as : List α}
    (h : a ∈ as.intersperse separator) : a = separator ∨ a ∈ as := by
  induction as with
  | nil => simp at h
  | cons b as ih =>
    cases as with
    | nil => exact .inr h
    | cons c as =>
      rw [List.intersperse_cons_cons, List.mem_cons, List.mem_cons] at h
      rcases h with rfl | h | h
      · simp
      · exact .inl h
      · exact (ih h).imp_right (List.mem_cons_of_mem _)

/-! ### What a condition says -/

namespace Condition

/-- **What a condition says of a document**; a full-text expression is about its text fields and
says nothing here. Control characters do not count in values. -/
def predicate? : Condition → Option Predicate
  | .fullText _ => none
  | .textAmong field values => some (.textAmong field (values.map withoutControls))
  | .textDiffers field value => some (.textNotAmong field [withoutControls value])
  | .idIs field id => some (.idAmong field [id])
  | .idAmong field ids => some (.idAmong field ids)
  | .idNotAmong field ids => some (.idNotAmong field ids)
  | .atLeast field bound => some (.atLeast field bound)
  | .atMost field bound => some (.atMost field bound)

/-- The tokens of a list of values. -/
def listTokens (values : List Token) : List Token :=
  .mark '(' :: (values.intersperse (.mark ',') ++ [.mark ')'])

/-- The tokens that a condition on a field is written in. -/
def tokens : Condition → List Token
  | .fullText _ => []
  | .textAmong field [value] => [.word field, .sign "=", .quoted (withoutControls value)]
  | .textAmong field values =>
    [.word field, .word "IN"] ++
      listTokens (values.map fun value => .quoted (withoutControls value))
  | .textDiffers field value => [.word field, .sign "!=", .quoted (withoutControls value)]
  | .idIs field id => [.word field, .sign "=", .word (toString id)]
  | .idAmong field [id] => [.word field, .sign "=", .word (toString id)]
  | .idAmong field ids =>
    [.word field, .word "IN"] ++ listTokens (ids.map fun id => .word (toString id))
  | .idNotAmong field ids =>
    [.word field, .word "NOT", .word "IN"] ++ listTokens (ids.map fun id => .word (toString id))
  | .atLeast field bound => [.word field, .sign ">=", .word bound.toText]
  | .atMost field bound => [.word field, .sign "<=", .word bound.toText]

/-- What the values of a condition have to be for its text to be readable: not an empty list. -/
def HasReadableValues : Condition → Prop
  | .fullText _ => False
  | .textAmong _ values => values ≠ []
  | .idAmong _ ids | .idNotAmong _ ids => ids ≠ []
  | .textDiffers _ _ | .idIs _ _ | .atLeast _ _ | .atMost _ _ => True

/-- A condition whose text can be read. -/
structure IsReadable (condition : Condition) : Prop where
  isWord_field : ∀ field ∈ condition.field?, IsWord field ∧ field ≠ "AND"
  values : condition.HasReadableValues

/-! ### The tokens of a condition -/

theorem isWord_toString (id : Int) : IsWord (toString id) := by
  refine ⟨?_, fun c hc => ?_⟩
  · intro h
    have := readWhole?_toString id
    rw [h] at this
    cases this
  · rw [isWordChar, isNumeralChar_of_mem_int hc, Bool.true_or]

theorem isWord_toText (bound : Binary64) : IsWord bound.toText := by
  refine ⟨?_, fun c hc => ?_⟩
  · intro h
    have := bound.read?_toText
    rw [h] at this
    cases this
  · rw [isWordChar, isNumeralChar_of_mem_toText hc, Bool.true_or]

variable {cs : List Char} {tokens : List Token}

/-- A whole number is one token. -/
theorem lexes_toString_append (id : Int) (h : Lexes cs tokens) (hends : EndsWord cs) :
    Lexes ((toString id).toList ++ cs) (.word (toString id) :: tokens) :=
  h.word_append (isWord_toString id) hends

/-- The word in front of a list. -/
theorem lexes_in_append (h : Lexes cs tokens) :
    Lexes (" IN (".toList ++ cs) (.word "IN" :: .mark '(' :: tokens) := by
  have hlist : Lexes (' ' :: '(' :: cs) (.mark '(' :: tokens) :=
    .blank_cons (h.mark_cons (by decide))
  have hword : IsWord "IN" := by decide
  exact .blank_cons (hlist.word_append hword (endsWord_cons (by decide) _))

theorem lexes_notIn_append (h : Lexes cs tokens) :
    Lexes (" NOT IN (".toList ++ cs) (.word "NOT" :: .word "IN" :: .mark '(' :: tokens) := by
  have hword : IsWord "NOT" := by decide
  exact .blank_cons ((lexes_in_append h).word_append hword (endsWord_cons (by decide) _))

theorem lexes_close : Lexes [')'] [.mark ')'] :=
  lexes_nil.mark_cons (by decide)

/-- Whole numbers up to the closing parenthesis. -/
theorem lexes_renderIds (ids : List Int) :
    Lexes ((renderIds ids).toList ++ [')'])
      ((ids.map fun id => .word (toString id)).intersperse (.mark ',') ++ [.mark ')']) :=
  lexes_close.joinWith_append (endsWord_cons (by decide) _)
    (fun id _ _ => lexes_toString_append id) ids

/-- Values up to the closing parenthesis. -/
theorem lexes_values (values : List String) :
    Lexes ((joinWith "," (values.map literal)).toList ++ [')'])
      ((values.map fun value => .quoted (withoutControls value)).intersperse (.mark ',') ++
        [.mark ')']) :=
  lexes_close.joinWith_append (endsWord_cons (by decide) _)
    (fun value _ _ h _ => h.literal_append value) values

/-- A comparison of a field with what stands behind the sign. -/
theorem lexes_comparison (sign : String) (hsign : sign ∈ ["=", "!=", ">=", "<="]) {field : String}
    {value : List Char} {token : Token} (hfield : IsWord field) (hvalue : Lexes value [token]) :
    Lexes (field.toList ++ ' ' :: (sign.toList ++ ' ' :: value))
      [.word field, .sign sign, token] :=
  (hvalue.sign_append hsign).word_append hfield (endsWord_cons (by decide) _)

theorem lexes_literal (value : String) :
    Lexes (literal value).toList [.quoted (withoutControls value)] := by
  simpa using lexes_nil.literal_append value

theorem lexes_word {text : String} (h : IsWord text) : Lexes text.toList [.word text] := by
  simpa using lexes_nil.word_append h endsWord_nil

/-- **The text of a readable condition falls into its tokens.** -/
theorem IsReadable.lexes_render {condition : Condition} (h : condition.IsReadable) :
    Lexes condition.render.toList condition.tokens := by
  obtain ⟨hfield, hvalues⟩ := h
  fun_cases Condition.render condition with
  | case1 expression => exact hvalues.elim
  | case2 field value =>
    have hname := (hfield field rfl).1
    simpa [tokens] using lexes_comparison "=" (by decide) hname (lexes_literal value)
  -- a list of one value is written as an equation, so here there are more or none
  | case3 field values hmany =>
    have hname := (hfield field rfl).1
    rw [tokens.eq_3 field values hmany]
    simpa [listTokens] using
      (lexes_in_append (lexes_values values)).word_append hname (endsWord_cons (by decide) _)
  | case4 field value =>
    have hname := (hfield field rfl).1
    simpa [tokens] using lexes_comparison "!=" (by decide) hname (lexes_literal value)
  | case5 field id | case6 field id =>
    have hname := (hfield field rfl).1
    simpa [tokens] using lexes_comparison "=" (by decide) hname (lexes_word (isWord_toString id))
  | case7 field ids hmany =>
    have hname := (hfield field rfl).1
    rw [tokens.eq_7 field ids hmany]
    simpa [listTokens] using
      (lexes_in_append (lexes_renderIds ids)).word_append hname (endsWord_cons (by decide) _)
  | case8 field ids =>
    have hname := (hfield field rfl).1
    simpa [listTokens, tokens] using
      (lexes_notIn_append (lexes_renderIds ids)).word_append hname (endsWord_cons (by decide) _)
  | case9 field bound =>
    have hname := (hfield field rfl).1
    simpa [tokens] using lexes_comparison ">=" (by decide) hname (lexes_word (isWord_toText bound))
  | case10 field bound =>
    have hname := (hfield field rfl).1
    simpa [tokens] using lexes_comparison "<=" (by decide) hname (lexes_word (isWord_toText bound))

/-! ### The predicate of a condition -/

/-- The items of a list are read back. -/
theorem readList?_intersperse {items : List Token} (hne : items ≠ []) :
    readList? (items.intersperse (.mark ',') ++ [.mark ')']) = some items := by
  induction items with
  | nil => exact absurd rfl hne
  | cons item items ih =>
    cases items with
    | nil => rfl
    | cons next items =>
      have hnext := ih (List.cons_ne_nil _ _)
      rw [List.intersperse_cons_cons, List.cons_append, List.cons_append, readList?, hnext]
      rfl

theorem mapM_text? (values : List String) :
    (values.map fun value => Token.quoted (withoutControls value)).mapM Token.text? =
      some (values.map withoutControls) := by
  rw [mapM_eq_some_filterMap Token.text? _ (fun value => some (withoutControls value))
    fun value _ => ⟨rfl, rfl⟩, List.filterMap_eq_map']

theorem mapM_whole? (ids : List Int) :
    (ids.map fun id => Token.word (toString id)).mapM Token.whole? = some ids := by
  have hread : ∀ id ∈ ids, (some id).isSome ∧ (Token.word (toString id)).whole? = some id :=
    fun id _ => ⟨rfl, readWhole?_toString id⟩
  rw [mapM_eq_some_filterMap Token.whole? _ some hread, List.filterMap_some]

/-- Words are no texts. -/
theorem mapM_text?_words {ids : List Int} (hne : ids ≠ []) :
    (ids.map fun id => Token.word (toString id)).mapM Token.text? = none := by
  obtain ⟨id, rest, rfl⟩ := List.exists_cons_of_ne_nil hne
  rfl

theorem among?_values (field : String) (values : List String) :
    among? field (values.map fun value => .quoted (withoutControls value)) =
      some (.textAmong field (values.map withoutControls)) := by
  rw [among?, mapM_text?]

theorem among?_ids (field : String) {ids : List Int} (hne : ids ≠ []) :
    among? field (ids.map fun id => .word (toString id)) = some (.idAmong field ids) := by
  rw [among?, mapM_text?_words hne, mapM_whole?]
  rfl

theorem notAmong?_ids (field : String) {ids : List Int} (hne : ids ≠ []) :
    notAmong? field (ids.map fun id => .word (toString id)) = some (.idNotAmong field ids) := by
  rw [notAmong?, mapM_text?_words hne, mapM_whole?]
  rfl

/-- **The tokens of a readable condition are read as what it says.** -/
theorem IsReadable.readPredicate?_tokens {condition : Condition} (h : condition.IsReadable) :
    condition.predicate?.isSome ∧ readPredicate? condition.tokens = condition.predicate? := by
  have hvalues := h.values
  fun_cases Condition.tokens condition with
  | case1 expression => exact hvalues.elim
  | case2 field value => exact ⟨rfl, rfl⟩
  | case3 field values hmany =>
    refine ⟨rfl, ?_⟩
    have hne : values ≠ [] := hvalues
    change (readList? _).bind (among? field) = _
    rw [readList?_intersperse (by simpa using hne), Option.bind_some, among?_values]
    rfl
  | case4 field value => exact ⟨rfl, rfl⟩
  | case5 field id | case6 field id => exact ⟨rfl, among?_ids field (List.cons_ne_nil id [])⟩
  | case7 field ids hmany =>
    refine ⟨rfl, ?_⟩
    have hne : ids ≠ [] := hvalues
    change (readList? _).bind (among? field) = _
    rw [readList?_intersperse (by simpa using hne), Option.bind_some, among?_ids field hne]
    rfl
  | case8 field ids =>
    refine ⟨rfl, ?_⟩
    have hne : ids ≠ [] := hvalues
    change (readList? _).bind (notAmong? field) = _
    rw [readList?_intersperse (by simpa using hne), Option.bind_some,
      notAmong?_ids field hne]
    rfl
  | case9 field bound =>
    refine ⟨rfl, ?_⟩
    change (Binary64.read? bound.toText.toList).map _ = _
    rw [bound.read?_toText]
    rfl
  | case10 field bound =>
    refine ⟨rfl, ?_⟩
    change (Binary64.read? bound.toText.toList).map _ = _
    rw [bound.read?_toText]
    rfl

/-- The word between predicates is not in a list without it. -/
theorem and_notMem_listTokens {values : List Token} (h : .word "AND" ∉ values) :
    .word "AND" ∉ listTokens values := by
  intro hmem
  simp only [listTokens, List.mem_cons, List.mem_append, List.not_mem_nil, or_false,
    reduceCtorEq, false_or] at hmem
  rcases mem_of_mem_intersperse hmem with hcomma | hmem
  · cases hcomma
  · exact h hmem

theorem toString_ne_and (id : Int) : toString id ≠ "AND" := by
  intro heq
  have := readWhole?_toString id
  rw [heq] at this
  cases this

theorem toText_ne_and (bound : Binary64) : bound.toText ≠ "AND" := by
  intro heq
  have := bound.read?_toText
  rw [heq] at this
  cases this

/-- **The word between predicates is in none of them.** -/
theorem IsReadable.and_notMem_tokens {condition : Condition} (h : condition.IsReadable) :
    .word "AND" ∉ condition.tokens := by
  obtain ⟨hfield, hvalues⟩ := h
  have hids : ∀ ids : List Int, Token.word "AND" ∉ ids.map fun id => .word (toString id) := by
    intro ids hmem
    obtain ⟨id, -, heq⟩ := List.mem_map.1 hmem
    exact toString_ne_and id (Token.word.inj heq)
  fun_cases Condition.tokens condition with
  | case1 expression => simp
  | case2 field value | case4 field value => simpa using Ne.symm (hfield field rfl).2
  | case3 field values hmany =>
    have hlist : Token.word "AND" ∉
        listTokens (values.map fun value => .quoted (withoutControls value)) :=
      and_notMem_listTokens (by simp)
    simpa [hlist] using Ne.symm (hfield field rfl).2
  | case5 field id | case6 field id =>
    simpa using ⟨Ne.symm (hfield field rfl).2, Ne.symm (toString_ne_and id)⟩
  | case7 field ids hmany =>
    simpa using ⟨Ne.symm (hfield field rfl).2, and_notMem_listTokens (hids ids)⟩
  | case8 field ids =>
    simpa using ⟨Ne.symm (hfield field rfl).2, and_notMem_listTokens (hids ids)⟩
  | case9 field bound | case10 field bound =>
    simpa using ⟨Ne.symm (hfield field rfl).2, Ne.symm (toText_ne_and bound)⟩

end Condition

/-! ### The clause -/

/-- Conditions with `AND` between them fall into the tokens of each. -/
theorem lexes_joinWith_and {conditions : List Condition} (h : ∀ c ∈ conditions, c.IsReadable) :
    Lexes (joinWith " AND " (conditions.map Condition.render)).toList
      ([.word "AND"].intercalate (conditions.map Condition.tokens)) := by
  induction conditions with
  | nil => exact lexes_nil
  | cons c cs ih =>
    have hc := (h c List.mem_cons_self).lexes_render
    cases cs with
    | nil => simpa [joinWith, List.intercalate] using hc
    | cons d ds =>
      have hrest := ih fun e he => h e (List.mem_cons_of_mem _ he)
      have hand : IsWord "AND" := by decide
      have hnext := (hrest.blank_cons.word_append hand (endsWord_cons (by decide) _)).blank_cons
      simpa [joinWith, List.intercalate] using hc.append hnext (endsWord_cons (by decide) _)

/-- **The clause of a list of conditions is read as what the conditions say.** -/
theorem readWhere?_renderWhere {conditions : List Condition} (hne : conditions ≠ [])
    (h : ∀ c ∈ conditions, c.IsReadable) :
    readWhere? (renderWhere conditions) = some (conditions.filterMap Condition.predicate?) := by
  have hwhere : IsWord "WHERE" := by decide
  have hlex := ((lexes_joinWith_and h).blank_cons.word_append hwhere
    (endsWord_cons (by decide) _)).blank_cons.lex
  have hchars : (renderWhere conditions).toList = ' ' :: ("WHERE".toList ++
      ' ' :: (joinWith " AND " (conditions.map Condition.render)).toList) := by
    rw [renderWhere, String.toList_append]
    rfl
  have hsplit : ([Token.word "AND"].intercalate (conditions.map Condition.tokens)).splitOn
      (.word "AND") = conditions.map Condition.tokens := by
    refine List.splitOn_intercalate _ ?_ (by simpa using hne)
    intro tokens htokens
    obtain ⟨c, hc, rfl⟩ := List.mem_map.1 htokens
    exact (h c hc).and_notMem_tokens
  rw [readWhere?, hchars, hlex]
  change (List.splitOn _ _).mapM _ = _
  rw [hsplit]
  exact mapM_eq_some_filterMap _ _ _ fun c hc => (h c hc).readPredicate?_tokens

end Sql

end Storefront
