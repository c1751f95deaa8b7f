import Storefront.Proofs.Sql.Tokens
import Storefront.Sql.Identifier
import Storefront.Text.Words

/-!
# The full-text language

A full-text expression is read by rules of its own. Words next to one another are all required, a
bar between words makes them alternatives and binds closer, parentheses group, quotation marks make
a phrase of the words between them, a star right behind a word makes it the beginning of words, and
an `@` with a name at the beginning of a group limits the group to a field. A backslash makes the
character after it an ordinary one.

The reader works in three steps, each of which is structural.

* **Chunks** (`FullText.chunks?`): the letters of words, with the backslashes gone, operators, and
  blanks. Which characters are letters is settled here, so an escaped operator is a letter for good.
* **Lexemes** (`FullText.lexemes?`): words with or without their star, names of fields, and marks.
* **The query** (`FullText.Reader.read?`): a reader with a stack, which holds the groups that are
  open, puts the lexemes together.

Below, an expression is read while it stands *in a literal*, piece by piece and from its end to its
beginning. `FullText.Reader.Completes` says of a text within quotes that a reader, from where it
stands, completes a query with it, and there is one lemma for each kind of piece that may stand in
front of the text.
-/

namespace Storefront.FullText

open Sql Text

/-! ### Queries -/

/-- A full-text query, as an engine has read it. -/
inductive Query where
  | word (text : String)
  /-- The words that begin with the text. -/
  | start (text : String)
  /-- The words next to one another, in this order. -/
  | phrase (words : List String)
  | all (parts : List Query)
  | any (choices : List Query)
  /-- The query within one field. -/
  | within (field : String) (query : Query)

/-- All of the queries; a single one is not wrapped. -/
def allOf : List Query → Query
  | [query] => query
  | queries => .all queries

/-- Any of the queries; a single one is not wrapped. -/
def anyOf : List Query → Query
  | [query] => query
  | queries => .any queries

/-! ### Chunks -/

/-- What the characters of an expression are, and which of them make a word. -/
inductive Chunk where
  | word (letters : List Char)
  | operator (c : Char)
  | blank

/-- The characters with a meaning of their own, other than the backslash. -/
def isOperator (c : Char) : Bool :=
  c ∈ ['(', ')', '|', '"', '*', '@', '-', '!', '~', '&', '/', '^', '$', '=', '<', '?']

/-- The chunks with one more letter in front. -/
def addLetter (c : Char) : List Chunk → List Chunk
  | .word letters :: chunks => .word (c :: letters) :: chunks
  | chunks => .word [c] :: chunks

/-- The chunks with one more character in front that no backslash precedes. -/
def addChar (c : Char) (chunks : List Chunk) : List Chunk :=
  if isBlank c then .blank :: chunks
  else if isOperator c then .operator c :: chunks
  else addLetter c chunks

/-- **The chunks of an expression**; a backslash has to have a character behind it. -/
def chunks? : List Char → Option (List Chunk)
  | [] => some []
  | c :: cs =>
    if c = '\\' then
      match cs with
      | [] => none
      | d :: ds => (chunks? ds).map (addLetter d)
    else (chunks? cs).map (addChar c)

theorem chunks?_cons {c : Char} (hb : c ≠ '\\') (cs : List Char) :
    chunks? (c :: cs) = (chunks? cs).map (addChar c) := by
  cases cs <;> simp [chunks?, hb]

theorem chunks?_backslash (c : Char) (cs : List Char) :
    chunks? ('\\' :: c :: cs) = (chunks? cs).map (addLetter c) := rfl

/-! ### Lexemes -/

/-- A lexeme of an expression. -/
inductive Lexeme where
  | word (text : String)
  /-- A word with a star. -/
  | start (text : String)
  /-- A name with an `@` in front. -/
  | field (name : String)
  | opening
  | closing
  | bar
  | quote

/-- The operators that are lexemes by themselves. -/
def mark? (c : Char) : Option Lexeme :=
  if c = '(' then some .opening
  else if c = ')' then some .closing
  else if c = '|' then some .bar
  else if c = '"' then some .quote
  else none

/-- **The lexemes of an expression.** Operators for which there is no rule are refused. -/
def lexemes? : List Chunk → Option (List Lexeme)
  | [] => some []
  | .blank :: rest => lexemes? rest
  | .word letters :: .operator '*' :: rest =>
    (lexemes? rest).map (.start (String.ofList letters) :: ·)
  | .word letters :: rest => (lexemes? rest).map (.word (String.ofList letters) :: ·)
  | .operator '@' :: .word letters :: rest =>
    (lexemes? rest).map (.field (String.ofList letters) :: ·)
  | .operator c :: rest => (mark? c).bind fun mark => (lexemes? rest).map (mark :: ·)

/-! ### The reader -/

/-- A group that is open: the field it is limited to and the parts read so far, each with its
choices, the last ones first. -/
structure Frame where
  field : Option String
  parts : List (List Query)
  /-- Whether a bar waits for one more choice of the last part. -/
  barred : Bool

namespace Frame

/-- A group in which nothing has been read. -/
def fresh : Frame := ⟨none, [], false⟩

/-- The group with one more query: a choice of the last part behind a bar, else a part. -/
def push (frame : Frame) (query : Query) : Frame :=
  match frame.barred, frame.parts with
  | true, choices :: parts => ⟨frame.field, (query :: choices) :: parts, false⟩
  | _, parts => ⟨frame.field, [query] :: parts, false⟩

/-- The group behind a bar, which needs a choice in front of it. -/
def bar? (frame : Frame) : Option Frame :=
  if frame.parts.isEmpty || frame.barred then none else some { frame with barred := true }

/-- The group limited to a field, before anything else in it has been read. -/
def limit? (frame : Frame) (field : String) : Option Frame :=
  if frame.field.isNone && frame.parts.isEmpty then some { frame with field := some field }
  else none

/-- The query of a group that is complete. -/
def query? (frame : Frame) : Option Query :=
  if frame.parts.isEmpty || frame.barred then none
  else
    let query := allOf (frame.parts.reverse.map fun choices => anyOf choices.reverse)
    some (match frame.field with
      | some field => .within field query
      | none => query)

end Frame

/-- Where the reader stands: in a group, with the groups around it, and maybe between quotation
marks, with the words of the phrase so far. -/
inductive Reader where
  | between (frame : Frame) (outer : List Frame)
  | quoted (words : List String) (frame : Frame) (outer : List Frame)

namespace Reader

/-- The reader behind one more lexeme. Between quotation marks there are only words. -/
def step? : Reader → Lexeme → Option Reader
  | .between frame outer, .word text => some (.between (frame.push (.word text)) outer)
  | .between frame outer, .start text => some (.between (frame.push (.start text)) outer)
  | .between frame outer, .field name => (frame.limit? name).map (.between · outer)
  | .between frame outer, .bar => frame.bar?.map (.between · outer)
  | .between frame outer, .opening => some (.between .fresh (frame :: outer))
  | .between frame (around :: outer), .closing =>
    frame.query?.map fun query => .between (around.push query) outer
  | .between frame outer, .quote => some (.quoted [] frame outer)
  | .quoted words frame outer, .word text => some (.quoted (words ++ [text]) frame outer)
  | .quoted words frame outer, .quote => some (.between (frame.push (.phrase words)) outer)
  | _, _ => none

/-- **The query that the reader completes with some lexemes.** All groups have to be closed. -/
def read? : Reader → List Lexeme → Option Query
  | .between frame [], [] => frame.query?
  | _, [] => none
  | reader, lexeme :: lexemes =>
    match reader.step? lexeme with
    | some next => next.read? lexemes
    | none => none

end Reader

/-- **The query of an expression.** -/
def readQuery? (expression : List Char) : Option Query := do
  let chunks ← chunks? expression
  let lexemes ← lexemes? chunks
  (Reader.between .fresh []).read? lexemes

/-- **The query of a text within quotes**: its content is the expression. -/
def readBody? (body : List Char) : Option Query :=
  match readLiteral? (body ++ ['\x27']) with
  | some (expression, []) => readQuery? expression
  | _ => none

/-! ### Terms and marks in a literal -/

/-- **What the reader of expressions sees of a text within quotes.** -/
def Sees (body : List Char) (chunks : List Chunk) : Prop :=
  ∃ content, readLiteral? (body ++ ['\x27']) = some (content, []) ∧ chunks? content = some chunks

theorem sees_nil : Sees [] [] :=
  ⟨[], rfl, rfl⟩

variable {body : List Char} {chunks : List Chunk}

theorem Sees.decodes_append (h : Sees body chunks) {text more : List Char} {next : List Chunk}
    (htext : Decodes text more)
    (hnext : ∀ content, chunks? content = some chunks → chunks? (more ++ content) = some next) :
    Sees (text ++ body) next := by
  obtain ⟨content, hcontent, hchunks⟩ := h
  refine ⟨more ++ content, ?_, hnext content hchunks⟩
  rw [List.append_assoc, htext, hcontent]
  rfl

theorem Sees.ordinary_cons (h : Sees body chunks) {c : Char} (hb : c ≠ '\\') (hq : c ≠ '\x27') :
    Sees (c :: body) (addChar c chunks) := by
  refine h.decodes_append (decodes_ordinary hb hq) fun content hcontent => ?_
  rw [List.singleton_append, chunks?_cons hb, hcontent]
  rfl

/-- The chunks with one more character of a term in front: no such character is an operator. -/
def addTermChar (c : Char) (chunks : List Chunk) : List Chunk :=
  if isSeparator c then .blank :: chunks else addLetter c chunks

/-- No operator separates words. -/
theorem isSeparator_of_mem_matchOperators {c : Char} (h : c ∈ matchOperators) :
    isSeparator c = false := by
  have hall : (matchOperators.all fun c => !isSeparator c) = true := by decide
  simpa using List.all_eq_true.1 hall c h

/-- No operator is a quote. -/
theorem ne_quote_of_mem_matchOperators {c : Char} (h : c ∈ matchOperators) : c ≠ '\x27' := by
  rintro rfl
  exact absurd h (by decide)

/-- The reader's operators are escaped. -/
theorem mem_matchOperators_of_isOperator {c : Char} (h : isOperator c = true) :
    c ∈ matchOperators := by
  simp only [isOperator, List.mem_cons, List.not_mem_nil, or_false, decide_eq_true_eq] at h
  rcases h with h | h | h | h | h | h | h | h | h | h | h | h | h | h | h | h <;>
    (subst h; decide)

/-- **An escaped character is a letter or separates words**, whatever it was before. -/
theorem Sees.escaped_append (h : Sees body chunks) {c : Char} (hb : c ≠ '\\') :
    Sees (escapeMatchChar c ++ body) (addTermChar c chunks) := by
  by_cases hoperator : c ∈ matchOperators
  · have hq := ne_quote_of_mem_matchOperators hoperator
    rw [escapeMatchChar, if_pos hoperator, addTermChar, isSeparator_of_mem_matchOperators hoperator]
    refine h.decodes_append ((decodes_backslash '\\').append (decodes_ordinary hb hq))
      fun content hcontent => ?_
    change chunks? ('\\' :: c :: content) = _
    rw [chunks?_backslash, hcontent]
    rfl
  have hplain : isOperator c = false := by
    rw [Bool.eq_false_iff]
    exact fun h => hoperator (mem_matchOperators_of_isOperator h)
  rw [escapeMatchChar, if_neg hoperator]
  by_cases hq : c = '\x27'
  · subst hq
    refine h.decodes_append (decodes_backslash _) fun content hcontent => ?_
    rw [List.singleton_append, chunks?_cons hb, hcontent]
    rfl
  rw [if_neg hq]
  by_cases hcontrol : isControl c = true
  · have hseparator : isSeparator c = true := by rw [isSeparator, hcontrol, Bool.or_true]
    rw [if_pos hcontrol, addTermChar, if_pos hseparator]
    exact h.ordinary_cons (by decide) (by decide)
  · have hchar : addTermChar c chunks = addChar c chunks := by
      simp [addTermChar, addChar, isSeparator, hcontrol, hplain]
    rw [if_neg hcontrol, hchar]
    exact h.ordinary_cons hb hq

/-- A term in front of a text. -/
theorem Sees.term_append (h : Sees body chunks) {term : List Char} (hterm : '\\' ∉ term) :
    Sees (escapeMatchChars term ++ body) (term.foldr addTermChar chunks) := by
  induction term with
  | nil => exact h
  | cons c term ih =>
    obtain ⟨hc, hrest⟩ : '\\' ≠ c ∧ '\\' ∉ term := by simpa using hterm
    rw [escapeMatchChars, List.flatMap_cons, List.append_assoc]
    exact (ih hrest).escaped_append (Ne.symm hc)

/-! ### The words of a term -/

/-- What may stand behind a word: nothing that it goes on with, and no star. -/
def EndsWord : List Chunk → Prop
  | .word _ :: _ => False
  | .operator c :: _ => c ≠ '*'
  | _ => True

/-- Letters in front of what is no letter are a word. -/
theorem foldr_addTermChar_run {run : List Char} (hne : run ≠ [])
    (hrun : ∀ c ∈ run, isSeparator c = false) (hchunks : ∀ w rest, chunks ≠ .word w :: rest) :
    run.foldr addTermChar chunks = .word run :: chunks := by
  induction run with
  | nil => exact absurd rfl hne
  | cons c run ih =>
    obtain ⟨hc, hrest⟩ := List.forall_mem_cons.1 hrun
    rw [List.foldr_cons, addTermChar, if_neg (by simp [hc])]
    cases run with
    | nil =>
      rw [List.foldr_nil, addLetter.eq_2 _ _ hchunks]
    | cons d run =>
      rw [ih (List.cons_ne_nil _ _) hrest]
      rfl

theorem EndsWord.ne_word (h : EndsWord chunks) (w : List Char) (rest : List Chunk) :
    chunks ≠ .word w :: rest := by
  rintro rfl
  exact h

theorem lexemes?_word (h : EndsWord chunks) (letters : List Char) :
    lexemes? (.word letters :: chunks) =
      (lexemes? chunks).map (.word (String.ofList letters) :: ·) := by
  refine lexemes?.eq_4 letters chunks ?_
  rintro rest rfl
  exact absurd rfl h

/-- **A term is read as its words.** -/
theorem lexemes?_term (h : EndsWord chunks) (term : List Char) :
    lexemes? (term.foldr addTermChar chunks) =
      (lexemes? chunks).map
        ((wordsBy isSeparator term).map (fun word => .word (String.ofList word)) ++ ·) := by
  fun_induction wordsBy isSeparator term with
  | case1 => cases hlexemes : lexemes? chunks <;> simp [hlexemes]
  | case2 c term hc ih =>
    rw [List.foldr_cons, addTermChar, if_pos hc, lexemes?]
    exact ih
  | case3 c term hc ih =>
    have hrun : ∀ d ∈ c :: term.takeWhile (!isSeparator ·), isSeparator d = false := by
      intro d hd
      rcases List.mem_cons.1 hd with rfl | hd
      · simpa using hc
      · simpa using List.all_eq_true.1 List.all_takeWhile d hd
    -- behind the first word the term is over, or a separator follows
    have hends : EndsWord ((term.dropWhile (!isSeparator ·)).foldr addTermChar chunks) := by
      cases hdrop : term.dropWhile (!isSeparator ·) with
      | nil => exact h
      | cons d rest =>
        have hd : isSeparator d = true := by
          have hhead := List.head?_dropWhile_not (!isSeparator ·) term
          rw [hdrop] at hhead
          simpa using hhead
        rw [List.foldr_cons, addTermChar, if_pos hd]
        trivial
    have hsplit : c :: term = (c :: term.takeWhile (!isSeparator ·)) ++
        term.dropWhile (!isSeparator ·) := by simp
    rw [hsplit, List.foldr_append, foldr_addTermChar_run (List.cons_ne_nil _ _) hrun hends.ne_word,
      lexemes?_word hends, ih, Option.map_map]
    rfl

/-! ### Completing a query -/

/-- **A text within quotes completes a query** from where the reader stands. -/
def Reader.Completes (reader : Reader) (body : List Char) (query : Query) : Prop :=
  ∃ chunks, Sees body chunks ∧ (lexemes? chunks).bind reader.read? = some query

/-- A text that may stand behind a term. -/
def endsTerm : List Char → Bool
  | [] => true
  | c :: _ => c = ' ' || c = ')' || c = '"'

theorem Sees.exists_addChar {c : Char} (h : Sees (c :: body) chunks) (hb : c ≠ '\\')
    (hq : c ≠ '\x27') : ∃ others, Sees body others ∧ chunks = addChar c others := by
  obtain ⟨content, hcontent, hchunks⟩ := h
  rw [List.cons_append, readLiteral?_ordinary hb hq] at hcontent
  obtain ⟨⟨rest, after⟩, hrest, heq⟩ := Option.map_eq_some_iff.1 hcontent
  cases heq
  rw [chunks?_cons hb] at hchunks
  obtain ⟨others, hothers, heq⟩ := Option.map_eq_some_iff.1 hchunks
  exact ⟨others, ⟨rest, hrest, hothers⟩, heq.symm⟩

theorem Sees.endsWord (h : Sees body chunks) (hends : endsTerm body = true) : EndsWord chunks := by
  cases body with
  | nil =>
    obtain ⟨content, hcontent, hchunks⟩ := h
    cases hcontent
    cases hchunks
    trivial
  | cons c body =>
    simp only [endsTerm, Bool.or_eq_true, decide_eq_true_eq] at hends
    rcases hends with (rfl | rfl) | rfl
    all_goals obtain ⟨others, -, rfl⟩ := h.exists_addChar (by decide) (by decide)
    · trivial
    · exact (by decide : ')' ≠ '*')
    · exact (by decide : '"' ≠ '*')

variable {reader next : Reader} {query : Query}

theorem completes_nil {frame : Frame} (h : frame.query? = some query) :
    (Reader.between frame []).Completes [] query :=
  ⟨[], sees_nil, h⟩

/-- A blank text has no lexemes. -/
theorem Sees.lexemes?_of_blank (h : Sees body chunks) (hblank : ∀ c ∈ body, isBlank c = true) :
    lexemes? chunks = some [] := by
  induction body generalizing chunks with
  | nil =>
    obtain ⟨content, hcontent, hchunks⟩ := h
    cases hcontent
    cases hchunks
    rfl
  | cons c body ih =>
    obtain ⟨hc, hrest⟩ := List.forall_mem_cons.1 hblank
    have hplain : c ≠ '\\' ∧ c ≠ '\x27' := by
      constructor <;> rintro rfl <;> exact absurd hc (by decide)
    obtain ⟨others, hothers, rfl⟩ := h.exists_addChar hplain.1 hplain.2
    rw [addChar, if_pos hc, lexemes?]
    exact ih hothers hrest

/-- A text that completes a query is not blank. -/
theorem Reader.Completes.exists_not_blank (h : (Reader.between .fresh []).Completes body query) :
    ∃ c ∈ body, isBlank c = false := by
  obtain ⟨chunks, hsees, hread⟩ := h
  by_cases hblank : ∀ c ∈ body, isBlank c = true
  · rw [hsees.lexemes?_of_blank hblank] at hread
    cases hread
  · simpa using hblank

/-- All of a text within quotes. -/
theorem Reader.Completes.readBody? (h : (Reader.between .fresh []).Completes body query) :
    readBody? body = some query := by
  obtain ⟨chunks, ⟨content, hcontent, hchunks⟩, hread⟩ := h
  rw [FullText.readBody?, hcontent]
  change readQuery? content = _
  rw [readQuery?, hchunks]
  exact hread

theorem Reader.Completes.blank_cons (h : reader.Completes body query) :
    reader.Completes (' ' :: body) query := by
  obtain ⟨chunks, hsees, hread⟩ := h
  exact ⟨.blank :: chunks, hsees.ordinary_cons (by decide) (by decide), hread⟩

theorem Reader.read?_cons {lexeme : Lexeme} (h : reader.step? lexeme = some next)
    (lexemes : List Lexeme) : reader.read? (lexeme :: lexemes) = next.read? lexemes := by
  rw [read?.eq_def]
  cases reader with
  | between frame outer => cases outer <;> simp only [h]
  | quoted => simp only [h]

/-- An operator that is a lexeme by itself, in front of a text. -/
theorem Reader.Completes.mark_cons (h : next.Completes body query) {c : Char} {mark : Lexeme}
    (hmark : mark? c = some mark) (hstep : reader.step? mark = some next) :
    reader.Completes (c :: body) query := by
  have hmarks : c = '(' ∨ c = ')' ∨ c = '|' ∨ c = '"' := by
    rw [mark?] at hmark
    split_ifs at hmark <;> simp_all
  have hoperator : c ≠ '\\' ∧ c ≠ '\x27' ∧ c ≠ '@' ∧ isBlank c = false ∧ isOperator c = true := by
    rcases hmarks with rfl | rfl | rfl | rfl <;> decide
  obtain ⟨hb, hq, hfield, hblank, hoperator⟩ := hoperator
  obtain ⟨chunks, hsees, hread⟩ := h
  obtain ⟨lexemes, hlexemes, hquery⟩ := Option.bind_eq_some_iff.1 hread
  refine ⟨_, hsees.ordinary_cons hb hq, ?_⟩
  have hlex : lexemes? (.operator c :: chunks) = some (mark :: lexemes) := by
    rw [lexemes?.eq_6 c chunks (fun _ _ _ h => hfield h), hmark, hlexemes]
    rfl
  rw [addChar, if_neg (by simp [hblank]), if_pos hoperator, hlex]
  exact (Reader.read?_cons hstep lexemes).trans hquery

/-- A term in front of a text, between quotation marks or not. -/
theorem Reader.Completes.term_append (h : next.Completes body query) {term : List Char}
    (hterm : '\\' ∉ term) (hends : endsTerm body = true)
    (hwords : ∀ lexemes, reader.read? ((wordsBy isSeparator term).map
      (fun word => .word (String.ofList word)) ++ lexemes) = next.read? lexemes) :
    reader.Completes (escapeMatchChars term ++ body) query := by
  obtain ⟨chunks, hsees, hread⟩ := h
  refine ⟨_, hsees.term_append hterm, ?_⟩
  rw [lexemes?_term (hsees.endsWord hends)]
  obtain ⟨lexemes, hlexemes, hquery⟩ := Option.bind_eq_some_iff.1 hread
  rw [hlexemes]
  exact (hwords lexemes).trans hquery

/-- A word with a star in front of a text. -/
theorem Reader.Completes.start_append (h : next.Completes body query) {word : List Char}
    (hword : '\\' ∉ word) (hne : word ≠ []) (hletters : ∀ c ∈ word, isSeparator c = false)
    (hstep : reader.step? (.start (String.ofList word)) = some next) :
    reader.Completes (escapeMatchChars word ++ '*' :: body) query := by
  obtain ⟨chunks, hsees, hread⟩ := h
  obtain ⟨lexemes, hlexemes, hquery⟩ := Option.bind_eq_some_iff.1 hread
  have hstar : Sees ('*' :: body) (.operator '*' :: chunks) :=
    hsees.ordinary_cons (by decide) (by decide)
  refine ⟨_, hstar.term_append hword, ?_⟩
  rw [foldr_addTermChar_run hne hletters (by simp), lexemes?, hlexemes]
  exact (Reader.read?_cons hstep lexemes).trans hquery

/-- The name of a field in front of a text. -/
theorem Reader.Completes.field_append (h : next.Completes body query) {name : List Char}
    (hname : '\\' ∉ name) (hne : name ≠ []) (hletters : ∀ c ∈ name, isSeparator c = false)
    (hends : endsTerm body = true)
    (hstep : reader.step? (.field (String.ofList name)) = some next) :
    reader.Completes ('@' :: (escapeMatchChars name ++ body)) query := by
  obtain ⟨chunks, hsees, hread⟩ := h
  obtain ⟨lexemes, hlexemes, hquery⟩ := Option.bind_eq_some_iff.1 hread
  have hsees' := (hsees.term_append hname).ordinary_cons (c := '@') (by decide) (by decide)
  rw [foldr_addTermChar_run hne hletters (hsees.endsWord hends).ne_word] at hsees'
  refine ⟨_, hsees', ?_⟩
  change (lexemes? (.operator '@' :: .word name :: chunks)).bind _ = _
  rw [lexemes?, hlexemes]
  exact (Reader.read?_cons hstep lexemes).trans hquery

/-- Words between quotation marks. -/
theorem Reader.read?_quoted (found words : List String) (frame : Frame) (outer : List Frame)
    (lexemes : List Lexeme) :
    (Reader.quoted found frame outer).read? (words.map Lexeme.word ++ lexemes) =
      (Reader.quoted (found ++ words) frame outer).read? lexemes := by
  induction words generalizing found with
  | nil => simp
  | cons word words ih =>
    rw [List.map_cons, List.cons_append, read?_cons rfl, ih, List.append_assoc]
    rfl

/-! ### Names -/

/-- Where the characters of identifiers are: the underscore, the digits, and the letters of either
case. -/
theorem toNat_of_isIdentifierChar {c : Char} (h : isIdentifierChar c = true) :
    c.toNat = 95 ∨ (48 ≤ c.toNat ∧ c.toNat ≤ 57) ∨ (65 ≤ c.toNat ∧ c.toNat ≤ 90) ∨
      (97 ≤ c.toNat ∧ c.toNat ≤ 122) := by
  change (decide ('A'.val ≤ c.val ∧ c.val ≤ 'Z'.val) ||
    (decide ('a'.val ≤ c.val) && decide (c.val ≤ 'z'.val)) ||
    (decide ('0'.val ≤ c.val) && decide (c.val ≤ '9'.val)) || decide (c = '_')) = true at h
  simp only [Bool.or_eq_true, Bool.and_eq_true, decide_eq_true_eq, UInt32.le_iff_toNat_le] at h
  rcases h with ((h | h) | h) | rfl
  · exact .inr (.inr (.inl h))
  · exact .inr (.inr (.inr h))
  · exact .inr (.inl h)
  · exact .inl rfl

/-- The characters of identifiers neither separate words nor are escaped. -/
theorem isIdentifierChar_plain {c : Char} (h : isIdentifierChar c = true) :
    isSeparator c = false ∧ c ≠ '\\' ∧ escapeMatchChar c = [c] := by
  have hrange := toNat_of_isIdentifierChar h
  have hoperator : c ∉ matchOperators := by
    intro hmem
    have hall : (matchOperators.all fun c => !isIdentifierChar c) = true := by decide
    have := List.all_eq_true.1 hall c hmem
    simp [h] at this
  have hq : c ≠ '\x27' := by
    rintro rfl
    exact absurd h (by decide)
  have hcontrol : isControl c = false := by
    simp only [isControl, Bool.or_eq_false_iff, Bool.and_eq_false_iff, decide_eq_false_iff_not]
    omega
  have hblank : isBlank c = false := by
    simp only [isBlank, Bool.or_eq_false_iff, Bool.and_eq_false_iff, decide_eq_false_iff_not,
      beq_eq_false_iff_ne]
    omega
  refine ⟨by rw [isSeparator, hblank, hcontrol, Bool.or_false], ?_, ?_⟩
  · rintro rfl
    exact hoperator (by decide)
  · rw [escapeMatchChar, if_neg hoperator, if_neg hq, if_neg (by simp [hcontrol])]

/-- A name is written as it stands, and is one word. -/
theorem isIdentifier_plain {name : String} (h : isIdentifier name = true) :
    name.toList ≠ [] ∧ '\\' ∉ name.toList ∧ (∀ c ∈ name.toList, isSeparator c = false) ∧
      escapeMatchChars name.toList = name.toList := by
  obtain ⟨hne, hchars⟩ := isIdentifierChar_of_isIdentifier h
  refine ⟨hne, fun hmem => (isIdentifierChar_plain (hchars _ hmem)).2.1 rfl,
    fun c hc => (isIdentifierChar_plain (hchars c hc)).1, ?_⟩
  have hwritten : name.toList.map escapeMatchChar = name.toList.map fun c => [c] :=
    List.map_congr_left fun c hc => (isIdentifierChar_plain (hchars c hc)).2.2
  rw [escapeMatchChars, List.flatMap_def, hwritten, ← List.flatMap_def, List.flatMap_singleton']

/-! ### Lists of queries -/

namespace Frame

/-- The group with one more choice of its last part. -/
def choose (frame : Frame) (query : Query) : Frame :=
  ({ frame with barred := true } : Frame).push query

/-- The group with one more part, of several choices. -/
def pushChoices (frame : Frame) : List Query → Frame
  | [] => frame
  | query :: queries => queries.foldl choose (frame.push query)

theorem bar?_push (frame : Frame) (query : Query) :
    (frame.push query).bar? = some { frame.push query with barred := true } := by
  rw [push]
  split <;> rfl

theorem foldl_push (queries : List Query) {frame : Frame} (h : frame.barred = false) :
    queries.foldl push frame =
      { frame with parts := (queries.map fun query => [query]).reverse ++ frame.parts } := by
  induction queries generalizing frame with
  | nil => rfl
  | cons query queries ih =>
    obtain ⟨field, parts, barred⟩ := frame
    obtain rfl : barred = false := h
    have hpush : (Frame.mk field parts false).push query = ⟨field, [query] :: parts, false⟩ := rfl
    rw [List.foldl_cons, hpush, ih rfl]
    simp

theorem foldl_choose (queries choices : List Query) (field : Option String)
    (parts : List (List Query)) :
    queries.foldl choose ⟨field, choices :: parts, false⟩ =
      ⟨field, (queries.reverse ++ choices) :: parts, false⟩ := by
  induction queries generalizing choices with
  | nil => rfl
  | cons query queries ih =>
    have hchoose : choose ⟨field, choices :: parts, false⟩ query =
        ⟨field, (query :: choices) :: parts, false⟩ := rfl
    rw [List.foldl_cons, hchoose, ih]
    simp

/-- A group of some parts requires all of them. -/
theorem query?_foldl_push {queries : List Query} (hne : queries ≠ []) (field : Option String) :
    (queries.foldl push ⟨field, [], false⟩).query? = some (match field with
      | some name => .within name (allOf queries)
      | none => allOf queries) := by
  have hparts : ((queries.map fun query => [query]).reverse ++ []).reverse.map
      (fun choices : List Query => anyOf choices.reverse) = queries := by
    simp [Function.comp_def, anyOf]
  rw [foldl_push queries rfl, query?, if_neg (by simpa using hne), hparts]

/-- A group of some choices asks for any of them. -/
theorem query?_pushChoices {queries : List Query} (hne : queries ≠ []) :
    (fresh.pushChoices queries).query? = some (anyOf queries) := by
  obtain ⟨query, queries, rfl⟩ := List.exists_cons_of_ne_nil hne
  have hpush : fresh.push query = ⟨none, [[query]], false⟩ := rfl
  rw [pushChoices, hpush, foldl_choose]
  simp [query?, allOf]

end Frame

/-- **A text is read as a query**: put in front of another text, it leaves the reader where the
query has been read. -/
def ReadsAs (text : String) (meaning : Query) : Prop :=
  ∀ ⦃frame : Frame⦄ ⦃outer : List Frame⦄ ⦃body : List Char⦄ ⦃query : Query⦄,
    endsTerm body = true → (Reader.between (frame.push meaning) outer).Completes body query →
      (Reader.between frame outer).Completes (text.toList ++ body) query

section Lists

variable {α : Type} {text : α → String} {meaning : α → Query} {as : List α} {frame : Frame}
  {outer : List Frame}

/-- Texts with blanks between them are parts. -/
theorem completes_parts (h : ∀ a ∈ as, ReadsAs (text a) (meaning a))
    (hends : endsTerm body = true)
    (hbody : (Reader.between ((as.map meaning).foldl Frame.push frame) outer).Completes body query) :
    (Reader.between frame outer).Completes ((joinWith " " (as.map text)).toList ++ body) query := by
  induction as generalizing frame with
  | nil => exact hbody
  | cons a as ih =>
    obtain ⟨ha, has⟩ := List.forall_mem_cons.1 h
    cases as with
    | nil => exact ha hends hbody
    | cons b bs =>
      have hrest := (ih has hbody).blank_cons
      simpa [joinWith] using ha rfl hrest

/-- Texts with bars between them are choices of one part. -/
theorem completes_choices (h : ∀ a ∈ as, ReadsAs (text a) (meaning a))
    (hends : endsTerm body = true)
    (hbody : (Reader.between (frame.pushChoices (as.map meaning)) outer).Completes body query) :
    (Reader.between frame outer).Completes ((joinWith " | " (as.map text)).toList ++ body)
      query := by
  induction as generalizing frame with
  | nil => exact hbody
  | cons a as ih =>
    obtain ⟨ha, has⟩ := List.forall_mem_cons.1 h
    cases as with
    | nil => exact ha hends hbody
    | cons b bs =>
      have hrest : (Reader.between { frame.push (meaning a) with barred := true } outer).Completes
          ((joinWith " | " ((b :: bs).map text)).toList ++ body) query := ih has hbody
      have hbar : (Reader.between (frame.push (meaning a)) outer).Completes
          ('|' :: ' ' :: ((joinWith " | " ((b :: bs).map text)).toList ++ body)) query := by
        refine hrest.blank_cons.mark_cons rfl ?_
        rw [Reader.step?, Frame.bar?_push]
        rfl
      simpa [joinWith] using ha rfl hbar.blank_cons

/-- All of an expression that is parts. -/
theorem completes_allOf (hne : as ≠ []) (h : ∀ a ∈ as, ReadsAs (text a) (meaning a)) :
    (Reader.between .fresh []).Completes (joinWith " " (as.map text)).toList
      (allOf (as.map meaning)) := by
  have hquery : ((as.map meaning).foldl Frame.push .fresh).query? = some (allOf (as.map meaning)) :=
    Frame.query?_foldl_push (by simpa using hne) none
  have hall : (Reader.between .fresh []).Completes ((joinWith " " (as.map text)).toList ++ [])
      (allOf (as.map meaning)) := completes_parts h rfl (completes_nil hquery)
  rwa [List.append_nil] at hall

/-- All of an expression that is choices. -/
theorem completes_anyOf (hne : as ≠ []) (h : ∀ a ∈ as, ReadsAs (text a) (meaning a)) :
    (Reader.between .fresh []).Completes (joinWith " | " (as.map text)).toList
      (anyOf (as.map meaning)) := by
  have hquery : (Frame.fresh.pushChoices (as.map meaning)).query? = some (anyOf (as.map meaning)) :=
    Frame.query?_pushChoices (by simpa using hne)
  have hany : (Reader.between .fresh []).Completes ((joinWith " | " (as.map text)).toList ++ [])
      (anyOf (as.map meaning)) := completes_choices h rfl (completes_nil hquery)
  rwa [List.append_nil] at hany

/-- **Choices between parentheses.** -/
theorem readsAs_choices (hne : as ≠ []) (h : ∀ a ∈ as, ReadsAs (text a) (meaning a)) :
    ReadsAs ("(" ++ joinWith " | " (as.map text) ++ ")") (anyOf (as.map meaning)) := by
  intro frame outer body query _ hbody
  have hclose :
      (Reader.between (Frame.fresh.pushChoices (as.map meaning)) (frame :: outer)).Completes
        (')' :: body) query := by
    refine hbody.mark_cons rfl ?_
    rw [Reader.step?, Frame.query?_pushChoices (by simpa using hne)]
    rfl
  have hopen : (Reader.between frame outer).Completes
      ('(' :: ((joinWith " | " (as.map text)).toList ++ ')' :: body)) query :=
    (completes_choices h rfl hclose).mark_cons rfl rfl
  simpa using hopen

/-- **Parts between parentheses, limited to a field.** -/
theorem readsAs_within {name : String} (hname : isIdentifier name = true) (hne : as ≠ [])
    (h : ∀ a ∈ as, ReadsAs (text a) (meaning a)) :
    ReadsAs ("(@" ++ name ++ " " ++ joinWith " " (as.map text) ++ ")")
      (.within name (allOf (as.map meaning))) := by
  intro frame outer body query _ hbody
  obtain ⟨hnonempty, hb, hletters, hwritten⟩ := isIdentifier_plain hname
  have hclose : (Reader.between ((as.map meaning).foldl Frame.push ⟨some name, [], false⟩)
      (frame :: outer)).Completes (')' :: body) query := by
    refine hbody.mark_cons rfl ?_
    rw [Reader.step?, Frame.query?_foldl_push (by simpa using hne)]
    rfl
  have hparts : (Reader.between ⟨some name, [], false⟩ (frame :: outer)).Completes
      (' ' :: ((joinWith " " (as.map text)).toList ++ ')' :: body)) query :=
    (completes_parts h rfl hclose).blank_cons
  have hfield : (Reader.between .fresh (frame :: outer)).Completes
      ('@' :: (name.toList ++ ' ' :: ((joinWith " " (as.map text)).toList ++ ')' :: body)))
      query := by
    have hstep : (Reader.between .fresh (frame :: outer)).step?
        (.field (String.ofList name.toList)) =
        some (.between ⟨some name, [], false⟩ (frame :: outer)) := by
      rw [String.ofList_toList]
      rfl
    have := hparts.field_append hb hnonempty hletters rfl hstep
    rwa [hwritten] at this
  have hopen : (Reader.between frame outer).Completes
      ('(' :: '@' :: (name.toList ++ ' ' :: ((joinWith " " (as.map text)).toList ++ ')' :: body)))
      query := hfield.mark_cons rfl rfl
  simpa using hopen

end Lists

end Storefront.FullText
