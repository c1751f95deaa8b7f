import Mathlib.Tactic.SplitIfs
import Storefront.Proofs.Number.Spelling
import Storefront.Sql.Literal

/-!
# The tokens of a statement

Where `Storefront.Proofs.Sql.Scan` only asks which characters of a statement are code, this file
reads the code and the literals. A literal stands for its *content*
(`Sql.readLiteral?`): backslashes are left out, and the character after a backslash is taken as it
stands. Around the literals, the code falls into words – names, keywords and numbers alike –, signs
of comparison, and marks of one character (`Sql.lex`).

A statement is long and is written piece by piece, so what a piece is read as has to be said
together with what may come behind it. A text within quotes decodes the same whatever comes next
(`Sql.Decodes`). A word is the longest run of its characters, so what comes next must not go on with
it (`Sql.EndsWord`), and that is the only condition under which the tokens of a text are its own
(`Sql.Lexes`). From there on texts are read from their end to their beginning: `Sql.Lexes` is
preserved when a blank, a mark, a sign, a word or a quoted text is put in front.
-/

namespace Storefront.Sql

open Number Text

/-! ### Literals -/

/-- **The content of a literal, and what follows it**, read behind the opening quote: a backslash is
left out and the character after it taken as it stands, and the first other quote closes the
literal. -/
def readLiteral? : List Char → Option (List Char × List Char)
  | [] => none
  | c :: cs =>
    if c = '\x27' then some ([], cs)
    else if c = '\\' then
      match cs with
      | [] => none
      | d :: ds => (readLiteral? ds).map fun read => (d :: read.1, read.2)
    else (readLiteral? cs).map fun read => (c :: read.1, read.2)

@[simp] theorem readLiteral?_quote (rest : List Char) :
    readLiteral? ('\x27' :: rest) = some ([], rest) := by
  cases rest <;> rfl

@[simp] theorem readLiteral?_backslash (c : Char) (cs : List Char) :
    readLiteral? ('\\' :: c :: cs) = (readLiteral? cs).map fun read => (c :: read.1, read.2) := rfl

theorem readLiteral?_ordinary {c : Char} (hb : c ≠ '\\') (hq : c ≠ '\x27') (cs : List Char) :
    readLiteral? (c :: cs) = (readLiteral? cs).map fun read => (c :: read.1, read.2) := by
  cases cs <;> simp [readLiteral?, hb, hq]

/-- A literal is used up by reading it. -/
theorem length_lt_of_readLiteral? {cs content rest : List Char}
    (h : readLiteral? cs = some (content, rest)) : rest.length < cs.length := by
  fun_induction readLiteral? cs generalizing content with
  | case1 => simp at h
  | case2 cs =>
    cases h
    simp
  | case3 => simp at h
  | case4 d ds _ ih =>
    obtain ⟨read, hread, heq⟩ := Option.map_eq_some_iff.1 h
    cases heq
    have := ih hread
    simp only [List.length_cons]
    omega
  | case5 c cs _ _ ih =>
    obtain ⟨read, hread, heq⟩ := Option.map_eq_some_iff.1 h
    cases heq
    have := ih hread
    simp only [List.length_cons]
    omega

/-- **A text within a literal stands for a content**, whatever the literal goes on with. -/
def Decodes (text content : List Char) : Prop :=
  ∀ rest, readLiteral? (text ++ rest) =
    (readLiteral? rest).map fun read => (content ++ read.1, read.2)

theorem decodes_nil : Decodes [] [] := by
  intro rest
  cases h : readLiteral? rest <;> simp [h]

theorem Decodes.append {text content more further : List Char} (h : Decodes text content)
    (hmore : Decodes more further) : Decodes (text ++ more) (content ++ further) := by
  intro rest
  rw [List.append_assoc, h, hmore, Option.map_map]
  congr 1
  funext read
  simp only [Function.comp_apply, List.append_assoc]

theorem decodes_backslash (c : Char) : Decodes ['\\', c] [c] := fun rest => by
  simp

theorem decodes_ordinary {c : Char} (hb : c ≠ '\\') (hq : c ≠ '\x27') : Decodes [c] [c] :=
  fun rest => by simp [readLiteral?_ordinary hb hq]

/-- A text that decodes character by character decodes. -/
theorem decodes_flatMap {α : Type} {text content : α → List Char} {items : List α}
    (h : ∀ item ∈ items, Decodes (text item) (content item)) :
    Decodes (items.flatMap text) (items.flatMap content) := by
  induction items with
  | nil => exact decodes_nil
  | cons item items ih =>
    exact (h item List.mem_cons_self).append (ih fun other hother =>
      h other (List.mem_cons_of_mem _ hother))

/-- The quote behind a text that decodes closes the literal. -/
theorem Decodes.readLiteral? {text content : List Char} (h : Decodes text content)
    (rest : List Char) : readLiteral? (text ++ '\x27' :: rest) = some (content, rest) := by
  rw [h, readLiteral?_quote]
  simp

/-! ### Values of columns -/

/-- The text without its control characters. -/
def withoutControls (s : String) : String :=
  String.ofList (s.toList.filter (!isControl ·))

theorem decodes_literalChar (c : Char) :
    Decodes (literalChar c) (if isControl c then [] else [c]) := by
  by_cases hb : c = '\\'
  · subst hb
    exact decodes_backslash _
  by_cases hq : c = '\x27'
  · subst hq
    exact decodes_backslash _
  rw [literalChar, if_neg hb, if_neg hq]
  split_ifs
  · exact decodes_nil
  · exact decodes_ordinary hb hq

/-- **A value between quotes stands for the value**, its control characters apart. -/
theorem decodes_value (value : String) :
    Decodes (value.toList.flatMap literalChar) (withoutControls value).toList := by
  have h : Decodes (value.toList.flatMap literalChar)
      (value.toList.flatMap fun c => if isControl c then [] else [c]) :=
    decodes_flatMap fun c _ => decodes_literalChar c
  have hfilter : (value.toList.flatMap fun c => if isControl c then [] else [c]) =
      (withoutControls value).toList := by
    rw [withoutControls, String.toList_ofList]
    induction value.toList with
    | nil => rfl
    | cons c cs ih =>
      rw [List.flatMap_cons, ih, List.filter_cons]
      cases isControl c <;> simp
  rwa [hfilter] at h

/-! ### Tokens -/

/-- A token of a statement. -/
inductive Token where
  /-- A name, a keyword or a number. -/
  | word (text : String)
  /-- A sign of comparison. -/
  | sign (text : String)
  /-- A parenthesis or a comma. -/
  | mark (c : Char)
  /-- A literal, by its content. -/
  | quoted (content : String)
deriving DecidableEq

/-- The characters of words. -/
def isWordChar (c : Char) : Bool :=
  isNumeralChar c || c = '_'

/-- The characters of signs. -/
def isSignChar (c : Char) : Bool :=
  c ∈ ['=', '!', '<', '>']

/-- The marks. -/
def isMark (c : Char) : Bool :=
  c ∈ ['(', ')', ',']

/-- **The tokens of a statement**: words and signs are the longest runs of their characters, blanks
separate, and a character of none of the kinds, or a literal that is not closed, is refused. -/
def lex : List Char → Option (List Token)
  | [] => some []
  | c :: cs =>
    if c = ' ' then lex cs
    else if c = '\x27' then
      match _h : readLiteral? cs with
      | none => none
      | some (content, rest) => (lex rest).map (.quoted (String.ofList content) :: ·)
    else if isMark c then (lex cs).map (.mark c :: ·)
    else if isSignChar c then
      (lex (cs.dropWhile isSignChar)).map
        (.sign (String.ofList (c :: cs.takeWhile isSignChar)) :: ·)
    else if isWordChar c then
      (lex (cs.dropWhile isWordChar)).map
        (.word (String.ofList (c :: cs.takeWhile isWordChar)) :: ·)
    else none
termination_by cs => cs.length
decreasing_by
  · simp
  · have := length_lt_of_readLiteral? _h
    simp only [List.length_cons]
    omega
  · simp
  · have := (List.dropWhile_sublist isSignChar (l := cs)).length_le
    simp only [List.length_cons]
    omega
  · have := (List.dropWhile_sublist isWordChar (l := cs)).length_le
    simp only [List.length_cons]
    omega

/-! ### Reading piece by piece -/

/-- What may follow a word: nothing, or a character that the word does not go on with. -/
def EndsWord (rest : List Char) : Prop :=
  ∀ c ∈ rest.head?, isWordChar c = false

theorem endsWord_nil : EndsWord [] := fun _ h => nomatch h

theorem endsWord_cons {c : Char} (h : isWordChar c = false) (cs : List Char) :
    EndsWord (c :: cs) := by
  rintro d ⟨⟩
  exact h

theorem EndsWord.append {cs rest : List Char} (h : EndsWord cs) (hrest : EndsWord rest) :
    EndsWord (cs ++ rest) := by
  cases cs with
  | nil => exact hrest
  | cons c cs => exact h

/-- **A text falls into tokens**, and what comes behind it does not change them. -/
def Lexes (text : List Char) (tokens : List Token) : Prop :=
  ∀ rest, EndsWord rest → lex (text ++ rest) = (lex rest).map (tokens ++ ·)

theorem lexes_nil : Lexes [] [] := by
  intro rest _
  cases h : lex rest <;> simp [h]

/-- All of a text that falls into tokens. -/
theorem Lexes.lex {text : List Char} {tokens : List Token} (h : Lexes text tokens) :
    lex text = some tokens := by
  have := h [] endsWord_nil
  rw [List.append_nil, Sql.lex] at this
  simpa using this

theorem Lexes.append {text more : List Char} {tokens further : List Token}
    (h : Lexes text tokens) (hmore : Lexes more further) (hends : EndsWord more) :
    Lexes (text ++ more) (tokens ++ further) := by
  intro rest hrest
  rw [List.append_assoc, h _ (hends.append hrest), hmore rest hrest, Option.map_map]
  congr 1
  funext others
  simp only [Function.comp_apply, List.append_assoc]

variable {cs : List Char} {tokens : List Token}

theorem Lexes.blank_cons (h : Lexes cs tokens) : Lexes (' ' :: cs) tokens := by
  intro rest hrest
  rw [List.cons_append, Sql.lex, if_pos rfl, h rest hrest]

theorem Lexes.mark_cons (h : Lexes cs tokens) {c : Char} (hc : isMark c = true) :
    Lexes (c :: cs) (.mark c :: tokens) := by
  have hne : c ≠ ' ' ∧ c ≠ '\x27' := by
    constructor <;> rintro rfl <;> exact absurd hc (by decide)
  intro rest hrest
  rw [List.cons_append, Sql.lex, if_neg hne.1, if_neg hne.2, if_pos hc, h rest hrest,
    Option.map_map]
  rfl

/-- A text between quotes is one token. -/
theorem Lexes.quoted_append (h : Lexes cs tokens) {text content : List Char}
    (hcontent : Decodes text content) :
    Lexes ('\x27' :: (text ++ '\x27' :: cs)) (.quoted (String.ofList content) :: tokens) := by
  intro rest hrest
  have hread : readLiteral? (text ++ '\x27' :: (cs ++ rest)) = some (content, cs ++ rest) :=
    hcontent.readLiteral? _
  rw [List.cons_append, List.append_assoc, List.cons_append, Sql.lex, if_neg (by decide),
    if_pos rfl]
  split
  · rename_i hnone
    rw [hread] at hnone
    cases hnone
  · rename_i other after hsome
    rw [hread] at hsome
    cases hsome
    rw [h rest hrest, Option.map_map]
    rfl

/-- A value between quotes is one token. -/
theorem Lexes.literal_append (h : Lexes cs tokens) (value : String) :
    Lexes ((literal value).toList ++ cs) (.quoted (withoutControls value) :: tokens) := by
  have hchars : (literal value).toList ++ cs =
      '\x27' :: (value.toList.flatMap literalChar ++ '\x27' :: cs) := by
    simp [literal, literalChars]
  rw [hchars, ← String.ofList_toList (s := withoutControls value)]
  exact h.quoted_append (decodes_value value)

/-- A sign between blanks is one token. -/
theorem Lexes.sign_append (h : Lexes cs tokens) {sign : String}
    (hsign : sign ∈ ["=", "!=", ">=", "<="]) :
    Lexes (' ' :: (sign.toList ++ ' ' :: cs)) (.sign sign :: tokens) := by
  intro rest hrest
  simp only [List.mem_cons, List.not_mem_nil, or_false] at hsign
  rcases hsign with rfl | rfl | rfl | rfl <;>
    simp [Sql.lex, isMark, isSignChar, h rest hrest, Function.comp_def]

/-- A text that may stand as a word: characters of words, at least one. -/
def IsWord (text : String) : Prop :=
  text.toList ≠ [] ∧ ∀ c ∈ text.toList, isWordChar c = true

instance (text : String) : Decidable (IsWord text) :=
  decidable_of_iff (text.toList ≠ [] ∧ text.toList.all isWordChar = true) (by
    rw [IsWord, List.all_eq_true])

/-- The characters of words are of no other kind. -/
theorem isWordChar_kind {c : Char} (h : isWordChar c = true) :
    c ≠ ' ' ∧ c ≠ '\x27' ∧ isMark c = false ∧ isSignChar c = false := by
  have hnot : ∀ d ∈ [' ', '\x27', '(', ')', ',', '=', '!', '<', '>'], c ≠ d := by
    rintro d hd rfl
    have hall : ([' ', '\x27', '(', ')', ',', '=', '!', '<', '>'].all
      fun d => !isWordChar d) = true := by decide
    have := List.all_eq_true.1 hall c hd
    simp [h] at this
  simp only [List.mem_cons, List.not_mem_nil, or_false, forall_eq_or_imp, forall_eq] at hnot
  simp [isMark, isSignChar, hnot]

/-- A word is one token, if what follows does not go on with it. -/
theorem Lexes.word_append (h : Lexes cs tokens) {text : String} (hword : IsWord text)
    (hends : EndsWord cs) : Lexes (text.toList ++ cs) (.word text :: tokens) := by
  intro rest hrest
  obtain ⟨hne, hchars⟩ := hword
  cases htext : text.toList with
  | nil => exact absurd htext hne
  | cons c word =>
    rw [htext] at hchars
    have hc := hchars c List.mem_cons_self
    obtain ⟨hblank, hquote, hmark, hsign⟩ := isWordChar_kind hc
    obtain ⟨htake, hdrop⟩ := takeWhile_append_of_ends
      (fun d hd => hchars d (List.mem_cons_of_mem _ hd)) (hends.append hrest)
    rw [List.append_assoc, List.cons_append, Sql.lex, if_neg hblank, if_neg hquote,
      if_neg (by simp [hmark]), if_neg (by simp [hsign]), if_pos hc, htake, hdrop, ← htext,
      String.ofList_toList, h rest hrest, Option.map_map]
    rfl

/-- Texts with commas between them, each of them one token, are those tokens with commas between
them. -/
theorem Lexes.joinWith_append (h : Lexes cs tokens) {α : Type} {text : α → String}
    {token : α → Token} (hends : EndsWord cs)
    (htext : ∀ (a : α) {cs : List Char} {tokens : List Token}, Lexes cs tokens → EndsWord cs →
      Lexes ((text a).toList ++ cs) (token a :: tokens)) (as : List α) :
    Lexes ((joinWith "," (as.map text)).toList ++ cs)
      ((as.map token).intersperse (.mark ',') ++ tokens) := by
  induction as with
  | nil => exact h
  | cons a as ih =>
    cases as with
    | nil => exact htext a h hends
    | cons b bs =>
      have hchars : (joinWith "," ((a :: b :: bs).map text)).toList ++ cs =
          (text a).toList ++ ',' :: ((joinWith "," ((b :: bs).map text)).toList ++ cs) := by
        simp [joinWith]
      rw [hchars]
      exact htext a (ih.mark_cons (by decide)) (endsWord_cons (by decide) _)

end Storefront.Sql
