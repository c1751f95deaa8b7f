import Storefront.Proofs.Sql.Escape
import Storefront.Proofs.Wording.FullText

/-!
# Which texts arrive letter by letter

A text that is escaped for a full-text expression has to pass two readers. The reader of literals
leaves a backslash out and takes the character behind it as it stands; the reader of expressions
gets what is left, leaves a backslash out as well and takes the character behind it for a letter,
whatever it is, and an operator for an operator everywhere else. A text *arrives* if the first reader
finds it contained in its quotes and the second takes each of its characters for a letter
(`FullText.Arrives`).

Between two characters of the text each reader either waits behind a backslash or does not, and a
character other than a backslash leaves neither of them waiting if neither was. A backslash is
written as three, and what these do depends on where the readers stand:

| waiting: literals | expressions | letters handed out | waiting then: literals | expressions |
|---|---|---|---|---|
| no | no | none | yes | yes |
| yes | yes | a backslash | no | yes |
| no | yes | a backslash | yes | no |
| yes | no | a backslash | no | no |

So the first backslash is not handed out when it is read, the readers are one behind, and from the
last row on two: they never catch up again (`FullText.ne_owed`). Whatever else follows instead – the
end of the text, a quote, an operator, a word – is taken for something it is not. Main statement: a
text arrives exactly if it has no backslash (`FullText.arrives_iff`).
-/

namespace Storefront.FullText

open Sql Text

/-! ### What characters are taken for -/

/-- What a character of an expression is taken for. -/
inductive Sign where
  | letter (c : Char)
  | operator (c : Char)
deriving DecidableEq

/-- What a character is taken for that no backslash precedes. -/
def bareSign (c : Char) : Sign :=
  if isOperator c then .operator c else .letter c

/-- **What the characters of an expression are taken for**; a backslash has to have a character
behind it, which is a letter. -/
def signs? : List Char → Option (List Sign)
  | [] => some []
  | c :: cs =>
    if c = '\\' then
      match cs with
      | [] => none
      | d :: ds => (signs? ds).map (.letter d :: ·)
    else (signs? cs).map (bareSign c :: ·)

/-- The letter that a character of a text arrives as: control characters are blanks. -/
def letterOf (c : Char) : Sign :=
  .letter (if isControl c then ' ' else c)

/-- **A text arrives letter by letter**: escaped it is contained in its quotes, and what is between
them is read as the letters of the text. -/
structure Arrives (s : String) : Prop where
  contained : Contained (escapeMatch s).toList
  letters : ∃ content,
    readLiteral? ((escapeMatch s).toList ++ ['\x27']) = some (content, []) ∧
      signs? content = some (s.toList.map letterOf)

theorem signs?_cons {c : Char} (hb : c ≠ '\\') (cs : List Char) :
    signs? (c :: cs) = (signs? cs).map (bareSign c :: ·) := by
  cases cs <;> simp [signs?, hb]

theorem signs?_backslash (c : Char) (cs : List Char) :
    signs? ('\\' :: c :: cs) = (signs? cs).map (.letter c :: ·) := rfl

/-! ### Both readers at once -/

/-- The backslash that a reader waits behind, if it waits. -/
def behind (waits : Bool) : List Char :=
  if waits then ['\\'] else []

/-- **What both readers make of a text within quotes**, where the reader of literals or that of
expressions may wait behind a backslash in front of it. -/
def signsWithin? (literals expressions : Bool) (body : List Char) : Option (List Sign) :=
  (readLiteral? (behind literals ++ (body ++ ['\x27']))).bind fun read =>
    if read.2 = [] then signs? (behind expressions ++ read.1) else none

section Within

variable {literals expressions : Bool} {body : List Char} {c : Char}

theorem signsWithin?_eq_some_iff {signs : List Sign} :
    signsWithin? false false body = some signs ↔
      ∃ content, readLiteral? (body ++ ['\x27']) = some (content, []) ∧
        signs? content = some signs := by
  rw [signsWithin?, Option.bind_eq_some_iff]
  constructor
  · rintro ⟨⟨content, rest⟩, hread, h⟩
    obtain ⟨rfl, hsigns⟩ := Option.ite_none_right_eq_some.1 h
    exact ⟨content, hread, hsigns⟩
  · rintro ⟨content, hread, h⟩
    exact ⟨(content, []), hread, by rwa [if_pos rfl]⟩

/-- A backslash makes the reader of literals wait. -/
theorem signsWithin?_backslash :
    signsWithin? false expressions ('\\' :: body) = signsWithin? true expressions body := rfl

/-- A quote closes the literal too early. -/
theorem signsWithin?_quote : signsWithin? false expressions ('\x27' :: body) = none := by
  change (readLiteral? ('\x27' :: (body ++ ['\x27']))).bind _ = none
  rw [readLiteral?_quote, Option.bind_some, if_neg (by simp)]

/-- At the end of the text no reader may wait. -/
theorem signsWithin?_nil (literals expressions : Bool) :
    signsWithin? literals expressions [] = if literals || expressions then none else some [] := by
  cases literals <;> cases expressions <;> rfl

/-- What the reader of literals makes of a character that it hands on. -/
theorem readLiteral?_handedOn (h : literals = true ∨ c ≠ '\\' ∧ c ≠ '\x27') :
    readLiteral? (behind literals ++ (c :: body ++ ['\x27'])) =
      (readLiteral? (body ++ ['\x27'])).map fun read => (c :: read.1, read.2) := by
  rcases h with rfl | ⟨hb, hq⟩
  · rfl
  cases literals with
  | true => rfl
  | false => exact readLiteral?_ordinary hb hq _

/-- **A character that is handed on** to the reader of expressions is a letter behind a backslash,
a backslash is waited behind, and every other character is what it is. -/
theorem signsWithin?_handedOn (h : literals = true ∨ c ≠ '\\' ∧ c ≠ '\x27') :
    signsWithin? literals expressions (c :: body) =
      if expressions then (signsWithin? false false body).map (.letter c :: ·)
      else if c = '\\' then signsWithin? false true body
      else (signsWithin? false false body).map (bareSign c :: ·) := by
  have hwithin (expressions : Bool) : signsWithin? false expressions body =
      (readLiteral? (body ++ ['\x27'])).bind fun read =>
        if read.2 = [] then signs? (behind expressions ++ read.1) else none := rfl
  rw [signsWithin?, readLiteral?_handedOn h, Option.bind_map, hwithin, hwithin]
  rcases readLiteral? (body ++ ['\x27']) with _ | ⟨content, rest⟩
  · cases expressions <;> simp
  rw [Option.bind_some, Option.bind_some, Option.bind_some, Function.comp_apply]
  by_cases hrest : rest = []
  · rw [if_pos hrest, if_pos hrest, if_pos hrest]
    cases expressions with
    | true => exact signs?_backslash c content
    | false =>
      change signs? (c :: content) = _
      rw [if_neg Bool.false_ne_true]
      by_cases hb : c = '\\'
      · rw [if_pos hb, hb]
        rfl
      · rw [if_neg hb]
        exact signs?_cons hb content
  · rw [if_neg hrest, if_neg hrest, if_neg hrest]
    cases expressions <;> simp

/-- **One escaped backslash**, by where the readers stand. -/
theorem signsWithin?_escaped_backslash (body : List Char) :
    signsWithin? false false (escapeMatchChar '\\' ++ body) = signsWithin? true true body ∧
      signsWithin? true true (escapeMatchChar '\\' ++ body) =
        (signsWithin? false true body).map (.letter '\\' :: ·) ∧
      signsWithin? false true (escapeMatchChar '\\' ++ body) =
        (signsWithin? true false body).map (.letter '\\' :: ·) ∧
      signsWithin? true false (escapeMatchChar '\\' ++ body) =
        (signsWithin? false false body).map (.letter '\\' :: ·) := by
  have hthree : escapeMatchChar '\\' ++ body = '\\' :: '\\' :: '\\' :: body := rfl
  have hwait (body : List Char) : signsWithin? true false ('\\' :: body) =
      signsWithin? false true body := signsWithin?_handedOn (.inl rfl)
  have hletter (body : List Char) : signsWithin? true true ('\\' :: body) =
      (signsWithin? false false body).map (.letter '\\' :: ·) := signsWithin?_handedOn (.inl rfl)
  rw [hthree]
  refine ⟨?_, ?_, ?_, ?_⟩
  · rw [signsWithin?_backslash, hwait, signsWithin?_backslash]
  · rw [hletter, signsWithin?_backslash, hwait]
  · rw [signsWithin?_backslash, hletter, signsWithin?_backslash]
  · rw [hwait, signsWithin?_backslash, hletter]

/-! ### Texts without a backslash -/

/-- Where no reader waits, every escaped character but a backslash arrives as it should. -/
theorem signsWithin?_escaped (hb : c ≠ '\\') (body : List Char) :
    signsWithin? false false (escapeMatchChar c ++ body) =
      (signsWithin? false false body).map (letterOf c :: ·) := by
  by_cases hoperator : c ∈ matchOperators
  · have hcontrol : isControl c = false := by
      have hseparator := isSeparator_of_mem_matchOperators hoperator
      rw [isSeparator, Bool.or_eq_false_iff] at hseparator
      exact hseparator.2
    have hq := ne_quote_of_mem_matchOperators hoperator
    have hletter : letterOf c = .letter c := by simp [letterOf, hcontrol]
    rw [escapeMatchChar, if_pos hoperator, hletter]
    -- the first backslash hands the second one on, which makes a letter of the operator
    change signsWithin? true false ('\\' :: c :: body) = _
    rw [signsWithin?_handedOn (.inl rfl)]
    exact signsWithin?_handedOn (.inr ⟨hb, hq⟩)
  have hplain : isOperator c = false := by
    rw [Bool.eq_false_iff]
    exact fun h => hoperator (mem_matchOperators_of_isOperator h)
  rw [escapeMatchChar, if_neg hoperator]
  by_cases hq : c = '\x27'
  · subst hq
    exact signsWithin?_handedOn (.inl rfl)
  rw [if_neg hq]
  by_cases hcontrol : isControl c = true
  · rw [if_pos hcontrol, letterOf, if_pos hcontrol]
    exact signsWithin?_handedOn (.inr ⟨by decide, by decide⟩)
  · rw [if_neg hcontrol, letterOf, if_neg hcontrol, List.singleton_append,
      signsWithin?_handedOn (.inr ⟨hb, hq⟩), if_neg Bool.false_ne_true, if_neg hb, bareSign, hplain,
      if_neg Bool.false_ne_true]

/-- Up to its first backslash a text arrives. -/
theorem signsWithin?_escaped_append {cs : List Char} (h : '\\' ∉ cs) (body : List Char) :
    signsWithin? false false (escapeMatchChars cs ++ body) =
      (signsWithin? false false body).map (cs.map letterOf ++ ·) := by
  induction cs with
  | nil =>
    cases hbody : signsWithin? false false body <;> simp [escapeMatchChars, hbody]
  | cons c cs ih =>
    obtain ⟨hc, hcs⟩ : '\\' ≠ c ∧ '\\' ∉ cs := by simpa using h
    change signsWithin? false false (escapeMatchChar c ++ escapeMatchChars cs ++ body) = _
    rw [List.append_assoc, signsWithin?_escaped (Ne.symm hc), ih hcs, Option.map_map]
    rfl

/-! ### Texts with a backslash -/

/-- Where a backslash is owed and a letter after it, no other character sets that right: it closes
the literal, or the first that is handed out is another letter, or the second is an operator. -/
theorem signsWithin?_escaped_ne (hb : c ≠ '\\') (literals expressions : Bool) (body : List Char)
    (d : Char) (signs : List Sign) :
    signsWithin? literals expressions (escapeMatchChar c ++ body) ≠
      some (.letter '\\' :: .letter d :: signs) := by
  intro h
  by_cases hoperator : c ∈ matchOperators
  · have hq := ne_quote_of_mem_matchOperators hoperator
    have hbare : bareSign c = .operator c := by
      have hall : (matchOperators.all fun c => c = '\\' || isOperator c) = true := by decide
      have hsign := List.all_eq_true.1 hall c hoperator
      rw [Bool.or_eq_true, decide_eq_true_eq] at hsign
      rw [bareSign, if_pos (hsign.resolve_left hb)]
    rw [escapeMatchChar, if_pos hoperator] at h
    cases literals <;> cases expressions <;>
      simp [signsWithin?_backslash, signsWithin?_handedOn, hb, hq, hbare] at h
  have hletter : bareSign c = .letter c := by
    rw [bareSign, if_neg]
    exact fun h => hoperator (mem_matchOperators_of_isOperator h)
  rw [escapeMatchChar, if_neg hoperator] at h
  by_cases hq : c = '\x27'
  · subst hq
    cases literals <;> cases expressions <;>
      simp [signsWithin?_backslash, signsWithin?_handedOn, signsWithin?_quote, bareSign, isOperator]
        at h
  rw [if_neg hq] at h
  by_cases hcontrol : isControl c = true
  · rw [if_pos hcontrol] at h
    cases expressions <;> simp [signsWithin?_handedOn, bareSign, isOperator] at h
  · rw [if_neg hcontrol] at h
    cases expressions <;> simp [signsWithin?_handedOn, hb, hq, hletter] at h

/-- **What is owed is never made up for**: where backslashes are owed, a text does not arrive as
these and its letters, wherever the readers stand. -/
theorem ne_owed (owed : Nat) (literals expressions : Bool) (cs : List Char) :
    signsWithin? literals expressions (escapeMatchChars cs) ≠
      some ((List.replicate (owed + 1) '\\' ++ cs).map letterOf) := by
  induction cs generalizing owed literals expressions with
  | nil =>
    change signsWithin? literals expressions [] ≠ _
    rw [signsWithin?_nil]
    split_ifs <;> simp [List.replicate_succ]
  | cons c cs ih =>
    change signsWithin? literals expressions (escapeMatchChar c ++ escapeMatchChars cs) ≠ _
    by_cases hb : c = '\\'
    · subst hb
      -- one more is owed, and one is handed out unless no reader waits
      have hmore : List.replicate (owed + 1) '\\' ++ '\\' :: cs =
          List.replicate (owed + 2) '\\' ++ cs := by
        simp [List.replicate_succ', List.append_assoc]
      have hone : (List.replicate (owed + 2) '\\' ++ cs).map letterOf =
          .letter '\\' :: (List.replicate (owed + 1) '\\' ++ cs).map letterOf := rfl
      obtain ⟨hnone, hboth, hsecond, hfirst⟩ :=
        signsWithin?_escaped_backslash (escapeMatchChars cs)
      have hhanded (literals expressions : Bool) :
          (signsWithin? literals expressions (escapeMatchChars cs)).map (.letter '\\' :: ·) ≠
            some ((List.replicate (owed + 2) '\\' ++ cs).map letterOf) := by
        intro h
        obtain ⟨signs, hsigns, heq⟩ := Option.map_eq_some_iff.1 h
        rw [hone, List.cons.injEq] at heq
        exact ih owed literals expressions (heq.2 ▸ hsigns)
      rw [hmore]
      cases literals with
      | false =>
        cases expressions with
        | false =>
          rw [hnone]
          exact ih (owed + 1) true true
        | true =>
          rw [hsecond]
          exact hhanded true false
      | true =>
        cases expressions with
        | false =>
          rw [hfirst]
          exact hhanded false false
        | true =>
          rw [hboth]
          exact hhanded false true
    · cases owed with
      | zero => exact signsWithin?_escaped_ne hb _ _ _ _ _
      | succ owed => exact signsWithin?_escaped_ne hb _ _ _ _ _

end Within

/-! ### Which texts arrive -/

/-- From its first backslash on a text does not arrive. -/
theorem signsWithin?_ne_of_backslash {before : List Char} (h : '\\' ∉ before) (after : List Char) :
    signsWithin? false false (escapeMatchChars (before ++ '\\' :: after)) ≠
      some ((before ++ '\\' :: after).map letterOf) := by
  have hsplit : escapeMatchChars (before ++ '\\' :: after) =
      escapeMatchChars before ++ (escapeMatchChar '\\' ++ escapeMatchChars after) := by
    rw [escapeMatchChars, List.flatMap_append, List.flatMap_cons]
    rfl
  intro hread
  rw [hsplit, signsWithin?_escaped_append h, (signsWithin?_escaped_backslash _).1,
    List.map_append] at hread
  obtain ⟨signs, hsigns, heq⟩ := Option.map_eq_some_iff.1 hread
  obtain rfl := List.append_cancel_left heq
  exact ne_owed 0 true true after hsigns

/-- **A text arrives letter by letter exactly if it has no backslash.** -/
theorem arrives_iff (s : String) : Arrives s ↔ '\\' ∉ s.toList := by
  have hchars : (escapeMatch s).toList = escapeMatchChars s.toList := String.toList_ofList
  constructor
  · rintro ⟨-, hletters⟩ hmem
    rw [← signsWithin?_eq_some_iff, hchars] at hletters
    obtain ⟨before, after, hsplit, hbefore⟩ := List.eq_append_cons_of_mem hmem
    rw [hsplit] at hletters
    exact signsWithin?_ne_of_backslash hbefore after hletters
  · intro h
    refine ⟨?_, ?_⟩
    · rw [hchars]
      exact (contained_escapeMatch_iff _).2
        ⟨breaksOut_of_no_backslash h, endsOpen_of_no_backslash h⟩
    · rw [← signsWithin?_eq_some_iff, hchars]
      have hread := signsWithin?_escaped_append h []
      rwa [List.append_nil, signsWithin?_nil, if_neg (by decide), Option.map_some,
        List.append_nil] at hread

/-- **Not every text arrives**: a backslash in front of a quote lets the quote close the literal. -/
theorem not_forall_arrives : ¬ ∀ s : String, Arrives s := by
  intro h
  exact absurd (h "\\\x27").contained (by decide)

end Storefront.FullText
