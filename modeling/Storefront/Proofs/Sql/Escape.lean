import Mathlib.Data.List.Induction
import Storefront.Proofs.Sql.Scan

/-!
# What escaping keeps within quotes

Two ways of escaping bring shoppers' text into a statement. Values of columns are escaped for the
reader of literals alone, and every one of them is contained in its quotes
(`Sql.contained_literal`). Words of a full-text expression are escaped for two readers at once, and
there the two get in each other's way: a backslash of the text is written as *three* backslashes, of
which the reader of literals consumes two and is left with one that waits for whatever comes next.
If that is a second backslash, all is well again. If it is a quote, the quote's own backslash is
taken for the ordinary character and the quote closes the literal.

So what happens to a text depends on the runs of backslashes in it, and exactly on whether they are
odd (`Sql.hold_escapeMatch`):

* a quote with an odd run right in front of it closes the literal: the text *breaks out*
  (`Sql.breaksOut`);
* an odd run at the end leaves a backslash waiting: the text *ends open* (`Sql.endsOpen`), and the
  character that the statement goes on with is swallowed.

A text that does neither is contained in its quotes, and no other is
(`Sql.contained_escapeMatch_iff`).
-/

namespace Storefront.Sql

open Text

/-! ### Values of columns -/

/-- One escaped character of a value leaves no backslash waiting. -/
theorem hold_literalChar (c : Char) : hold false (literalChar c) = some false := by
  rw [literalChar]
  split_ifs with hb hq
  · rfl
  · rfl
  · rfl
  · rw [hold_ordinary hb hq, hold_nil]

/-- **Every value is contained in its quotes.** -/
theorem contained_literal (cs : List Char) : Contained (cs.flatMap literalChar) := by
  induction cs with
  | nil => rfl
  | cons c cs ih =>
    rw [Contained, List.flatMap_cons, hold_append, hold_literalChar]
    exact ih

/-! ### Runs of backslashes -/

/-- Whether the run of backslashes at the end of a text is odd. -/
def endsOpen (cs : List Char) : Bool :=
  (cs.reverse.takeWhile (· = '\\')).length % 2 = 1

/-- Whether some quote of a text has an odd run of backslashes right in front of it. -/
def breaksOut (cs : List Char) : Bool :=
  (List.range cs.length).any fun i => cs[i]? = some '\x27' && endsOpen (cs.take i)

@[simp] theorem endsOpen_nil : endsOpen [] = false := rfl

@[simp] theorem breaksOut_nil : breaksOut [] = false := rfl

theorem endsOpen_concat (cs : List Char) (c : Char) :
    endsOpen (cs ++ [c]) = (decide (c = '\\') && !endsOpen cs) := by
  by_cases hc : c = '\\'
  · subst hc
    simp only [endsOpen, List.reverse_append, List.reverse_singleton, List.singleton_append,
      List.takeWhile_cons, decide_true, reduceIte, List.length_cons, Bool.true_and]
    rcases Nat.mod_two_eq_zero_or_one (cs.reverse.takeWhile (· = '\\')).length with h | h
    · simp [Nat.add_mod, h]
    · simp [Nat.add_mod, h]
  · simp [endsOpen, hc]

theorem breaksOut_concat (cs : List Char) (c : Char) :
    breaksOut (cs ++ [c]) = (breaksOut cs || (decide (c = '\x27') && endsOpen cs)) := by
  -- at the earlier places nothing changes: what is in front of them is the same
  have hinit : ∀ i ∈ List.range cs.length,
      (decide ((cs ++ [c])[i]? = some '\x27') && endsOpen ((cs ++ [c]).take i)) =
        (decide (cs[i]? = some '\x27') && endsOpen (cs.take i)) := by
    intro i hi
    have hlt : i < cs.length := List.mem_range.1 hi
    rw [List.getElem?_append_left hlt, List.take_append_of_le_length (Nat.le_of_lt hlt)]
  have hany : ((List.range cs.length).any fun i =>
      decide ((cs ++ [c])[i]? = some '\x27') && endsOpen ((cs ++ [c]).take i)) = breaksOut cs := by
    rw [breaksOut, Bool.eq_iff_iff, List.any_eq_true, List.any_eq_true]
    exact exists_congr fun i => and_congr_right fun hi => by rw [hinit i hi]
  rw [breaksOut, List.length_append, List.length_singleton, List.range_succ, List.any_append, hany]
  simp

/-- Without a backslash no run is odd. -/
theorem endsOpen_of_no_backslash {cs : List Char} (h : '\\' ∉ cs) : endsOpen cs = false := by
  induction cs using List.reverseRecOn with
  | nil => rfl
  | append_singleton cs c ih =>
    have hc : c ≠ '\\' := by
      rintro rfl
      exact h (by simp)
    simp [endsOpen_concat, hc]

/-- Without a backslash a text does not break out. -/
theorem breaksOut_of_no_backslash {cs : List Char} (h : '\\' ∉ cs) : breaksOut cs = false := by
  induction cs using List.reverseRecOn with
  | nil => rfl
  | append_singleton cs c ih =>
    have hcs : '\\' ∉ cs := fun hm => h (List.mem_append_left _ hm)
    rw [breaksOut_concat, ih hcs, endsOpen_of_no_backslash hcs]
    simp

/-! ### Words of full-text expressions -/

/-- One escaped character within a literal, by whether a backslash waits in front of it: a backslash
turns the one state into the other, a quote closes the literal behind a waiting backslash, and every
other character leaves nothing waiting. -/
theorem hold_escapeMatchChar (waiting : Bool) (c : Char) :
    hold waiting (escapeMatchChar c) =
      if c = '\x27' ∧ waiting then none else some (decide (c = '\\') && !waiting) := by
  by_cases hb : c = '\\'
  · subst hb
    cases waiting <;> rfl
  by_cases hq : c = '\x27'
  · subst hq
    cases waiting <;> rfl
  rw [if_neg (fun h => hq h.1), decide_eq_false hb, Bool.false_and, escapeMatchChar, if_neg hq]
  split_ifs with hoperator hcontrol
  · -- two backslashes and the operator: whichever of the three is taken verbatim, all are used up
    cases waiting
    · simp [hold_ordinary hb hq]
    · simp
  · exact hold_ordinary (by decide) (by decide) waiting []
  · exact hold_ordinary hb hq waiting []

/-- **What escaping makes of a text within a literal**: the literal is closed exactly if the text
breaks out, and otherwise a backslash is left waiting exactly if it ends open. -/
theorem hold_escapeMatch (cs : List Char) :
    hold false (escapeMatchChars cs) = if breaksOut cs then none else some (endsOpen cs) := by
  -- a run is known only where it ends, so characters are added at the end of the text
  induction cs using List.reverseRecOn with
  | nil => rfl
  | append_singleton cs c ih =>
    have happend : escapeMatchChars (cs ++ [c]) = escapeMatchChars cs ++ escapeMatchChar c := by
      simp [escapeMatchChars]
    rw [happend, hold_append, ih, breaksOut_concat, endsOpen_concat]
    cases breaksOut cs with
    | true => simp
    | false =>
      simp only [Bool.false_eq_true, if_false, Option.bind_some, hold_escapeMatchChar,
        Bool.false_or, Bool.and_eq_true, decide_eq_true_eq]

/-- A text is contained in its quotes exactly if it neither breaks out nor ends open. -/
theorem contained_escapeMatch_iff (cs : List Char) :
    Contained (escapeMatchChars cs) ↔ breaksOut cs = false ∧ endsOpen cs = false := by
  rw [Contained, hold_escapeMatch]
  cases breaksOut cs <;> simp

end Storefront.Sql
