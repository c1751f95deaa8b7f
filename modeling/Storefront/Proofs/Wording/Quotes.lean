import Storefront.Proofs.Sql.Escape
import Storefront.Wording.Basic

/-!
# Wordings within quotes

A wording is written into the literal of a `MATCH`, and the literal should hold all of it. Between
the terms of the wording stand marks of the full-text language – blanks, bars, parentheses, quotation
marks, stars – none of which means anything to the reader of literals. So the terms can be looked at
one by one:

* the wording *breaks out* of its literal as soon as one of its terms does
  (`Wording.breaksOut`);
* a term that ends open does no harm to the literal where a mark follows, because the waiting
  backslash is spent on the mark. Only at the very end of the wording is there none, and there is
  something to follow it in all cases but one: the last word stands alone, without variants, and is
  no phrase (`Wording.endsOpen`).

`Wording.hold_expression` says that this is all there is to it.
-/

namespace Storefront

open Text Sql

/-! ### Marks -/

/-- A text in which the reader of literals sees nothing special. -/
def Ordinary (cs : List Char) : Prop :=
  ∀ c ∈ cs, c ≠ '\\' ∧ c ≠ '\x27'

instance (cs : List Char) : Decidable (Ordinary cs) :=
  decidable_of_iff (cs.all fun c => c ≠ '\\' && c ≠ '\x27') (by simp [Ordinary])

/-- Behind a mark no backslash waits. -/
theorem hold_of_ordinary {mark : List Char} (hmark : Ordinary mark) (hne : mark ≠ [])
    (waiting : Bool) : hold waiting mark = some false := by
  induction mark generalizing waiting with
  | nil => exact absurd rfl hne
  | cons c cs ih =>
    obtain ⟨⟨hb, hq⟩, hcs⟩ := List.forall_mem_cons.1 hmark
    rw [hold_ordinary hb hq]
    cases cs with
    | nil => rfl
    | cons d ds => exact ih hcs (by simp) false

/-- A mark in front of a text makes no difference to it. -/
theorem hold_ordinary_append {mark : List Char} (hmark : Ordinary mark) (cs : List Char) :
    hold false (mark ++ cs) = hold false cs := by
  rcases eq_or_ne mark [] with rfl | hne
  · rfl
  · rw [hold_append, hold_of_ordinary hmark hne, Option.bind_some]

/-- A mark behind a text leaves nothing waiting. -/
theorem hold_append_ordinary {mark cs : List Char} {breaks opens : Bool} (hmark : Ordinary mark)
    (hne : mark ≠ []) (h : hold false cs = if breaks then none else some opens) :
    hold false (cs ++ mark) = if breaks then none else some false := by
  rw [hold_append, h]
  cases breaks with
  | true => rfl
  | false => exact hold_of_ordinary hmark hne opens

/-- **Texts with a mark between neighbours** break out if one of them does, and otherwise end as the
last of them ends. -/
theorem hold_joinWith {α : Type} {mark : String} (hmark : Ordinary mark.toList)
    (hne : mark.toList ≠ []) {text : α → String} {breaks opens : α → Bool}
    (h : ∀ a, hold false (text a).toList = if breaks a then none else some (opens a))
    (as : List α) :
    hold false (joinWith mark (as.map text)).toList =
      if as.any breaks then none else some ((as.getLast?.map opens).getD false) := by
  induction as with
  | nil => rfl
  | cons a as ih =>
    cases as with
    | nil => simpa [joinWith] using h a
    | cons b bs =>
      have hhead := hold_append_ordinary hmark hne (h a)
      simp only [List.map_cons] at ih ⊢
      rw [joinWith, String.toList_append, String.toList_append, hold_append, hhead,
        List.any_cons, List.getLast?_cons_cons]
      cases breaks a with
      | true => rfl
      | false => exact ih

/-! ### Terms, groups, wordings -/

namespace Variant

/-- The term of a variant. -/
def term : Variant → String
  | exact term | start term => term

/-- Whether the term breaks out of its literal. -/
def breaksOut (variant : Variant) : Bool :=
  Sql.breaksOut variant.term.toList

/-- Whether a backslash waits behind the variant: no mark ends it, and its term ends open. -/
def endsOpen : Variant → Bool
  | exact term => !isPhrase term && Sql.endsOpen term.toList
  | start _ => false

/-- Without a backslash in its term nothing waits behind a variant. -/
theorem endsOpen_of_no_backslash {variant : Variant} (h : '\\' ∉ variant.term.toList) :
    variant.endsOpen = false := by
  cases variant with
  | «exact» t =>
    have hterm : Sql.endsOpen t.toList = false := Sql.endsOpen_of_no_backslash h
    rw [endsOpen, hterm, Bool.and_false]
  | start t => rfl

theorem hold_expression (variant : Variant) :
    hold false variant.expression.toList =
      if variant.breaksOut then none else some variant.endsOpen := by
  have hterm (term : String) : hold false (escapeMatch term).toList =
      if Sql.breaksOut term.toList then none else some (Sql.endsOpen term.toList) := by
    rw [escapeMatch, String.toList_ofList, hold_escapeMatch]
  cases variant with
  | «exact» t =>
    rw [expression, endsOpen]
    by_cases hphrase : isPhrase t = true
    · rw [if_pos hphrase, hphrase, String.toList_append, String.toList_append, List.append_assoc,
        hold_ordinary_append (by decide)]
      exact hold_append_ordinary (by decide) (by decide) (hterm t)
    · rw [if_neg hphrase, Bool.eq_false_iff.2 hphrase]
      exact hterm t
  | start t =>
    rw [expression, String.toList_append]
    exact hold_append_ordinary (by decide) (by decide) (hterm t)

end Variant

namespace Alternatives

/-- Whether one of the variants breaks out of the literal. -/
def breaksOut (group : Alternatives) : Bool :=
  group.variants.any Variant.breaksOut

/-- Whether a backslash waits behind the group, which a group in parentheses prevents. -/
def endsOpen (group : Alternatives) : Bool :=
  match group.variants with
  | [variant] => variant.endsOpen
  | _ => false

theorem hold_expression (group : Alternatives) :
    hold false group.expression.toList =
      if group.breaksOut then none else some group.endsOpen := by
  obtain ⟨variants⟩ := group
  match variants with
  | [variant] => simpa [expression, breaksOut, endsOpen] using variant.hold_expression
  | [] => rfl
  | first :: second :: rest =>
    have hjoin := hold_joinWith (by decide : Ordinary " | ".toList) (by decide)
      Variant.hold_expression (first :: second :: rest)
    have hclosed := hold_append_ordinary (by decide : Ordinary ")".toList) (by decide) hjoin
    change hold false ("(" ++ joinWith " | " _ ++ ")").toList = _
    rw [String.toList_append, String.toList_append, List.append_assoc,
      hold_ordinary_append (by decide)]
    exact hclosed

end Alternatives

namespace Wording

/-- **Whether the wording breaks out of its literal.** -/
def breaksOut (wording : Wording) : Bool :=
  wording.groups.any Alternatives.breaksOut

/-- **Whether a backslash waits behind the wording.** -/
def endsOpen (wording : Wording) : Bool :=
  (wording.groups.getLast?.map Alternatives.endsOpen).getD false

/-- **What a wording does within a literal**: it closes the literal if one of its terms breaks out
of it, and otherwise leaves a backslash waiting if its last word does. -/
theorem hold_expression (wording : Wording) :
    hold false wording.expression.toList =
      if wording.breaksOut then none else some wording.endsOpen :=
  hold_joinWith (by decide) (by decide) Alternatives.hold_expression wording.groups

end Wording

end Storefront
