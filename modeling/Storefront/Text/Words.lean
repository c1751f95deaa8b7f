import Storefront.Text.Classes

/-!
# Cutting text: trimming, words and comma lists

Three ways in which raw text is cut, all on lists of characters: the blanks at both ends are
dropped (`trim`), a text falls into the non-empty runs between separators (`wordsBy`), and a
comma list falls into all its fields, the empty ones included (`fieldsBy`).
-/

namespace Storefront.Text

/-! ### Trimming -/

/-- The characters without the blanks at both ends. -/
def trimChars (cs : List Char) : List Char :=
  ((cs.dropWhile isBlank).reverse.dropWhile isBlank).reverse

/-- The text without the blanks at both ends. -/
def trim (s : String) : String :=
  String.ofList (trimChars s.toList)

/-- The trimmed text, unless nothing is left of it. -/
def trimmed? (s : String) : Option String :=
  let t := trim s
  if t.isEmpty then none else some t

/-! ### Words -/

/-- The non-empty runs of characters between separators, in order. -/
def wordsBy (sep : Char → Bool) : List Char → List (List Char)
  | [] => []
  | c :: cs =>
    if sep c then wordsBy sep cs
    else (c :: cs.takeWhile (!sep ·)) :: wordsBy sep (cs.dropWhile (!sep ·))
termination_by cs => cs.length
decreasing_by
  · simp
  · have := (List.dropWhile_sublist (!sep ·) (l := cs)).length_le
    simp only [List.length_cons]
    omega

/-- The words of a text query: blanks and control characters separate them. -/
def words (s : String) : List String :=
  (wordsBy isSeparator s.toList).map String.ofList

/-- Whether the text is a phrase: two or more words between blanks. -/
def isPhrase (s : String) : Bool :=
  2 ≤ (wordsBy isBlank s.toList).length

/-! ### Fields -/

/-- All fields between separators, the empty ones included; never an empty list. -/
def fieldsBy (sep : Char) : List Char → List (List Char)
  | [] => [[]]
  | c :: cs =>
    if c = sep then [] :: fieldsBy sep cs
    else
      match fieldsBy sep cs with
      | [] => [[c]]
      | field :: rest => (c :: field) :: rest

/-- The trimmed fields of a comma list. -/
def commaFields (s : String) : List String :=
  (fieldsBy ',' s.toList).map fun cs => String.ofList (trimChars cs)

/-! ### Joining and searching -/

/-- The texts one after another with `sep` between neighbours. -/
def joinWith (sep : String) : List String → String
  | [] => ""
  | [s] => s
  | s :: t :: rest => s ++ sep ++ joinWith sep (t :: rest)

/-- Whether `needle` occurs as a run of consecutive characters. -/
def containsRun (needle : List Char) : List Char → Bool
  | [] => needle.isEmpty
  | c :: cs => needle.isPrefixOf (c :: cs) || containsRun needle cs

/-- What follows the first occurrence of `needle`. -/
def after? (needle : List Char) : List Char → Option (List Char)
  | [] => if needle.isEmpty then some [] else none
  | c :: cs =>
    match needle.isPrefixOf? (c :: cs) with
    | some rest => some rest
    | none => after? needle cs

/-! ### What the cuts keep -/

/-- Every word is non-empty. -/
theorem ne_nil_of_mem_wordsBy {sep : Char → Bool} {cs w : List Char} (h : w ∈ wordsBy sep cs) :
    w ≠ [] := by
  fun_induction wordsBy sep cs with
  | case1 => simp at h
  | case2 c cs _ ih => exact ih h
  | case3 c cs _ ih =>
    rcases List.mem_cons.1 h with rfl | h
    · simp
    · exact ih h

/-- No word holds a separator. -/
theorem not_sep_of_mem_wordsBy {sep : Char → Bool} {cs w : List Char} (h : w ∈ wordsBy sep cs) :
    ∀ c ∈ w, sep c = false := by
  fun_induction wordsBy sep cs with
  | case1 => simp at h
  | case2 c cs _ ih => exact ih h
  | case3 c cs hc ih =>
    rcases List.mem_cons.1 h with rfl | h
    · intro d hd
      rcases List.mem_cons.1 hd with rfl | hd
      · simpa using hc
      · simpa using List.all_eq_true.1 List.all_takeWhile d hd
    · exact ih h

theorem fieldsBy_ne_nil (sep : Char) (cs : List Char) : fieldsBy sep cs ≠ [] := by
  cases cs with
  | nil => simp [fieldsBy]
  | cons c cs =>
    simp only [fieldsBy]
    split
    · simp
    · split <;> simp

end Storefront.Text
