import Mathlib.Data.List.Basic
import Storefront.Sql.Literal

/-!
# How a statement is read

The reader of a statement goes from left to right and knows one rule of quoting: a quote opens a
literal, within a literal a backslash makes the next character an ordinary one, and the first quote
that no backslash precedes closes it. `Sql.Scan` is where the reader stands, and `Sql.Scan.roles`
is what it takes each character for.

Whoever *writes* a statement has roles in mind as well. They are kept by writing it in pieces
(`Sql.Piece`): words and names and numbers, which are code, and quoted texts. The question of this
file is when the reader takes every character for what the writer meant. The answer is local: every
quoted text has to be *contained* in its quotes, and nothing else matters
(`Sql.reads_as_written_iff`).

Containment is said with an automaton of its own, `Sql.hold`, which follows a text within a
literal, gives up where the text closes the literal, and otherwise tells whether a backslash is
still waiting for the character after it.
-/

namespace Storefront.Sql

/-! ### The reader -/

/-- Where the reader of a statement stands. -/
inductive Scan where
  | outside
  | inside
  /-- Within a literal, behind a backslash that makes the next character an ordinary one. -/
  | escaped
deriving DecidableEq

/-- What a character of a statement is. -/
inductive Role where
  /-- A character outside all literals. -/
  | code
  /-- The quote that opens a literal. -/
  | opening
  /-- A character within a literal, backslashes included. -/
  | content
  /-- The quote that closes a literal. -/
  | closing
deriving DecidableEq

namespace Scan

/-- Where the reader stands after one more character. -/
def next : Scan → Char → Scan
  | outside, c => if c = '\x27' then inside else outside
  | inside, c => if c = '\\' then escaped else if c = '\x27' then outside else inside
  | escaped, _ => inside

/-- What the reader takes a character for. -/
def role : Scan → Char → Role
  | outside, c => if c = '\x27' then .opening else .code
  | inside, c => if c = '\x27' then .closing else .content
  | escaped, _ => .content

/-- Where the reader stands after a text. -/
def finish (scan : Scan) (cs : List Char) : Scan :=
  cs.foldl next scan

/-- **What the reader takes the characters of a text for.** -/
def roles : Scan → List Char → List Role
  | _, [] => []
  | scan, c :: cs => scan.role c :: roles (scan.next c) cs

@[simp] theorem finish_nil (scan : Scan) : scan.finish [] = scan := rfl

@[simp] theorem finish_cons (scan : Scan) (c : Char) (cs : List Char) :
    scan.finish (c :: cs) = (scan.next c).finish cs := rfl

@[simp] theorem finish_append (scan : Scan) (cs ds : List Char) :
    scan.finish (cs ++ ds) = (scan.finish cs).finish ds := by
  simp [finish]

@[simp] theorem roles_nil (scan : Scan) : scan.roles [] = [] := rfl

@[simp] theorem roles_cons (scan : Scan) (c : Char) (cs : List Char) :
    scan.roles (c :: cs) = scan.role c :: (scan.next c).roles cs := rfl

theorem roles_append (scan : Scan) (cs ds : List Char) :
    scan.roles (cs ++ ds) = scan.roles cs ++ (scan.finish cs).roles ds := by
  induction cs generalizing scan with
  | nil => rfl
  | cons c cs ih => simp [ih]

@[simp] theorem length_roles (scan : Scan) (cs : List Char) :
    (scan.roles cs).length = cs.length := by
  induction cs generalizing scan with
  | nil => rfl
  | cons c cs ih => simp [ih]

/-- Without a quote the reader stays outside. -/
theorem finish_outside {cs : List Char} (h : '\x27' ∉ cs) : outside.finish cs = outside := by
  induction cs with
  | nil => rfl
  | cons c cs ih =>
    obtain ⟨hc, hcs⟩ : '\x27' ≠ c ∧ '\x27' ∉ cs := by simpa using h
    rw [finish_cons, next, if_neg (Ne.symm hc)]
    exact ih hcs

/-- Without a quote all characters outside are code. -/
theorem roles_outside {cs : List Char} (h : '\x27' ∉ cs) :
    outside.roles cs = cs.map fun _ => Role.code := by
  induction cs with
  | nil => rfl
  | cons c cs ih =>
    obtain ⟨hc, hcs⟩ : '\x27' ≠ c ∧ '\x27' ∉ cs := by simpa using h
    rw [roles_cons, role, next, if_neg (Ne.symm hc), if_neg (Ne.symm hc), ih hcs, List.map_cons]

end Scan

/-! ### Texts within a literal -/

/-- **Following a text within a literal**: whether a backslash waits for the next character after
it, or nothing if the text closes the literal. The first argument tells whether a backslash waits
before it. -/
def hold : Bool → List Char → Option Bool
  | waiting, [] => some waiting
  | true, _ :: cs => hold false cs
  | false, c :: cs =>
    if c = '\\' then hold true cs else if c = '\x27' then none else hold false cs

@[simp] theorem hold_nil (waiting : Bool) : hold waiting [] = some waiting := by
  cases waiting <;> rfl

@[simp] theorem hold_true_cons (c : Char) (cs : List Char) : hold true (c :: cs) = hold false cs :=
  rfl

@[simp] theorem hold_backslash (cs : List Char) : hold false ('\\' :: cs) = hold true cs := rfl

@[simp] theorem hold_quote (cs : List Char) : hold false ('\x27' :: cs) = none := rfl

/-- An ordinary character of a literal changes nothing. -/
theorem hold_ordinary {c : Char} (hb : c ≠ '\\') (hq : c ≠ '\x27') (waiting : Bool)
    (cs : List Char) : hold waiting (c :: cs) = hold false cs := by
  cases waiting with
  | true => rfl
  | false => rw [hold, if_neg hb, if_neg hq]

theorem hold_append (waiting : Bool) (cs ds : List Char) :
    hold waiting (cs ++ ds) = (hold waiting cs).bind fun waiting => hold waiting ds := by
  induction cs generalizing waiting with
  | nil => simp
  | cons c cs ih =>
    cases waiting with
    | true => simpa using ih false
    | false =>
      simp only [List.cons_append, hold]
      split_ifs
      · exact ih true
      · rfl
      · exact ih false

/-- **A text is contained in its quotes**: it does not close the literal, and the quote behind it
does. -/
def Contained (content : List Char) : Prop :=
  hold false content = some false

instance (content : List Char) : Decidable (Contained content) :=
  inferInstanceAs (Decidable (_ = _))

/-- The state of the reader within a literal. -/
def Scan.within (waiting : Bool) : Scan :=
  if waiting then .escaped else .inside

/-- The reader and the automaton agree: a text that does not close its literal is content from end
to end. -/
theorem roles_within_of_hold {waiting after : Bool} {cs : List Char}
    (h : hold waiting cs = some after) :
    (Scan.within waiting).roles cs = cs.map (fun _ => Role.content) ∧
      (Scan.within waiting).finish cs = Scan.within after := by
  induction cs generalizing waiting with
  | nil =>
    obtain rfl : waiting = after := by simpa using h
    exact ⟨rfl, rfl⟩
  | cons c cs ih =>
    -- behind a backslash every character is content, a quote as well
    cases waiting with
    | true =>
      obtain ⟨hroles, hfinish⟩ := @ih false h
      exact ⟨congrArg (Role.content :: ·) hroles, hfinish⟩
    | false =>
      rw [hold] at h
      split_ifs at h with hb hq
      · obtain ⟨hroles, hfinish⟩ := ih h
        subst hb
        exact ⟨congrArg (Role.content :: ·) hroles, hfinish⟩
      · obtain ⟨hroles, hfinish⟩ := ih h
        have hnext : Scan.inside.next c = .inside := by rw [Scan.next, if_neg hb, if_neg hq]
        have hrole : Scan.inside.role c = .content := by rw [Scan.role, if_neg hq]
        exact ⟨by simpa [Scan.within, hnext, hrole] using hroles,
          by simpa [Scan.within, hnext] using hfinish⟩

/-- Conversely, a text that is content from end to end does not close its literal. -/
theorem hold_isSome_of_roles {waiting : Bool} {cs : List Char}
    (h : (Scan.within waiting).roles cs = cs.map fun _ => Role.content) :
    (hold waiting cs).isSome := by
  induction cs generalizing waiting with
  | nil => simp
  | cons c cs ih =>
    rw [Scan.roles_cons, List.map_cons, List.cons.injEq] at h
    obtain ⟨hrole, hroles⟩ := h
    cases waiting with
    | true => exact @ih false hroles
    | false =>
      -- a quote with no backslash in front would be the closing one
      have hq : c ≠ '\x27' := by
        rintro rfl
        exact absurd hrole (by decide)
      by_cases hb : c = '\\'
      · subst hb
        exact @ih true hroles
      · rw [hold_ordinary hb hq]
        refine @ih false ?_
        have hnext : (Scan.within false).next c = Scan.within false := by
          rw [Scan.within, if_neg Bool.false_ne_true, Scan.next, if_neg hb, if_neg hq]
        rwa [hnext] at hroles

/-! ### The writer -/

/-- A piece of a statement, as its writer thinks of it. -/
inductive Piece where
  /-- Fixed words and marks of the language. -/
  | word (text : String)
  /-- A name that stands without quotes: of an index, a field or a ranking formula. -/
  | name (text : String)
  /-- A number in decimal. -/
  | number (text : String)
  /-- A text between quotes, as it is written there. -/
  | quoted (content : List Char)
deriving DecidableEq

namespace Piece

/-- The characters of a piece. -/
def chars : Piece → List Char
  | word text | name text | number text => text.toList
  | quoted content => '\x27' :: (content ++ ['\x27'])

/-- What the characters of a piece are meant to be. -/
def roles : Piece → List Role
  | quoted content => .opening :: ((content.map fun _ => .content) ++ [.closing])
  | piece => piece.chars.map fun _ => .code

/-- Outside its quoted texts a statement has no quote. -/
def Plain : Piece → Prop
  | quoted _ => True
  | piece => '\x27' ∉ piece.chars

/-- A quoted text is contained in its quotes. -/
def Holds : Piece → Prop
  | quoted content => Contained content
  | _ => True

@[simp] theorem plain_quoted (content : List Char) : (quoted content).Plain := trivial

@[simp] theorem holds_quoted (content : List Char) :
    (quoted content).Holds ↔ Contained content := Iff.rfl

@[simp] theorem holds_word (text : String) : (word text).Holds := trivial
@[simp] theorem holds_name (text : String) : (name text).Holds := trivial
@[simp] theorem holds_number (text : String) : (number text).Holds := trivial

@[simp] theorem length_roles (piece : Piece) : piece.roles.length = piece.chars.length := by
  cases piece <;> simp [roles, chars]

end Piece

/-- The characters of a text in pieces. -/
def written (pieces : List Piece) : List Char :=
  pieces.flatMap Piece.chars

/-- What the characters of a text in pieces are meant to be. -/
def meant (pieces : List Piece) : List Role :=
  pieces.flatMap Piece.roles

/-- **The reader takes a quoted text for what it is meant to be** exactly if the text is contained
in its quotes; and then the reader is outside again. -/
theorem roles_quoted_iff (content : List Char) :
    Scan.outside.roles (Piece.quoted content).chars = (Piece.quoted content).roles ↔
      Contained content := by
  have hopen : Scan.outside.roles (Piece.quoted content).chars =
      .opening :: ((Scan.within false).roles content ++
        [((Scan.within false).finish content).role '\x27']) := by
    rw [Piece.chars, Scan.roles_cons, Scan.roles_append]
    rfl
  rw [hopen, Piece.roles, List.cons.injEq, eq_self, true_and]
  constructor
  · intro h
    obtain ⟨hcontent, hquote⟩ := List.append_inj h (by simp)
    obtain ⟨after, hafter⟩ := Option.isSome_iff_exists.1 (hold_isSome_of_roles hcontent)
    rw [(roles_within_of_hold hafter).2, List.cons.injEq] at hquote
    -- behind a backslash the closing quote would be content
    cases after with
    | false => exact hafter
    | true => exact absurd hquote.1 (by decide)
  · intro h
    obtain ⟨hroles, hfinish⟩ := roles_within_of_hold h
    rw [hroles, hfinish]
    rfl

theorem finish_quoted {content : List Char} (h : Contained content) :
    Scan.outside.finish (Piece.quoted content).chars = .outside := by
  obtain ⟨-, hfinish⟩ := roles_within_of_hold h
  have hopen : Scan.outside.finish (Piece.quoted content).chars =
      ((Scan.within false).finish content).next '\x27' := by
    rw [Piece.chars, Scan.finish_cons, Scan.finish_append]
    rfl
  rw [hopen, hfinish]
  rfl

/-- The reader takes one piece for what it is meant to be exactly if it holds. -/
theorem roles_piece_iff {piece : Piece} (hplain : piece.Plain) :
    Scan.outside.roles piece.chars = piece.roles ↔ piece.Holds := by
  cases piece with
  | quoted content => exact roles_quoted_iff content
  | word text => exact iff_of_true (Scan.roles_outside hplain) trivial
  | name text => exact iff_of_true (Scan.roles_outside hplain) trivial
  | number text => exact iff_of_true (Scan.roles_outside hplain) trivial

/-- After a piece that holds the reader is outside. -/
theorem finish_piece {piece : Piece} (hplain : piece.Plain) (hholds : piece.Holds) :
    Scan.outside.finish piece.chars = .outside := by
  cases piece with
  | quoted content => exact finish_quoted hholds
  | word text => exact Scan.finish_outside hplain
  | name text => exact Scan.finish_outside hplain
  | number text => exact Scan.finish_outside hplain

/-- **A text is read as it is written** – every character for what it is meant to be, and outside
all literals at the end – exactly if all its quoted texts are contained in their quotes. -/
theorem reads_as_written_iff {pieces : List Piece} (hplain : ∀ piece ∈ pieces, piece.Plain) :
    (Scan.outside.roles (written pieces) = meant pieces ∧
        Scan.outside.finish (written pieces) = .outside) ↔
      ∀ piece ∈ pieces, piece.Holds := by
  induction pieces with
  | nil => simp [written, meant]
  | cons piece pieces ih =>
    obtain ⟨hpiece, hpieces⟩ := List.forall_mem_cons.1 hplain
    have ih := ih hpieces
    simp only [written, meant, List.flatMap_cons, Scan.roles_append, Scan.finish_append,
      List.forall_mem_cons] at ih ⊢
    constructor
    · rintro ⟨hroles, hfinish⟩
      -- there is one role for each character, so both sides can be cut behind the first piece
      obtain ⟨hhead, htail⟩ := List.append_inj hroles (by simp)
      have hholds := (roles_piece_iff hpiece).1 hhead
      rw [finish_piece hpiece hholds] at htail hfinish
      exact ⟨hholds, ih.1 ⟨htail, hfinish⟩⟩
    · rintro ⟨hholds, hrest⟩
      obtain ⟨hroles, hfinish⟩ := ih.2 hrest
      rw [finish_piece hpiece hholds, (roles_piece_iff hpiece).2 hholds, hroles]
      exact ⟨rfl, hfinish⟩

end Storefront.Sql
