import Mathlib.Tactic.SplitIfs
import Storefront.Facet
import Storefront.Page

/-!
# Fetching a page, as a dialogue

Whoever fetches a page leads a dialogue with the engine: a statement is asked, the answer is read,
and what has been read so far decides what is asked next, or that the page is complete. A fault of
the engine ends the dialogue, and so does an answer that cannot be read.

`Planner.pageDialogue` is the dialogue of a page. It is a tree that knows nothing of the engine and of
what stands in front of it, and leading it with any of them is `Planner.fetchPage`
(`Planner.fetchPage_eq_run`). What can happen on the way is then read off the tree:

| fact | theorem |
|---|---|
| whatever is led is one of the tree's courses | `Dialogue.exists_course` |
| a page takes at most three questions | `Planner.pageDialogue_careful`, `Dialogue.Course.length_le` |
| nothing is asked after a question that fails | `Dialogue.Course.succeeded_of_mem_dropLast` |
| the page is complete exactly if none fails | `Dialogue.Course.isOk_iff` |
-/

namespace Storefront

open Number Sql

/-- **A dialogue with an engine**: a result, or a question with what follows on each answer. -/
inductive Dialogue (α : Type) where
  | done (result : Except EngineFault α)
  | ask (statement : Statement) (next : Answer → Dialogue α)

/-- A question with what came back. -/
structure Exchange where
  statement : Statement
  reply : Reply

namespace Dialogue

variable {α β : Type}

/-- Ask, read the answer, and go on with what has been read. -/
def read (statement : Statement) (reader : Answer → Except EngineFault β)
    (next : β → Dialogue α) : Dialogue α :=
  .ask statement fun answer =>
    match reader answer with
    | .ok value => next value
    | .error fault => .done (.error fault)

/-! ### Leading a dialogue -/

section Run

variable {m : Type → Type} [Monad m]

/-- **The dialogue led with someone who can be asked**; a fault ends it. -/
def run (ask : String → ExceptT EngineFault m Answer) :
    Dialogue α → ExceptT EngineFault m α
  | .done result => MonadExcept.ofExcept result
  | .ask statement next => do
    let answer ← ask statement.render
    (next answer).run ask

variable [LawfulMonad m] (ask : String → ExceptT EngineFault m Answer)

omit [LawfulMonad m] in
theorem run_ofExcept (result : Except EngineFault α) :
    (MonadExcept.ofExcept result : ExceptT EngineFault m α).run = pure result := by
  cases result <;> rfl

/-- Reading an answer is one step of what is led. -/
theorem run_read (statement : Statement) (reader : Answer → Except EngineFault β)
    (next : β → Dialogue α) :
    (read statement reader next).run ask = (do
      let answer ← ask statement.render
      let value ← MonadExcept.ofExcept (reader answer)
      (next value).run ask) := by
  rw [read, run]
  refine bind_congr fun answer => ?_
  cases reader answer with
  | ok value => exact (pure_bind value fun value => (next value).run ask).symm
  | error fault =>
    refine ExceptT.ext ?_
    rw [ExceptT.run_bind, run_ofExcept, pure_bind]
    exact run_ofExcept _

end Run

end Dialogue

/-- An engine that is asked directly, with nothing in front of it. -/
def Engine.asking {σ : Type} (engine : Engine σ) (statement : String) :
    ExceptT EngineFault (StateM σ) Answer :=
  ExceptT.mk (engine.execute statement)

namespace Dialogue

variable {α β : Type}

/-! ### Courses -/

/-- **The courses of a dialogue**: what may be asked and come back on the way to a result. -/
inductive Course : Dialogue α → List Exchange → Except EngineFault α → Prop
  | done (result : Except EngineFault α) : Course (.done result) [] result
  | fault (statement : Statement) (next : Answer → Dialogue α) (fault : EngineFault) :
    Course (.ask statement next) [⟨statement, .error fault⟩] (.error fault)
  | answer {statement : Statement} {next : Answer → Dialogue α} {answer : Answer}
    {exchanges : List Exchange} {result : Except EngineFault α}
    (rest : Course (next answer) exchanges result) :
    Course (.ask statement next) (⟨statement, .ok answer⟩ :: exchanges) result

/-- The exchanges of someone who keeps a state, from one state to another. -/
inductive Asked {S : Type} (ask : String → ExceptT EngineFault (StateM S) Answer) :
    S → List Exchange → S → Prop
  | nil (s : S) : Asked ask s [] s
  | cons {s next last : S} {statement : Statement} {reply : Reply} {exchanges : List Exchange}
    (step : (ask statement.render).run s = (reply, next)) (rest : Asked ask next exchanges last) :
    Asked ask s (⟨statement, reply⟩ :: exchanges) last

/-- **Whatever is led is a course** of the dialogue. -/
theorem exists_course {S : Type} (ask : String → ExceptT EngineFault (StateM S) Answer)
    (dialogue : Dialogue α) (s : S) :
    ∃ exchanges, dialogue.Course exchanges ((dialogue.run ask).run s).1 ∧
      Asked ask s exchanges ((dialogue.run ask).run s).2 := by
  induction dialogue generalizing s with
  | done result => cases result <;> exact ⟨[], .done _, .nil s⟩
  | ask statement next ih =>
    obtain ⟨reply, after, hstep⟩ : ∃ reply after, (ask statement.render).run s = (reply, after) :=
      ⟨_, _, rfl⟩
    cases reply with
    | error fault =>
      have hrun : ((Dialogue.ask statement next).run ask).run s = (.error fault, after) := by
        rw [run, ExceptT.run_bind]
        change StateT.bind (ask statement.render).run _ s = _
        rw [StateT.bind, hstep]
        rfl
      rw [hrun]
      exact ⟨_, .fault statement next fault, .cons hstep (.nil after)⟩
    | ok answer =>
      have hrun : ((Dialogue.ask statement next).run ask).run s =
          ((next answer).run ask).run after := by
        rw [run, ExceptT.run_bind]
        change StateT.bind (ask statement.render).run _ s = _
        rw [StateT.bind, hstep]
        rfl
      rw [hrun]
      obtain ⟨exchanges, hcourse, hasked⟩ := ih answer after
      exact ⟨_, .answer hcourse, .cons hstep hasked⟩

/-- What holds of whatever comes back, whenever it is asked, holds of all exchanges. -/
theorem Asked.forall_mem {S : Type} {ask : String → ExceptT EngineFault (StateM S) Answer}
    {s last : S} {exchanges : List Exchange} (h : Asked ask s exchanges last)
    {P : Exchange → Prop} (hP : ∀ statement s, P ⟨statement, ((ask statement.render).run s).1⟩) :
    ∀ exchange ∈ exchanges, P exchange := by
  induction h with
  | nil s => simp
  | @cons s next last statement reply exchanges hstep _ ih =>
    have hfirst := hP statement s
    rw [hstep] at hfirst
    exact List.forall_mem_cons.2 ⟨hfirst, ih⟩

/-- The courses through a question whose answer is read: the engine faults, or the answer cannot be
read, or the dialogue goes on with what has been read. -/
theorem Course.of_read {statement : Statement} {reader : Answer → Except EngineFault β}
    {next : β → Dialogue α} {exchanges : List Exchange} {result : Except EngineFault α}
    (h : (read statement reader next).Course exchanges result) :
    (∃ fault, exchanges = [⟨statement, .error fault⟩] ∧ result = .error fault) ∨
      (∃ answer fault, reader answer = .error fault ∧ exchanges = [⟨statement, .ok answer⟩] ∧
        result = .error fault) ∨
      ∃ answer value rest, reader answer = .ok value ∧
        exchanges = ⟨statement, .ok answer⟩ :: rest ∧ (next value).Course rest result := by
  cases h with
  | fault _ _ reason => exact .inl ⟨reason, rfl, rfl⟩
  | @answer _ _ answer rest _ hrest =>
    cases hreader : reader answer with
    | ok value =>
      simp only [hreader] at hrest
      exact .inr (.inr ⟨answer, value, rest, hreader, rfl, hrest⟩)
    | error fault =>
      simp only [hreader] at hrest
      cases hrest
      exact .inr (.inl ⟨answer, fault, hreader, rfl, rfl⟩)

/-- **A dialogue that asks only** what is of a kind. -/
inductive AsksOnly (P : Statement → Prop) : Dialogue α → Prop
  | done (result : Except EngineFault α) : AsksOnly P (.done result)
  | ask {statement : Statement} {next : Answer → Dialogue α} (first : P statement)
    (rest : ∀ answer, AsksOnly P (next answer)) : AsksOnly P (.ask statement next)

theorem AsksOnly.of_read {P : Statement → Prop} {statement : Statement}
    {reader : Answer → Except EngineFault β} {next : β → Dialogue α} (hfirst : P statement)
    (hnext : ∀ value, AsksOnly P (next value)) : AsksOnly P (read statement reader next) := by
  refine .ask hfirst fun answer => ?_
  cases reader answer with
  | ok value => exact hnext value
  | error fault => exact .done _

/-- Whatever its course, nothing else is asked. -/
theorem Course.forall_asked {dialogue : Dialogue α} {exchanges : List Exchange}
    {result : Except EngineFault α} (h : dialogue.Course exchanges result) {P : Statement → Prop}
    (honly : AsksOnly P dialogue) : ∀ exchange ∈ exchanges, P exchange.statement := by
  induction h with
  | done result => simp
  | fault statement next fault =>
    cases honly with
    | ask hfirst _ => simpa using hfirst
  | answer _ ih =>
    cases honly with
    | ask hfirst hrest => exact List.forall_mem_cons.2 ⟨hfirst, ih (hrest _)⟩

/-- Dialogues that ask the same texts and make the same of the answers. -/
inductive Alike : Dialogue α → Dialogue α → Prop
  | done (result : Except EngineFault α) : Alike (.done result) (.done result)
  | ask {statement other : Statement} {next after : Answer → Dialogue α}
    (text : statement.render = other.render) (rest : ∀ answer, Alike (next answer) (after answer)) :
    Alike (.ask statement next) (.ask other after)

theorem Alike.of_read {statement other : Statement} {reader : Answer → Except EngineFault β}
    {next after : β → Dialogue α} (htext : statement.render = other.render)
    (hrest : ∀ value, Alike (next value) (after value)) :
    Alike (read statement reader next) (read other reader after) := by
  refine .ask htext fun answer => ?_
  cases reader answer with
  | ok value => exact hrest value
  | error fault => exact .done _

end Dialogue

/-! ### Exchanges that succeed -/

/-- The number of matches in stock and of all others, as an answer with counts by status has them.
An answer without rows is one without matches. -/
def Answer.stockHalves (answer : Answer) : Except EngineFault (Nat × Nat) :=
  if answer.primary.rows.isEmpty then .ok (0, 0)
  else (answer.primary.countsBy 0 fun cell => some (cell.text?.getD "")).map Planner.stockHalves

/-- Whether an answer can be read as what its statement asks for: rows, a number, or counts. -/
def Sql.Statement.readable (answer : Answer) : Statement → Bool
  | .page .. => answer.scoredIds.isOk
  | .count .. => answer.total.isOk
  | .countByStock .. => answer.stockHalves.isOk
  | .facet .. => answer.facetCounts?.isSome

/-- **An exchange that succeeds**: the engine answers, and the answer can be read. -/
def Exchange.Succeeded (exchange : Exchange) : Prop :=
  ∃ answer, exchange.reply = .ok answer ∧ exchange.statement.readable answer = true

theorem Exchange.succeeded_ok {statement : Statement} {answer : Answer} :
    Succeeded ⟨statement, .ok answer⟩ ↔ statement.readable answer = true := by
  simp [Succeeded]

theorem Exchange.not_succeeded_error {statement : Statement} {fault : EngineFault} :
    ¬Succeeded ⟨statement, .error fault⟩ := by
  simp [Succeeded]

namespace Dialogue

variable {α β : Type}

/-- **A careful dialogue** of at most so many questions: it ends with a fault at the first answer that
cannot be read, and with a result if there is none. -/
inductive Careful : Nat → Dialogue α → Prop
  | done (n : Nat) (value : α) : Careful n (.done (.ok value))
  | ask {n : Nat} {statement : Statement} {next : Answer → Dialogue α}
    (read : ∀ answer, statement.readable answer = true → Careful n (next answer))
    (unread : ∀ answer, statement.readable answer = false →
      ∃ fault, next answer = .done (.error fault)) :
    Careful (n + 1) (.ask statement next)

/-- A question is careful if its reader reads what the statement asks for. -/
theorem Careful.of_read {n : Nat} {statement : Statement}
    {reader : Answer → Except EngineFault β} {next : β → Dialogue α}
    (hreader : ∀ answer, statement.readable answer = (reader answer).isOk)
    (hnext : ∀ value, Careful n (next value)) :
    Careful (n + 1) (Dialogue.read statement reader next) := by
  refine .ask (fun answer hread => ?_) fun answer hunread => ?_
  · rw [hreader] at hread
    cases hvalue : reader answer with
    | ok value => exact hnext value
    | error fault => simp [hvalue, Except.isOk, Except.toBool] at hread
  · rw [hreader] at hunread
    cases hvalue : reader answer with
    | ok value => simp [hvalue, Except.isOk, Except.toBool] at hunread
    | error fault => exact ⟨fault, rfl⟩

section Course

variable {n : Nat} {dialogue : Dialogue α} {exchanges : List Exchange}
  {result : Except EngineFault α}

/-- **A careful dialogue takes no more questions than it is said to.** -/
theorem Course.length_le (h : dialogue.Course exchanges result) (hcareful : Careful n dialogue) :
    exchanges.length ≤ n := by
  induction h generalizing n with
  | done result => exact Nat.zero_le n
  | fault statement next fault =>
    cases hcareful
    simp
  | @answer statement next answer exchanges result hrest ih =>
    cases hcareful with
    | ask hread hunread =>
      rw [List.length_cons]
      cases hreadable : statement.readable answer with
      | true => exact Nat.succ_le_succ (ih (hread answer hreadable))
      | false =>
        -- a careful dialogue is over at the first answer that cannot be read
        obtain ⟨fault, hdone⟩ := hunread answer hreadable
        rw [hdone] at hrest
        cases hrest
        simp

/-- **The result is there exactly if all exchanges succeeded.** -/
theorem Course.isOk_iff (h : dialogue.Course exchanges result) (hcareful : Careful n dialogue) :
    result.isOk = true ↔ ∀ exchange ∈ exchanges, exchange.Succeeded := by
  induction h generalizing n with
  | done result =>
    cases hcareful
    simp [Except.isOk, Except.toBool]
  | fault statement next fault =>
    refine iff_of_false nofun fun hall => ?_
    exact Exchange.not_succeeded_error (hall _ (List.mem_singleton_self _))
  | @answer statement next answer exchanges result hrest ih =>
    cases hcareful with
    | ask hread hunread =>
      rw [List.forall_mem_cons, Exchange.succeeded_ok]
      cases hreadable : statement.readable answer with
      | true => simpa using ih (hread answer hreadable)
      | false =>
        obtain ⟨fault, hdone⟩ := hunread answer hreadable
        rw [hdone] at hrest
        cases hrest
        simp [Except.isOk, Except.toBool]

/-- **Nothing is asked after an exchange that failed**: all but the last succeeded. -/
theorem Course.succeeded_of_mem_dropLast (h : dialogue.Course exchanges result)
    (hcareful : Careful n dialogue) :
    ∀ exchange ∈ exchanges.dropLast, exchange.Succeeded := by
  induction h generalizing n with
  | done result => simp
  | fault statement next fault => simp
  | @answer statement next answer exchanges result hrest ih =>
    cases hcareful with
    | ask hread hunread =>
      cases hreadable : statement.readable answer with
      | true =>
        have hrest := ih (hread answer hreadable)
        cases exchanges with
        | nil => simp
        | cons second more =>
          rw [List.dropLast_cons_cons]
          exact List.forall_mem_cons.2 ⟨Exchange.succeeded_ok.2 hreadable, hrest⟩
      | false =>
        obtain ⟨fault, hdone⟩ := hunread answer hreadable
        rw [hdone] at hrest
        cases hrest
        simp

end Course

end Dialogue

/-! ### The dialogues of a page -/

namespace Planner

/-- The dialogue of a page in the engine's order. -/
def rankedDialogue (planner : Planner) (filter : Filter) : Dialogue PageRows :=
  .read (planner.plan filter).select Answer.scoredIds fun rows =>
    .read (planner.plan filter).count Answer.total fun total =>
      .done (.ok { PageRows.empty.addRows rows with total := total, roundTrips := 2 })

/-- The dialogue of a page with everything in stock first, once it is known how many matches are in
stock and how many are not. -/
def halvesDialogue (planner : Planner) (filter : Filter) (inStock others : Nat) :
    Dialogue PageRows :=
  let offset := filter.offset
  let size := max filter.pageSize 1
  let page : PageRows :=
    { PageRows.empty with total := addCounts inStock others, roundTrips := 1 }
  if offset < inStock then
    .read (planner.page filter (some .inStock) offset size) Answer.scoredIds fun rows =>
      let page := { page.addRows rows with roundTrips := 2 }
      if rows.length < size && 0 < others then
        .read (planner.page filter (some .otherwise) 0 (size - rows.length)) Answer.scoredIds
          fun rest => .done (.ok { page.addRows rest with roundTrips := 3 })
      else .done (.ok page)
  else if offset - inStock < others then
    .read (planner.page filter (some .otherwise) (offset - inStock) size) Answer.scoredIds
      fun rows => .done (.ok { page.addRows rows with roundTrips := 2 })
  else .done (.ok page)

/-- The dialogue of a page with everything in stock first. -/
def inStockFirstDialogue (planner : Planner) (filter : Filter) : Dialogue PageRows :=
  .read (planner.countByStock filter) Answer.stockHalves fun (inStock, others) =>
    planner.halvesDialogue filter inStock others

/-- **The dialogue of a page.** -/
def pageDialogue (planner : Planner) (filter : Filter) : Dialogue PageRows :=
  if filter.inStockFirst then planner.inStockFirstDialogue filter else planner.rankedDialogue filter

section Run

variable {m : Type → Type} [Monad m] [LawfulMonad m] (planner : Planner)
  (ask : String → ExceptT EngineFault m Answer) (filter : Filter)

theorem rankedPage_eq_run :
    planner.rankedPage ask filter = (planner.rankedDialogue filter).run ask := by
  simp only [rankedPage, askRows, rankedDialogue, Dialogue.run_read, bind_assoc]
  rfl

theorem askStockHalves_eq :
    planner.askStockHalves ask filter = (do
      let answer ← ask (planner.countByStock filter).render
      MonadExcept.ofExcept answer.stockHalves) := by
  rw [askStockHalves]
  refine bind_congr fun answer => ?_
  rw [Answer.stockHalves]
  by_cases hempty : answer.primary.rows.isEmpty = true
  · simp only [hempty, if_true]
    rfl
  simp only [hempty, if_false, Bool.false_eq_true]
  cases answer.primary.countsBy 0 fun cell => some (cell.text?.getD "") with
  | ok counts => exact pure_bind counts _
  | error fault =>
    refine ExceptT.ext ?_
    rw [ExceptT.run_bind, Dialogue.run_ofExcept, pure_bind]
    exact (Dialogue.run_ofExcept _).symm

theorem inStockFirstPage_eq_run :
    planner.inStockFirstPage ask filter = (planner.inStockFirstDialogue filter).run ask := by
  rw [inStockFirstPage, askStockHalves_eq, inStockFirstDialogue, Dialogue.run_read, bind_assoc]
  refine bind_congr fun answer => bind_congr fun (inStock, others) => ?_
  -- from here on both sides branch alike
  simp only [halvesDialogue]
  split_ifs
  · simp only [Dialogue.run_read, askRows, bind_assoc]
    refine bind_congr fun answer => bind_congr fun rows => ?_
    split_ifs
    · simp only [Dialogue.run_read]
      rfl
    · rfl
  · simp only [Dialogue.run_read, askRows, bind_assoc]
    rfl
  · rfl

/-- **Fetching a page is leading its dialogue**, whoever is asked. -/
theorem fetchPage_eq_run :
    planner.fetchPage ask filter = (planner.pageDialogue filter).run ask := by
  rw [fetchPage, pageDialogue]
  split_ifs
  · exact planner.inStockFirstPage_eq_run ask filter
  · exact planner.rankedPage_eq_run ask filter

end Run

theorem rankedDialogue_careful (planner : Planner) (filter : Filter) :
    (planner.rankedDialogue filter).Careful 3 :=
  .of_read (fun _ => rfl) fun _ => .of_read (fun _ => rfl) fun _ => .done 1 _

theorem inStockFirstDialogue_careful (planner : Planner) (filter : Filter) :
    (planner.inStockFirstDialogue filter).Careful 3 := by
  refine .of_read (fun _ => rfl) fun (inStock, others) => ?_
  simp only [halvesDialogue]
  split_ifs
  · refine .of_read (fun _ => rfl) fun rows => ?_
    split_ifs
    · exact .of_read (fun _ => rfl) fun rest => .done 0 _
    · exact .done 1 _
  · exact .of_read (fun _ => rfl) fun rows => .done 1 _
  · exact .done 2 _

/-- **The dialogue of a page is careful**, and of three questions at most. -/
theorem pageDialogue_careful (planner : Planner) (filter : Filter) :
    (planner.pageDialogue filter).Careful 3 := by
  rw [pageDialogue]
  split_ifs
  · exact planner.inStockFirstDialogue_careful filter
  · exact planner.rankedDialogue_careful filter

end Planner

end Storefront
