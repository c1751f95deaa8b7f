import Storefront.Proofs.Search.Steps

/-!
# Searches on record

What a search asks of the world outside leaves no trace in its listing. To speak of it, the world is
given a record: every statement that reaches the engine with the engine's reply, and every query
that reaches the origin store with its page (`Recorded`). A shop *on record* (`Shop.recorded`) does
what the shop does, and its world keeps the record.

Most steps of a search leave the record alone: looking up synonyms, the cache, the journal, the
question for the engine's health (`Session.Unheard`). A statement does not, but there are two ways
in which it may go (`Shop.ask_recorded`): the guard lets it through, and it is on record with the
reply that the search is told; or the guard turns it away, and then it never reaches the engine, and
the breaker has one more rejection on its account.

From this one gets what a whole dialogue leaves on record (`Shop.asked_recorded`): its exchanges, but
for a last one that was turned away.
-/

namespace Storefront

open Number

/-! ### The record -/

/-- A world with a record of what is asked of it. -/
structure Recorded (σ : Type) where
  inner : σ
  /-- The statements that reached the engine, each with its reply, the oldest first. -/
  exchanges : List (String × Reply)
  /-- The queries that reached the origin store, each with what came back. -/
  lookups : List (OriginQuery × Except OriginFault OriginPage)

namespace Recorded

variable {σ : Type}

/-- A step that is not recorded. -/
def onInner {α : Type} (step : StateM σ α) : StateM (Recorded σ) α := fun s =>
  ((step s.inner).1, { s with inner := (step s.inner).2 })

end Recorded

/-- The engine on record. -/
def Engine.recorded {σ : Type} (engine : Engine σ) : Engine (Recorded σ) where
  execute statement := fun s =>
    let (reply, inner) := engine.execute statement s.inner
    (reply, { s with inner := inner, exchanges := s.exchanges ++ [(statement, reply)] })
  probe := Recorded.onInner engine.probe

/-- The origin store on record. -/
def Origin.recorded {σ : Type} (origin : Origin σ) : Origin (Recorded σ) where
  search query := fun s =>
    let (page, inner) := origin.search query s.inner
    (page, { s with inner := inner, lookups := s.lookups ++ [(query, page)] })
  fetch ids := Recorded.onInner (origin.fetch ids)

/-- **The shop on record.** -/
def Shop.recorded {σ : Type} (shop : Shop σ) : Shop (Recorded σ) where
  settings := shop.settings
  planner := shop.planner
  engine := shop.engine.recorded
  synonyms := ⟨Recorded.onInner shop.synonyms.load⟩
  origin := shop.origin.map Origin.recorded
  pins := shop.pins

namespace Session

variable {σ : Type}

/-- The statements on record, each with its reply. -/
def exchanges (s : Session (Recorded σ)) : List (String × Reply) :=
  s.guarded.world.exchanges

/-- The queries on record, each with what came back. -/
def lookups (s : Session (Recorded σ)) : List (OriginQuery × Except OriginFault OriginPage) :=
  s.guarded.world.lookups

/-- The number of statements that the guard turned away. -/
def rejections (s : Session (Recorded σ)) : Nat :=
  s.guarded.guard.breaker.rejections

/-- **Nothing was asked** from one state to another, neither of the engine nor of the origin store. -/
structure Unheard (before after : Session (Recorded σ)) : Prop where
  exchanges : after.exchanges = before.exchanges
  lookups : after.lookups = before.lookups
  rejections : after.rejections = before.rejections

theorem Unheard.rfl (s : Session (Recorded σ)) : Unheard s s :=
  ⟨Eq.refl _, Eq.refl _, Eq.refl _⟩

theorem Unheard.trans {s t u : Session (Recorded σ)} (h : Unheard s t) (h' : Unheard t u) :
    Unheard s u :=
  ⟨h'.exchanges.trans h.exchanges, h'.lookups.trans h.lookups, h'.rejections.trans h.rejections⟩

/-- The end of a search leaves the record alone. -/
theorem Unheard.finished {s : Session (Recorded σ)} {outcome : Listing × Session (Recorded σ)}
    (h : Unheard s outcome.2) (started : Nat) : Unheard s (Shop.finished started outcome).2 :=
  ⟨h.exchanges, h.lookups, h.rejections⟩

theorem unheard_note (measurement : Measurement) (s : Session (Recorded σ)) :
    Unheard s (note measurement s).2 :=
  ⟨Eq.refl _, Eq.refl _, Eq.refl _⟩

/-- A look-up in the thesaurus leaves the record alone, whether it loads the synonyms or not. -/
theorem unheard_synonyms (source : SynonymSource σ) (s : Session (Recorded σ)) :
    Unheard s (synonyms ⟨Recorded.onInner source.load⟩ s).2 := by
  have hworld : (s.consulted ⟨Recorded.onInner source.load⟩).2.2.exchanges = s.exchanges ∧
      (s.consulted ⟨Recorded.onInner source.load⟩).2.2.lookups = s.lookups := by
    cases hfresh : s.thesaurus.fresh? (s.clock + 1) <;>
      simp only [consulted, Thesaurus.get, hfresh] <;> exact ⟨Eq.refl _, Eq.refl _⟩
  have hafter : Unheard s (s.afterConsulting ⟨Recorded.onInner source.load⟩) :=
    ⟨hworld.1, hworld.2, Eq.refl _⟩
  rw [synonyms_eq]
  split
  · exact hafter.trans (unheard_note _ _)
  · exact hafter

end Session

/-! ### What is asked of the engine -/

/-- The search is told what the engine says. -/
theorem Guard.report_failed (reply : Reply) : Guard.report (reply.mapError .failed) = reply := by
  cases reply <;> rfl

/-- A call that passes is no rejection, whatever becomes of it. -/
theorem Breaker.outcomeOf_ne_rejected {ε α : Type} (counts : ε → Bool) (result : Except ε α) :
    Breaker.outcomeOf counts result ≠ .rejected := by
  cases result with
  | ok value => exact fun h => by cases h
  | error fault =>
    rw [outcomeOf]
    split_ifs <;> exact fun h => by cases h

namespace Shop

variable {σ : Type} (shop : Shop σ)

theorem unheard_widened (filter : Filter) (s : Session (Recorded σ)) :
    Session.Unheard s (shop.recorded.widened filter s).2 := by
  cases h : filter.text with
  | none =>
    rw [shop.recorded.widened_of_none h]
    exact .rfl s
  | some text =>
    rw [shop.recorded.widened_of_some h]
    exact Session.unheard_synonyms shop.synonyms s

theorem unheard_cached (filter : Filter) (s : Session (Recorded σ)) :
    Session.Unheard s (shop.recorded.cached filter s).2 := by
  cases h : s.cache with
  | none =>
    rw [shop.recorded.cached_of_none h]
    exact .rfl s
  | some cache =>
    rw [shop.recorded.cached_of_some h]
    exact ⟨rfl, rfl, rfl⟩

theorem unheard_store (filter : Filter) (listing : Listing) (s : Session (Recorded σ)) :
    Session.Unheard s (shop.recorded.store filter listing s).2 := by
  cases h : s.cache with
  | none =>
    rw [shop.recorded.store_of_none h]
    exact .rfl s
  | some cache =>
    rw [shop.recorded.store_of_some h]
    exact ⟨rfl, rfl, rfl⟩

theorem unheard_deliver (filter : Filter) (rows : PageRows) (s : Session (Recorded σ)) :
    Session.Unheard s (shop.recorded.deliver filter rows s).2 := by
  refine Session.Unheard.trans ?_ (shop.unheard_store filter _ _)
  split_ifs
  · exact Session.unheard_note _ s
  · exact .rfl s

/-- The question for the engine's health leaves the record alone, whether the engine is probed or
not. -/
theorem unheard_engineIsUp (s : Session (Recorded σ)) :
    Session.Unheard s (shop.recorded.engineIsUp s).2 := by
  have hcheck : (Health.check (s.clock + 1) (Recorded.onInner shop.engine.probe)
      (s.guarded.guard.health, s.guarded.world)).2.2.exchanges = s.exchanges ∧
      (Health.check (s.clock + 1) (Recorded.onInner shop.engine.probe)
        (s.guarded.guard.health, s.guarded.world)).2.2.lookups = s.lookups := by
    cases hknown : s.guarded.guard.health.known? (s.clock + 1) <;>
      simp only [Health.check, hknown] <;> exact ⟨rfl, rfl⟩
  exact ⟨hcheck.1, hcheck.2, rfl⟩

/-- **A statement**: either the guard lets it through, and it is on record with the reply that the
search is told, or the guard turns it away, and the engine never hears of it. -/
theorem ask_recorded (statement : String) (s : Session (Recorded σ)) :
    (((shop.recorded.ask statement s).2.exchanges =
          s.exchanges ++ [(statement, (shop.recorded.ask statement s).1)] ∧
        (shop.recorded.ask statement s).2.rejections = s.rejections) ∨
      ((shop.recorded.ask statement s).1 = .error (.unreachable circuitOpen) ∧
        (shop.recorded.ask statement s).2.exchanges = s.exchanges ∧
        (shop.recorded.ask statement s).2.rejections = s.rejections + 1)) ∧
      (shop.recorded.ask statement s).2.lookups = s.lookups := by
  -- what the session becomes is what the breaker's call makes of it
  have hcall : (shop.recorded.ask statement s).1 =
        Guard.report (s.called shop.engine.recorded statement).1 ∧
      (shop.recorded.ask statement s).2.rejections =
        (s.called shop.engine.recorded statement).2.1.rejections ∧
      (shop.recorded.ask statement s).2.guarded.world =
        (s.called shop.engine.recorded statement).2.2 := ⟨rfl, rfl, rfl⟩
  obtain ⟨hreply, hrejections, hworld⟩ := hcall
  rw [hreply, hrejections, Session.exchanges, Session.lookups, hworld]
  cases hadmit : s.guarded.guard.breaker.circuit.admit? s.guarded.guard.breaker.policy
      (s.clock + 1) with
  | none =>
    rw [Session.called, Breaker.call_of_none hadmit]
    exact ⟨.inr ⟨rfl, rfl, rfl⟩, rfl⟩
  | some circuit =>
    rw [Session.called, Breaker.call_of_some hadmit, Guard.report_failed]
    refine ⟨.inl ⟨rfl, ?_⟩, rfl⟩
    simp only [Breaker.account, if_neg (Breaker.outcomeOf_ne_rejected _ _), Nat.add_zero]
    rfl

end Shop

/-! ### Dialogues on record -/

variable {σ : Type}

/-- An exchange as it stands on record. -/
def Exchange.onRecord (exchange : Exchange) : String × Reply :=
  (exchange.statement.render, exchange.reply)

/-- **What is on record of a conversation** with the engine: exchanges, the number of statements that
were turned away, and no query. -/
structure Session.Spoke (before after : Session (Recorded σ)) (exchanges : List Exchange)
    (turnedAway : Nat) : Prop where
  exchanges : after.exchanges = before.exchanges ++ exchanges.map Exchange.onRecord
  rejections : after.rejections = before.rejections + turnedAway
  lookups : after.lookups = before.lookups

namespace Session

theorem Unheard.spoke {s t : Session (Recorded σ)} (h : Unheard s t) : Spoke s t [] 0 :=
  ⟨h.exchanges.trans (List.append_nil _).symm, h.rejections, h.lookups⟩

theorem Unheard.trans_spoke {s t u : Session (Recorded σ)} {exchanges : List Exchange}
    {turnedAway : Nat} (h : Unheard s t) (h' : Spoke t u exchanges turnedAway) :
    Spoke s u exchanges turnedAway :=
  ⟨by rw [h'.exchanges, h.exchanges], by rw [h'.rejections, h.rejections],
    h'.lookups.trans h.lookups⟩

theorem Spoke.trans_unheard {s t u : Session (Recorded σ)} {exchanges : List Exchange}
    {turnedAway : Nat} (h : Spoke s t exchanges turnedAway) (h' : Unheard t u) :
    Spoke s u exchanges turnedAway :=
  ⟨h'.exchanges.trans h.exchanges, h'.rejections.trans h.rejections, h'.lookups.trans h.lookups⟩

/-- One more exchange at the beginning. -/
theorem Spoke.cons {s t u : Session (Recorded σ)} {first : Exchange} {exchanges : List Exchange}
    {turnedAway : Nat} (h : Spoke s t [first] 0) (h' : Spoke t u exchanges turnedAway) :
    Spoke s u (first :: exchanges) turnedAway := by
  refine ⟨?_, ?_, h'.lookups.trans h.lookups⟩
  · rw [h'.exchanges, h.exchanges, List.append_assoc]
    rfl
  · rw [h'.rejections, h.rejections, Nat.add_zero]

end Session

/-- The exchanges of a dialogue as they are *heard*: all of them reach the engine, or the guard turns
the last one away. -/
inductive Session.Heard (before after : Session (Recorded σ)) (exchanges reached : List Exchange) :
    Prop
  | all (spoke : Spoke before after reached 0) (whole : exchanges = reached)
  | turnedAway (spoke : Spoke before after reached 1) (statement : Sql.Statement)
    (whole : exchanges = reached ++ [⟨statement, .error (.unreachable circuitOpen)⟩])

/-- **A dialogue on record.** -/
theorem Shop.asked_recorded (shop : Shop σ) {α : Type} {dialogue : Dialogue α}
    {exchanges : List Exchange} {result : Except EngineFault α}
    (hcourse : dialogue.Course exchanges result) {s last : Session (Recorded σ)}
    (hasked : Dialogue.Asked shop.recorded.askOrFail s exchanges last) :
    ∃ reached, Session.Heard s last exchanges reached := by
  induction hcourse generalizing s with
  | done result =>
    cases hasked
    exact ⟨[], .all (Session.Unheard.rfl _).spoke rfl⟩
  | fault statement next fault =>
    cases hasked with
    | @cons _ after _ _ _ _ hstep hnil =>
      cases hnil
      obtain ⟨hasked, hlookups⟩ := shop.ask_recorded statement.render s
      change shop.recorded.ask statement.render s = (.error fault, last) at hstep
      rw [hstep] at hasked hlookups
      -- the fault is the engine's own, or the guard's
      obtain ⟨hexchanges, hrejections⟩ | ⟨hreply, hexchanges, hrejections⟩ := hasked
      · exact ⟨[⟨statement, .error fault⟩], .all ⟨hexchanges, hrejections, hlookups⟩ rfl⟩
      · cases hreply
        exact ⟨[], .turnedAway ⟨hexchanges.trans (List.append_nil _).symm, hrejections, hlookups⟩
          statement rfl⟩
  | @answer statement next answer exchanges result _ ih =>
    cases hasked with
    | @cons _ after _ _ _ _ hstep hrest =>
      obtain ⟨hasked, hlookups⟩ := shop.ask_recorded statement.render s
      change shop.recorded.ask statement.render s = (.ok answer, after) at hstep
      rw [hstep] at hasked hlookups
      -- a statement that is turned away has no answer
      obtain ⟨hexchanges, hrejections⟩ | ⟨hreply, -⟩ := hasked
      · have hfirst : Session.Spoke s after [⟨statement, .ok answer⟩] 0 :=
          ⟨hexchanges, hrejections, hlookups⟩
        obtain ⟨reached, ⟨hspoke, hwhole⟩ | ⟨hspoke, other, hwhole⟩⟩ := ih hrest
        · exact ⟨_, .all (hfirst.cons hspoke) (congrArg _ hwhole)⟩
        · exact ⟨_, .turnedAway (hfirst.cons hspoke) other (congrArg _ hwhole)⟩
      · cases hreply

/-- **The page of a filter on record**: the exchanges are a course of its dialogue. -/
theorem Shop.led_recorded (shop : Shop σ) (filter : Filter) (s : Session (Recorded σ)) :
    ∃ exchanges reached,
      (shop.planner.pageDialogue filter).Course exchanges (shop.recorded.led filter s).1 ∧
        Session.Heard s (shop.recorded.led filter s).2 exchanges reached := by
  obtain ⟨exchanges, hcourse, hasked⟩ := Dialogue.exists_course shop.recorded.askOrFail
    (shop.planner.pageDialogue filter) s
  obtain ⟨reached, hheard⟩ := shop.asked_recorded hcourse hasked
  exact ⟨exchanges, reached, hcourse, hheard⟩

/-! ### The origin store on record -/

/-- **What the origin store has for a filter**, with the queries that it takes: nothing without a
store or if the store fails. -/
inductive Shop.OriginHas (shop : Shop σ) (filter : Filter) :
    List (OriginQuery × Except OriginFault OriginPage) → OriginPage → Prop
  | absent (none : shop.origin = none) : OriginHas shop filter [] ⟨[], 0⟩
  | failed {origin : Origin σ} (some : shop.origin = some origin) (fault : OriginFault) :
    OriginHas shop filter [(.ofFilter filter, .error fault)] ⟨[], 0⟩
  | page {origin : Origin σ} (some : shop.origin = some origin) (page : OriginPage) :
    OriginHas shop filter [(.ofFilter filter, .ok page)] page

/-- **The page from the origin store on record.** -/
theorem Shop.fallBack_recorded (shop : Shop σ) (filter : Filter) (reason : FallbackReason)
    (s : Session (Recorded σ)) :
    ∃ queries page, shop.OriginHas filter queries page ∧
      (shop.recorded.fallBack filter reason s).1 =
        .ofIds page.total page.ids filter.page filter.pageSize .fallback ∧
      (shop.recorded.fallBack filter reason s).2.lookups = s.lookups ++ queries ∧
      (shop.recorded.fallBack filter reason s).2.exchanges = s.exchanges ∧
      (shop.recorded.fallBack filter reason s).2.rejections = s.rejections := by
  cases horigin : shop.origin with
  | none =>
    have hrecorded : shop.recorded.origin = none := by rw [recorded, horigin]; rfl
    rw [fallBack_of_none _ hrecorded]
    exact ⟨[], ⟨[], 0⟩, .absent horigin, rfl, (List.append_nil _).symm, rfl, rfl⟩
  | some origin =>
    have hrecorded : shop.recorded.origin = some origin.recorded := by rw [recorded, horigin]; rfl
    rw [fallBack_of_some _ hrecorded]
    cases hanswer : (origin.search (.ofFilter filter) s.guarded.world.inner).1 with
    | ok page =>
      refine ⟨_, page, .page horigin page, ?_, ?_, rfl, rfl⟩
      · change originListing filter (origin.search (.ofFilter filter) s.guarded.world.inner).1 = _
        rw [hanswer]
        rfl
      · change s.lookups ++
          [(_, (origin.search (.ofFilter filter) s.guarded.world.inner).1)] = _
        rw [hanswer]
    | error fault =>
      refine ⟨_, ⟨[], 0⟩, .failed horigin fault, ?_, ?_, rfl, rfl⟩
      · change originListing filter (origin.search (.ofFilter filter) s.guarded.world.inner).1 = _
        rw [hanswer]
        rfl
      · change s.lookups ++
          [(_, (origin.search (.ofFilter filter) s.guarded.world.inner).1)] = _
        rw [hanswer]

end Storefront
