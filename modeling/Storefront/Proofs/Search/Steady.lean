import Storefront.Proofs.Planner.Recovery
import Storefront.Proofs.Search.Upkeep

/-!
# Searches of a steady world

In a *steady* world (`Shop.IsSteady`) the engine is well and answers each statement by its text, the
synonyms are always the same, and so is what the origin store has for a filter whose answers cannot
be read. There a search has nothing to wait for and nothing to remember: in a session that has not
seen a failure (`Session.Calm`) every statement gets through, and the session stays calm.

So a search that finds nothing kept hands out what the filter alone decides, but for the time that
it takes (`Shop.listed`, `Shop.IsSteady.shown_run`).
-/

namespace Storefront

/-! ### Dialogues with fixed answers -/

namespace Dialogue

variable {α : Type}

/-- **The result of a dialogue** with someone who answers each text in one way. -/
def resolve (answer : String → Answer) : Dialogue α → Except EngineFault α
  | .done result => result
  | .ask statement next => (next (answer statement.render)).resolve answer

theorem Alike.resolve_eq {dialogue other : Dialogue α} (h : Alike dialogue other)
    (answer : String → Answer) : dialogue.resolve answer = other.resolve answer := by
  induction h with
  | done result => rfl
  | ask htext _ ih =>
    rw [resolve, resolve, htext]
    exact ih _

/-- A course with these answers leads to this result. -/
theorem Course.eq_resolve {dialogue : Dialogue α} {exchanges : List Exchange}
    {result : Except EngineFault α} (h : dialogue.Course exchanges result)
    {answer : String → Answer}
    (hanswer : ∀ exchange ∈ exchanges, exchange.reply = .ok (answer exchange.statement.render)) :
    result = dialogue.resolve answer := by
  induction h with
  | done result => rfl
  | fault statement next fault => cases hanswer _ (List.mem_singleton_self _)
  | @answer statement next given exchanges result _ ih =>
    obtain ⟨hfirst, hrest⟩ := List.forall_mem_cons.1 hanswer
    rw [ih hrest, resolve, Except.ok.inj hfirst]

end Dialogue

/-! ### Steady worlds -/

/-- What a steady world answers. -/
structure Steady where
  /-- The engine's answer to a statement. -/
  answer : String → Answer
  /-- The groups of synonyms. -/
  groups : List SynonymGroup
  /-- The origin store's answer to a query. -/
  page : OriginQuery → Except OriginFault OriginPage

variable {σ : Type}

namespace Shop

variable (shop : Shop σ) (steady : Steady)

/-- The page that the engine's answers make for a filter. -/
def told (filter : Filter) : Except EngineFault PageRows :=
  (shop.planner.pageDialogue filter).resolve steady.answer

/-- **A steady world.** The origin store has to be steady only where it is asked. -/
structure IsSteady : Prop where
  engine : ∀ text s, (shop.engine.execute text s).1 = .ok (steady.answer text)
  probe : ∀ s, (shop.engine.probe s).1 = true
  synonyms : ∀ s, (shop.synonyms.load s).1.groups = .ok steady.groups
  origin : ∀ filter fault, shop.told steady filter = .error fault →
    ∀ origin, shop.origin = some origin →
      ∀ s, (origin.search (.ofFilter filter) s).1 = steady.page (.ofFilter filter)

/-- The filter that a search goes by in a steady world. -/
def aimed (filter : Filter) : Filter :=
  widenedBy shop (.ofGroups steady.groups) (shop.prepared filter)

end Shop

/-- A listing as far as it does not depend on when it was made and where it came from. -/
def Listing.shown (listing : Listing) : Listing :=
  { listing with source := .engine, latency := 0 }

/-- The page of the origin store for a filter, if there is a store. -/
def Shop.originPage (shop : Shop σ) (steady : Steady) (filter : Filter) : Listing :=
  if shop.origin.isSome then Shop.originListing filter (steady.page (.ofFilter filter))
  else .none filter.page filter.pageSize .fallback

/-- **What a filter alone decides**: the listing of a search that finds nothing kept. -/
def Shop.listed (shop : Shop σ) (steady : Steady) (filter : Filter) : Listing :=
  if (shop.prepared filter).includeIds = some [] then
    (Listing.none (shop.prepared filter).page (shop.prepared filter).pageSize .shortCircuit).shown
  else
    match shop.told steady (shop.aimed steady filter) with
    | .ok rows =>
      (shop.pinned (shop.aimed steady filter)
        (Shop.listingOf (shop.aimed steady filter) rows)).shown
    | .error _ =>
      (shop.pinned (shop.aimed steady filter)
        (shop.originPage steady (shop.aimed steady filter))).shown

/-! ### Calm sessions -/

/-- **A calm session**: its circuit is closed and has no failure on record, the engine counts as up,
and what the thesaurus keeps are the synonyms of the world.

The circuit is a part from elsewhere. All that is used of it in a calm session is what any recloser
offers that trusts an engine that never failed (`Circuit.trusts_recloser`): as long as no call fails
it lets the next one pass. -/
structure Session.Calm (groups : List SynonymGroup) (s : Session σ) : Prop where
  circuit : ∃ ring, s.guarded.guard.breaker.circuit = .closed ring ∧ 1 ≤ ring.length ∧
    ring.failures = 0
  health : s.guarded.guard.health.healthy = true
  thesaurus : ∀ snapshot, s.thesaurus.snapshot = some snapshot →
    snapshot.map = SynonymMap.ofGroups groups

/-- A new session is calm. -/
theorem Session.calm_start (groups : List SynonymGroup) (policy : CircuitPolicy) (interval : Nat)
    (world : σ) : (Session.start policy interval world).Calm groups :=
  ⟨⟨.ofLength policy.failureThreshold, rfl, Nat.le_max_right _ _, rfl⟩, rfl, fun _ h => by cases h⟩

namespace Session.Calm

variable {groups : List SynonymGroup} {s t : Session σ}

/-- Whether a session is calm depends on its guard and its thesaurus alone. -/
theorem of_eq (h : s.Calm groups) (hguard : t.guarded.guard = s.guarded.guard)
    (hthesaurus : t.thesaurus = s.thesaurus) : t.Calm groups :=
  ⟨hguard ▸ h.circuit, hguard ▸ h.health, hthesaurus ▸ h.thesaurus⟩

end Session.Calm

/-- A success leaves a ring without failures as it is. -/
theorem OutcomeRing.failures_record {ring : OutcomeRing} (h : ring.failures = 0) :
    (ring.record false).failures = 0 := by
  have htake : (ring.record false).failures ≤ (false :: ring.recorded).count true :=
    (List.take_sublist _ _).count_le true
  rw [List.count_cons_of_ne (by decide)] at htake
  exact Nat.le_zero.1 (h ▸ htake)

/-- **A success keeps a closed circuit closed**, if it has no failure on record. -/
theorem Circuit.settle_closed (policy : CircuitPolicy) (now : Nat) {ring : OutcomeRing}
    (hlength : 1 ≤ ring.length) (hfailures : ring.failures = 0) :
    Circuit.settle policy now false (.closed ring) = .closed (ring.record false) := by
  have hfew : (ring.record false).mostlyFailed = false := by
    rw [OutcomeRing.mostlyFailed, OutcomeRing.failures_record hfailures]
    exact decide_eq_false (by change ¬ring.length ≤ 0; omega)
  simp only [settle, hfew, Bool.and_false, Bool.false_eq_true, if_false]

/-- **A load that succeeds** leaves its synonyms, or none if it was interrupted. -/
theorem Thesaurus.settle_ok {load : SynonymLoad} {groups : List SynonymGroup}
    (h : load.groups = .ok groups) (now : Nat) (thesaurus : Thesaurus) :
    (thesaurus.settle now load).1 = .ofGroups groups ∧
      ∀ snapshot, (thesaurus.settle now load).2.snapshot = some snapshot →
        snapshot.map = SynonymMap.ofGroups groups := by
  obtain ⟨_, interrupted⟩ := load
  obtain rfl : _ = _ := h
  refine ⟨rfl, fun snapshot hsnapshot => ?_⟩
  cases interrupted with
  | true => cases hsnapshot
  | false =>
    cases hsnapshot
    rfl

namespace Shop.IsSteady

variable {shop : Shop σ} {steady : Steady} {s : Session σ}

/-! ### Each step of a search -/

/-- **A statement gets through**, and the session stays calm. -/
theorem ask (h : shop.IsSteady steady) (hs : s.Calm steady.groups) (text : String) :
    (shop.ask text s).1 = .ok (steady.answer text) ∧ (shop.ask text s).2.Calm steady.groups := by
  obtain ⟨ring, hcircuit, hlength, hfailures⟩ := hs.circuit
  -- a closed circuit admits the statement, and a success keeps it closed
  have hadmit : s.guarded.guard.breaker.circuit.admit? s.guarded.guard.breaker.policy
      (s.clock + 1) = some (.closed ring) := by
    rw [hcircuit]
    rfl
  have hcalled : s.called shop.engine text =
      (.ok (steady.answer text),
        { s.guarded.guard.breaker.account .success with circuit := .closed (ring.record false) },
        (shop.engine.execute text s.guarded.world).2) := by
    rw [Session.called, Breaker.call_of_some hadmit, h.engine]
    have hsettle := Circuit.settle_closed s.guarded.guard.breaker.policy (s.clock + 1) hlength
      hfailures
    simp only [Breaker.outcomeOf, reduceCtorEq, decide_false, hsettle]
    rfl
  refine ⟨?_, ?_, ?_, hs.thesaurus⟩
  · change Guard.report (s.called shop.engine text).1 = _
    rw [hcalled]
    rfl
  · refine ⟨ring.record false, ?_, hlength, OutcomeRing.failures_record hfailures⟩
    change (s.called shop.engine text).2.1.circuit = _
    rw [hcalled]
  · change (Guard.note (s.clock + 1) s.guarded.guard.health
      (s.called shop.engine text).1).healthy = true
    rw [hcalled]
    rfl

theorem asked (h : shop.IsSteady steady) {last : Session σ} {exchanges : List Exchange}
    (hasked : Dialogue.Asked shop.askOrFail s exchanges last) (hs : s.Calm steady.groups) :
    (∀ exchange ∈ exchanges,
      exchange.reply = .ok (steady.answer exchange.statement.render)) ∧
      last.Calm steady.groups := by
  induction hasked with
  | nil s => exact ⟨by simp, hs⟩
  | @cons s next last statement reply exchanges hstep _ ih =>
    obtain ⟨hreply, hnext⟩ := h.ask hs statement.render
    change shop.ask statement.render s = (reply, next) at hstep
    rw [hstep] at hreply hnext
    obtain ⟨hall, hlast⟩ := ih hnext
    exact ⟨List.forall_mem_cons.2 ⟨hreply, hall⟩, hlast⟩

/-- **The page of a filter** is the one that the engine's answers make for it. -/
theorem led (h : shop.IsSteady steady) (hs : s.Calm steady.groups) (filter : Filter) :
    (shop.led filter s).1 = shop.told steady filter ∧ (shop.led filter s).2.Calm steady.groups := by
  obtain ⟨exchanges, hcourse, hasked⟩ :=
    Dialogue.exists_course shop.askOrFail (shop.planner.pageDialogue filter) s
  obtain ⟨hall, hlast⟩ := h.asked hasked hs
  exact ⟨hcourse.eq_resolve hall, hlast⟩

/-- **The engine counts as up**, whether it is probed or not. -/
theorem engineIsUp (h : shop.IsSteady steady) (hs : s.Calm steady.groups) :
    (shop.engineIsUp s).1 = true ∧ (shop.engineIsUp s).2.Calm steady.groups := by
  have hcheck : (Health.check (s.clock + 1) shop.engine.probe
      (s.guarded.guard.health, s.guarded.world)).1 = true ∧
      (Health.check (s.clock + 1) shop.engine.probe
        (s.guarded.guard.health, s.guarded.world)).2.1.healthy = true := by
    cases hknown : s.guarded.guard.health.known? (s.clock + 1) with
    | none =>
      simp only [Health.check, hknown]
      refine ⟨h.probe _, ?_⟩
      change (Health.recordProbe (s.clock + 1) (shop.engine.probe s.guarded.world).1
        s.guarded.guard.health).healthy = true
      rw [h.probe]
      rfl
    | some well =>
      have hwell : well = true := by
        unfold Health.known? at hknown
        split at hknown
        · split_ifs at hknown
          rw [← Option.some.inj hknown, hs.health]
        · cases hknown
      simp only [Health.check, hknown]
      exact ⟨hwell, hs.health⟩
  exact ⟨hcheck.1, hs.circuit, hcheck.2, hs.thesaurus⟩

/-- **The synonyms are those of the world**, whether they are loaded or not. -/
theorem consulted (h : shop.IsSteady steady) (hs : s.Calm steady.groups) :
    (s.consulted shop.synonyms).1.map = .ofGroups steady.groups ∧
      (s.afterConsulting shop.synonyms).Calm steady.groups := by
  have hconsulted : (s.consulted shop.synonyms).1.map = .ofGroups steady.groups ∧
      ∀ snapshot, (s.consulted shop.synonyms).2.1.snapshot = some snapshot →
        snapshot.map = SynonymMap.ofGroups steady.groups := by
    cases hfresh : s.thesaurus.fresh? (s.clock + 1) with
    | some map =>
      simp only [Session.consulted, Thesaurus.get, hfresh]
      refine ⟨?_, hs.thesaurus⟩
      unfold Thesaurus.fresh? at hfresh
      split at hfresh
      · rename_i snapshot hsnapshot
        split_ifs at hfresh
        rw [← Option.some.inj hfresh]
        exact hs.thesaurus snapshot hsnapshot
      · cases hfresh
    | none =>
      simp only [Session.consulted, Thesaurus.get, hfresh]
      exact Thesaurus.settle_ok (h.synonyms _) _ _
  exact ⟨hconsulted.1, hs.circuit, hs.health, hconsulted.2⟩

theorem expanded (h : shop.IsSteady steady) (hs : s.Calm steady.groups) (filter : Filter) :
    (shop.expanded filter s).1 = shop.aimed steady filter ∧
      (shop.expanded filter s).2.Calm steady.groups := by
  rw [Shop.expanded, aimed]
  cases htext : (shop.prepared filter).text with
  | none =>
    rw [shop.widened_of_none htext]
    refine ⟨?_, hs⟩
    rw [widenedBy, htext]
  | some text =>
    obtain ⟨hmap, hcalm⟩ := h.consulted hs
    rw [shop.widened_of_some htext, hmap]
    refine ⟨rfl, ?_⟩
    rw [Session.synonyms_eq]
    split
    · exact hcalm.of_eq rfl rfl
    · exact hcalm

theorem calm_cached (shop : Shop σ) (hs : s.Calm steady.groups) (filter : Filter) :
    (shop.cached filter s).2.Calm steady.groups := by
  cases hcache : s.cache with
  | none => rwa [shop.cached_of_none hcache]
  | some cache =>
    rw [shop.cached_of_some hcache]
    exact hs.of_eq rfl rfl

theorem calm_deliver (shop : Shop σ) (hs : s.Calm steady.groups) (filter : Filter) (rows : PageRows) :
    (shop.deliver filter rows s).2.Calm steady.groups := by
  have hnoted : (if filter.inStockFirst then s.noted (.stockRoundTrips rows.roundTrips)
      else s).Calm steady.groups := by
    split_ifs
    · exact hs.of_eq rfl rfl
    · exact hs
  rw [deliver]
  generalize (if filter.inStockFirst then s.noted (.stockRoundTrips rows.roundTrips) else s) = t
    at hnoted
  cases hcache : t.cache with
  | none => rwa [shop.store_of_none hcache]
  | some cache =>
    rw [shop.store_of_some hcache]
    exact hnoted.of_eq rfl rfl

/-- **The page of the origin store**, where it is asked. -/
theorem fallBack (h : shop.IsSteady steady) (hs : s.Calm steady.groups) {filter : Filter}
    {fault : EngineFault} (hfault : shop.told steady filter = .error fault)
    (reason : FallbackReason) :
    (shop.fallBack filter reason s).1 = shop.originPage steady filter ∧
      (shop.fallBack filter reason s).2.Calm steady.groups := by
  rw [originPage]
  cases horigin : shop.origin with
  | none =>
    rw [shop.fallBack_of_none horigin]
    exact ⟨rfl, hs.of_eq rfl rfl⟩
  | some origin =>
    rw [shop.fallBack_of_some horigin, h.origin filter fault hfault origin horigin]
    exact ⟨rfl, hs.of_eq rfl rfl⟩

/-- **At the engine's door** the engine counts as up. -/
theorem arrives (h : shop.IsSteady steady) (hs : s.Calm steady.groups) {filter : Filter}
    {after : Session σ} (harrives : shop.Arrives filter s after) :
    (shop.engineIsUp after).1 = true ∧ (shop.engineIsUp after).2.Calm steady.groups := by
  have hcached := calm_cached shop (h.expanded hs filter).2 (shop.expanded filter s).1
  rw [harrives.missing] at hcached
  exact h.engineIsUp hcached

/-! ### The whole run -/

/-- **A search of a steady world** leaves a calm session calm, and it hands out what the filter
alone decides, or what was kept for the filter. -/
theorem shown_run (h : shop.IsSteady steady) (hs : s.Calm steady.groups) (filter : Filter) :
    (shop.run filter s).2.Calm steady.groups ∧
      ((shop.run filter s).1.shown = shop.listed steady filter ∨
        (shop.prepared filter).includeIds ≠ some [] ∧
          ∃ kept, s.kept? (shop.key (shop.aimed steady filter)) = some kept ∧
            (shop.run filter s).1.shown = kept.shown) := by
  obtain ⟨outcome, hroute, hrun⟩ := shop.exists_route filter s
  obtain ⟨hexpanded, hcalm⟩ := h.expanded hs filter
  rw [hrun]
  cases hroute with
  | cut hnothing =>
    refine ⟨hs.of_eq rfl rfl, .inl ?_⟩
    rw [listed, if_pos hnothing]
    rfl
  | @kept listing after hsomething hfound =>
    have hafter := calm_cached shop hcalm (shop.expanded filter s).1
    obtain ⟨kept, hkept, rfl⟩ := shop.kept?_of_cached (congrArg Prod.fst hfound)
    rw [Session.kept?_of_cache_eq (shop.cache_expanded filter s), hexpanded] at hkept
    rw [hfound] at hafter
    exact ⟨hafter.of_eq rfl rfl, .inr ⟨hsomething, kept, hkept, rfl⟩⟩
  -- the engine is never down, and it fails only where its answers cannot be read
  | down harrives hdown => cases (h.arrives hs harrives).1.symm.trans hdown
  | @failed after last fault harrives _ hpage =>
    obtain ⟨htold, hlast⟩ := h.led (h.arrives hs harrives).2 (shop.expanded filter s).1
    rw [hpage] at htold hlast
    obtain ⟨hpage, hafter⟩ := h.fallBack hlast htold.symm (.engineFault fault)
    refine ⟨hafter.of_eq rfl rfl, .inl ?_⟩
    rw [hexpanded] at htold hpage
    rw [listed, if_neg harrives.something, ← htold, ← hpage, hexpanded]
    rfl
  | @delivered after last rows harrives _ hpage =>
    obtain ⟨htold, hlast⟩ := h.led (h.arrives hs harrives).2 (shop.expanded filter s).1
    rw [hpage] at htold hlast
    refine ⟨(calm_deliver shop hlast (shop.expanded filter s).1 rows).of_eq rfl rfl, .inl ?_⟩
    rw [hexpanded] at htold
    rw [listed, if_neg harrives.something, ← htold, hexpanded]
    rfl

end Shop.IsSteady

end Storefront
