import Storefront.Proofs.Engine.Calls

/-!
# What is known of an engine's health

A guard is asked two things: to send a statement, and whether the engine is up. Both may tell it
something about the engine's health, and neither has to – a breaker turns statements away, and what
is known may be fresh enough. All that a guard ever learns are the *signs* that the engine shows of
itself (`Sign`), and there are four ways in which it may go (`Visit.Goes`):

| visit | way | sign | health afterwards |
|---|---|---|---|
| a statement | turned away | none | as before |
| a statement | heard | the reply | up after an answer, down if unreachable, else as before |
| a question | known | none | as before |
| a question | probed | whether it is well | what the sign says |

So what is on record is a matter of the signs alone: the failures on record are the bad signs since
the last good one (`badSince`), and the engine counts as up just if there are none. A question is
answered by a probe whenever nothing that is known is fresh. With an interval of zero this is always
so; with one that is longer than the run it is so at most once, and never after a bad sign
(`Vitals.IsFresh`).

`keepsHealth_tour` says all this of every run of visits, for a guard over any recloser as well as
for the guard over the fitted circuit. A guard is a `Keeper` here, and all that is needed of one is
that every visit goes one of the four ways (`Keeper.IsLawful`).
-/

namespace Storefront

/-! ### Signs -/

/-- **A sign of health**: what an engine shows of itself whenever it is spoken to. -/
inductive Sign where
  /-- The reply to a statement. -/
  | replied (statement : String) (reply : Reply)
  /-- The outcome of a probe. -/
  | probed (well : Bool)

namespace Sign

/-- An answer, or a probe that finds the engine well. -/
def isGood : Sign → Bool
  | replied _ (.ok _) => true
  | replied _ (.error _) => false
  | probed well => well

/-- A statement that cannot reach the engine, or a probe that does not find it well. -/
def isBad : Sign → Bool
  | replied _ reply => reply.isUnreachable
  | probed well => !well

/-- A statement that is refused, or whose answer cannot be read. -/
def isRefusal : Sign → Bool
  | replied _ reply => reply.isRefusal
  | probed _ => false

/-- The outcome of a probe. -/
def isProbe : Sign → Bool
  | replied _ _ => false
  | probed _ => true

/-- A sign by which the question for health is settled for the time being: a probe, or a bad sign.
-/
def settles (sign : Sign) : Bool :=
  sign.isProbe || sign.isBad

/-- A sign is good, bad or a refusal. -/
theorem good_or_bad_or_refusal (sign : Sign) :
    sign.isGood = true ∨ (sign.isGood = false ∧ sign.isBad = true) ∨
      (sign.isGood = false ∧ sign.isBad = false ∧ sign.isRefusal = true) := by
  cases sign with
  | replied statement reply =>
    cases reply with
    | ok answer => exact .inl rfl
    | error fault =>
      cases fault with
      | unreachable => exact .inr (.inl ⟨rfl, rfl⟩)
      | refused => exact .inr (.inr ⟨rfl, rfl, rfl⟩)
      | unreadable => exact .inr (.inr ⟨rfl, rfl, rfl⟩)
  | probed well =>
    cases well with
    | false => exact .inr (.inl ⟨rfl, rfl⟩)
    | true => exact .inl rfl

end Sign

/-- **The bad signs since the last good one**, of signs with the oldest first. -/
def badSince (signs : List Sign) : Nat :=
  (signs.reverse.takeWhile fun sign => !sign.isGood).countP Sign.isBad

theorem badSince_concat (signs : List Sign) (sign : Sign) :
    badSince (signs ++ [sign]) =
      if sign.isGood then 0 else badSince signs + if sign.isBad then 1 else 0 := by
  rw [badSince, List.reverse_concat]
  split_ifs with hgood hbad
  · rw [List.takeWhile_cons_of_neg (by simp [hgood]), List.countP_nil]
  · rw [List.takeWhile_cons_of_pos (by simp [hgood]), List.countP_cons_of_pos hbad]
    rfl
  · rw [List.takeWhile_cons_of_pos (by simp [hgood]), List.countP_cons_of_neg hbad]
    rfl

/-! ### What signs make of the health on record -/

namespace Health

/-- The health on record after a sign. -/
def hear (now : Nat) (health : Health) : Sign → Health
  | .replied _ reply => Guard.note now health (reply.mapError .failed)
  | .probed well => health.recordProbe now well

variable {sign : Sign} (now : Nat) (health : Health)

theorem hear_of_good (h : sign.isGood = true) :
    (health.hear now sign).healthy = true ∧ (health.hear now sign).failures = 0 := by
  cases sign with
  | replied statement reply =>
    cases reply with
    | ok answer => exact ⟨rfl, rfl⟩
    | error fault => cases h
  | probed well =>
    cases well with
    | false => cases h
    | true => exact ⟨rfl, rfl⟩

theorem hear_of_bad (h : sign.isBad = true) : health.hear now sign = health.recordFailure now := by
  cases sign with
  | replied statement reply =>
    cases reply with
    | ok answer => cases h
    | error fault => exact if_pos h
  | probed well =>
    cases well with
    | false => rfl
    | true => cases h

theorem hear_of_refusal (h : sign.isRefusal = true) : health.hear now sign = health := by
  cases sign with
  | replied statement reply =>
    cases reply with
    | ok answer => cases h
    | error fault => exact if_neg (by simpa [Sign.isRefusal, Reply.isRefusal] using h)
  | probed well => cases h

/-- Whoever probes, knows. -/
theorem checked_hear_of_probe (h : sign.isProbe = true) :
    (health.hear now sign).checked = some now := by
  cases sign with
  | replied statement reply => cases h
  | probed well => cases well <;> rfl

/-- What is known goes on being known, as of then or as of now. -/
theorem checked_hear (sign : Sign) :
    (health.hear now sign).checked = some now ∨
      (health.hear now sign).checked = health.checked := by
  rcases sign.good_or_bad_or_refusal with hgood | ⟨-, hbad⟩ | ⟨-, -, hrefusal⟩
  · cases sign with
    | replied statement reply =>
      cases reply with
      | ok answer => exact .inr rfl
      | error fault => cases hgood
    | probed well => exact .inl (checked_hear_of_probe now health rfl)
  · exact .inl (by rw [hear_of_bad now health hbad]; rfl)
  · exact .inr (by rw [hear_of_refusal now health hrefusal])

theorem interval_hear (sign : Sign) : (health.hear now sign).interval = health.interval := by
  cases sign with
  | replied statement reply =>
    cases reply with
    | ok answer => rfl
    | error fault => cases fault <;> rfl
  | probed well => cases well <;> rfl

theorem known?_eq_some_iff {well : Bool} :
    health.known? now = some well ↔
      ∃ instant, health.checked = some instant ∧ now - instant < health.interval ∧
        health.healthy = well := by
  rw [known?]
  cases health.checked with
  | none => simp
  | some instant => simp

end Health

/-! ### Visits -/

/-- What a guard is asked. -/
inductive Visit where
  /-- To send a statement. -/
  | send (sending : Sending)
  /-- Whether the engine is up, so long after the visit before. -/
  | ask (pause : Nat)

/-- What the visitor is told. -/
inductive Told where
  | reply (reply : Reply)
  | up (well : Bool)

/-- What is seen of a guard: the health on record, and all signs so far, the oldest first. -/
structure Vitals where
  health : Health
  signs : List Sign
  clock : Nat
  /-- Whether the breaker turned the last statement away. -/
  turnedAway : Bool

/-- A guard that knows nothing yet. -/
def Vitals.start (interval clock : Nat) : Vitals :=
  ⟨.start interval, [], clock, false⟩

/-- After a sign. -/
def Vitals.hear (now : Nat) (sign : Sign) (vitals : Vitals) : Vitals :=
  { vitals with
    health := vitals.health.hear now sign
    signs := vitals.signs ++ [sign]
    clock := now }

/-- The instant at which a visit is at the guard. -/
def Visit.instant (before : Vitals) : Visit → Nat
  | .send sending => before.clock + sending.pause + 1
  | .ask pause => before.clock + pause + 1

/-- **The four ways that a visit can go.** -/
inductive Visit.Goes (before : Vitals) : Visit → Told → Vitals → Prop
  | turnedAway (sending : Sending) :
      Goes before (.send sending) (.reply (.error (.unreachable circuitOpen)))
        { before with clock := instant before (.send sending), turnedAway := true }
  | heard (sending : Sending) (reply : Reply) :
      Goes before (.send sending) (.reply reply)
        { before.hear (instant before (.send sending)) (.replied sending.statement reply) with
          turnedAway := false }
  | known (pause : Nat) (well : Bool)
      (fresh : before.health.known? (instant before (.ask pause)) = some well) :
      Goes before (.ask pause) (.up well) { before with clock := instant before (.ask pause) }
  | probed (pause : Nat) (well : Bool)
      (stale : before.health.known? (instant before (.ask pause)) = none) :
      Goes before (.ask pause) (.up well) (before.hear (instant before (.ask pause)) (.probed well))

/-- What became of a visit. -/
structure VisitReport where
  before : Vitals
  told : Told
  after : Vitals

/-- The signs that the engine showed during the visit. -/
def VisitReport.shown (report : VisitReport) : List Sign :=
  report.after.signs.drop report.before.signs.length

/-- **A run of visits**, each of which goes one of the four ways. -/
inductive Tour : Vitals → List Visit → List VisitReport → Vitals → Prop
  | nil (start : Vitals) : Tour start [] [] start
  | cons {start next last : Vitals} {visit : Visit} {told : Told} {visits : List Visit}
      {reports : List VisitReport} (first : visit.Goes start told next)
      (rest : Tour next visits reports last) :
      Tour start (visit :: visits) (⟨start, told, next⟩ :: reports) last

/-! ### What a visit keeps -/

namespace Vitals

variable {vitals : Vitals}

/-- **The record agrees with the signs**: the engine counts as up just if there is no failure on
record, and the failures on record are the bad signs since the last good one. -/
structure IsKept (vitals : Vitals) : Prop where
  healthy_iff : vitals.health.healthy = true ↔ vitals.health.failures = 0
  failures_eq : vitals.health.failures = badSince vitals.signs

theorem isKept_start (interval clock : Nat) : (start interval clock).IsKept :=
  ⟨iff_of_true rfl rfl, rfl⟩

/-- A sign is put on record for what it is. -/
theorem IsKept.hear (h : vitals.IsKept) (now : Nat) (sign : Sign) :
    (vitals.hear now sign).IsKept := by
  rcases sign.good_or_bad_or_refusal with hgood | ⟨hnot, hbad⟩ | ⟨hnot, hnot', hrefusal⟩
  · obtain ⟨hhealthy, hfailures⟩ := Health.hear_of_good now vitals.health hgood
    refine ⟨iff_of_true hhealthy hfailures, hfailures.trans ?_⟩
    rw [Vitals.hear, badSince_concat, if_pos hgood]
  · have hrecord := Health.hear_of_bad now vitals.health hbad
    constructor
    · rw [Vitals.hear, hrecord]
      exact iff_of_false Bool.false_ne_true (Nat.succ_ne_zero _)
    · simp only [Vitals.hear, hrecord, badSince_concat, hnot, hbad, Health.recordFailure,
        Bool.false_eq_true, if_false, if_true, h.failures_eq]
  · have hrecord := Health.hear_of_refusal now vitals.health hrefusal
    constructor
    · rw [Vitals.hear, hrecord]
      exact h.healthy_iff
    · simp only [Vitals.hear, hrecord, badSince_concat, hnot, hnot', Bool.false_eq_true, if_false,
        Nat.add_zero, h.failures_eq]

/-! #### While nothing expires -/

/-- **Whoever asks is told what is known**, from some instant on and for an interval: what settles
the question is on record as of later than that instant, and unless the interval is over, nothing
that settles it has a probe after it. -/
structure IsFresh (interval clock : Nat) (vitals : Vitals) : Prop where
  interval_eq : vitals.health.interval = interval
  clock_le : clock ≤ vitals.clock
  checked : ∀ sign ∈ vitals.signs, sign.settles = true →
    ∃ instant, vitals.health.checked = some instant ∧ clock < instant
  settled : vitals.clock ≤ clock + interval →
    vitals.signs.Pairwise fun earlier later => earlier.settles = true → later.isProbe = false

theorem isFresh_start (interval clock : Nat) : (start interval clock).IsFresh interval clock :=
  ⟨rfl, Nat.le_refl _, nofun, fun _ => List.Pairwise.nil⟩

/-- A sign settles the question from then on, if it does, and a probe is only made where nothing
known is fresh. -/
theorem IsFresh.hear {interval clock now : Nat} (h : vitals.IsFresh interval clock)
    (hnow : vitals.clock < now) (sign : Sign)
    (hprobe : sign.isProbe = true → vitals.health.known? now = none) :
    (vitals.hear now sign).IsFresh interval clock where
  interval_eq := (Health.interval_hear now vitals.health sign).trans h.interval_eq
  clock_le := Nat.le_trans h.clock_le (Nat.le_of_lt hnow)
  checked := by
    have hlater : clock < now := Nat.lt_of_le_of_lt h.clock_le hnow
    intro other hother hsettles
    rcases List.mem_append.1 hother with hearlier | hlast
    · obtain ⟨instant, hchecked, hinstant⟩ := h.checked other hearlier hsettles
      rcases Health.checked_hear now vitals.health sign with hfresh | hsame
      · exact ⟨now, hfresh, hlater⟩
      · exact ⟨instant, hsame.trans hchecked, hinstant⟩
    · obtain rfl := List.mem_singleton.1 hlast
      rw [Sign.settles, Bool.or_eq_true] at hsettles
      rcases hsettles with hprobed | hbad
      · exact ⟨now, Health.checked_hear_of_probe now vitals.health hprobed, hlater⟩
      · refine ⟨now, ?_, hlater⟩
        rw [Vitals.hear, Health.hear_of_bad now vitals.health hbad]
        rfl
  settled := by
    intro hclock
    change now ≤ clock + interval at hclock
    have hbegun := h.clock_le
    refine List.pairwise_append.2 ⟨h.settled (by omega), List.pairwise_singleton _ _, ?_⟩
    intro earlier hearlier later hlast hsettles
    obtain rfl := List.mem_singleton.1 hlast
    -- what settled the question is known still, so there was no probe
    obtain ⟨instant, hchecked, hinstant⟩ := h.checked earlier hearlier hsettles
    have hknown : vitals.health.known? now = some vitals.health.healthy :=
      (Health.known?_eq_some_iff now vitals.health).2
        ⟨instant, hchecked, by rw [h.interval_eq]; omega, rfl⟩
    refine Bool.eq_false_iff.2 fun hprobed => ?_
    rw [hprobe hprobed] at hknown
    cases hknown

end Vitals

namespace Visit.Goes

variable {visit : Visit} {told : Told} {before after : Vitals}

theorem isKept (h : visit.Goes before told after) (hkept : before.IsKept) : after.IsKept := by
  cases h with
  | turnedAway => exact ⟨hkept.healthy_iff, hkept.failures_eq⟩
  | heard sending reply =>
    have hheard := hkept.hear (instant before (.send sending)) (.replied sending.statement reply)
    exact ⟨hheard.healthy_iff, hheard.failures_eq⟩
  | known => exact ⟨hkept.healthy_iff, hkept.failures_eq⟩
  | probed => exact hkept.hear _ _

theorem clock_lt (h : visit.Goes before told after) : before.clock < after.clock := by
  cases h <;> simp only [Vitals.hear, instant] <;> omega

theorem isFresh {interval clock : Nat} (h : visit.Goes before told after)
    (hfresh : before.IsFresh interval clock) : after.IsFresh interval clock := by
  have hclock := h.clock_lt
  -- without a sign only the clock has moved
  have hunheard (turnedAway : Bool) : Vitals.IsFresh interval clock
      ⟨before.health, before.signs, after.clock, turnedAway⟩ :=
    ⟨hfresh.interval_eq, Nat.le_trans hfresh.clock_le (Nat.le_of_lt hclock), hfresh.checked,
      fun hle => hfresh.settled (Nat.le_trans (Nat.le_of_lt hclock) hle)⟩
  cases h with
  | turnedAway => exact hunheard true
  | heard sending reply =>
    have hheard := hfresh.hear hclock (.replied sending.statement reply) nofun
    exact ⟨hheard.interval_eq, hheard.clock_le, hheard.checked, hheard.settled⟩
  | known => exact hunheard before.turnedAway
  | probed pause well hstale => exact hfresh.hear hclock (.probed well) fun _ => hstale

end Visit.Goes

/-- **What holds of each visit**: a statement that is turned away reaches nobody, and its sender is
told that the circuit is open; any other is shown to the engine, and its sender is told the reply; one
that is turned away or refused moves nothing. Whoever asks is told the outcome of a probe, or without
one whether there is no failure on record; and with an interval of zero a probe is made. -/
structure Visit.KeepsHealth (interval : Nat) (visit : Visit) (report : VisitReport) : Prop where
  unheard : ∀ sending, visit = .send sending → report.after.turnedAway = true →
    report.shown = [] ∧ report.told = .reply (.error (.unreachable circuitOpen))
  heard : ∀ sending, visit = .send sending → report.after.turnedAway = false →
    ∃ reply, report.shown = [.replied sending.statement reply] ∧ report.told = .reply reply
  unmoved : ∀ sending, visit = .send sending → (∀ sign ∈ report.shown, sign.isRefusal = true) →
    report.after.health = report.before.health
  asked : ∀ pause, visit = .ask pause →
    report.shown = [] ∨ ∃ well, report.shown = [.probed well] ∧ report.told = .up well
  unprobed : ∀ pause, visit = .ask pause → report.shown = [] →
    report.told = .up (decide (report.before.health.failures = 0))
  probed : ∀ pause, visit = .ask pause → interval = 0 →
    ∃ well, report.shown = [.probed well] ∧ report.told = .up well

theorem Visit.Goes.keepsHealth {visit : Visit} {told : Told} {before after : Vitals}
    {interval : Nat} (h : visit.Goes before told after) (hkept : before.IsKept)
    (hinterval : before.health.interval = interval) :
    visit.KeepsHealth interval ⟨before, told, after⟩ := by
  have hnone (signs : List Sign) : signs.drop signs.length = [] := List.drop_length
  have hone (signs : List Sign) (sign : Sign) : (signs ++ [sign]).drop signs.length = [sign] :=
    List.drop_left
  cases h with
  | turnedAway sending =>
    exact ⟨fun _ _ _ => ⟨hnone _, rfl⟩, fun _ _ => nofun, fun _ _ _ => rfl, nofun, nofun, nofun⟩
  | heard sending reply =>
    refine ⟨fun _ _ => nofun, ?_, fun _ _ hrefused => ?_, nofun, nofun, nofun⟩
    · rintro _ ⟨⟩ -
      exact ⟨reply, hone _ _, rfl⟩
    · refine Health.hear_of_refusal _ _ (hrefused (.replied sending.statement reply) ?_)
      change _ ∈ (before.signs ++ [_]).drop before.signs.length
      rw [hone]
      exact List.mem_singleton_self _
  | known pause well hfresh =>
    obtain ⟨instant, -, hwithin, rfl⟩ := (Health.known?_eq_some_iff _ _).1 hfresh
    refine ⟨nofun, nofun, nofun, fun _ _ => .inl (hnone _), fun _ _ _ => ?_, fun _ _ hzero => ?_⟩
    · exact congrArg Told.up (Bool.eq_iff_iff.2 (by simpa using hkept.healthy_iff))
    · omega
  | probed pause well =>
    refine ⟨nofun, nofun, nofun, fun _ _ => .inr ⟨well, hone _ _, rfl⟩, fun _ _ hshown => ?_,
      fun _ _ _ => ⟨well, hone _ _, rfl⟩⟩
    rw [VisitReport.shown, Vitals.hear, hone] at hshown
    cases hshown

theorem Visit.Goes.signs_eq {visit : Visit} {told : Told} {before after : Vitals}
    (h : visit.Goes before told after) :
    after.signs = before.signs ++ VisitReport.shown ⟨before, told, after⟩ := by
  have hprefix : before.signs <+: after.signs := by
    cases h with
    | turnedAway => exact List.prefix_rfl
    | heard => exact List.prefix_append _ _
    | known => exact List.prefix_rfl
    | probed => exact List.prefix_append _ _
  exact (List.prefix_iff_eq_append.1 hprefix).symm

/-! ### What a run keeps -/

/-- Where a settled question is not asked again, there is at most one probe. -/
theorem countP_isProbe_le_one {signs : List Sign}
    (h : signs.Pairwise fun earlier later => earlier.settles = true → later.isProbe = false) :
    signs.countP Sign.isProbe ≤ 1 := by
  induction signs with
  | nil => exact Nat.zero_le _
  | cons sign rest ih =>
    obtain ⟨hlater, hrest⟩ := List.pairwise_cons.1 h
    by_cases hprobe : sign.isProbe = true
    · have hsettles : sign.settles = true := by rw [Sign.settles, hprobe, Bool.true_or]
      have hnone : rest.countP Sign.isProbe = 0 :=
        List.countP_eq_zero.2 fun later hmem => by simp [hlater later hmem hsettles]
      rw [List.countP_cons_of_pos hprobe]
      omega
    · rw [List.countP_cons_of_neg hprobe]
      exact ih hrest

namespace Tour

variable {start last : Vitals} {visits : List Visit} {reports : List VisitReport}

theorem isKept (h : Tour start visits reports last) (hstart : start.IsKept) : last.IsKept := by
  induction h with
  | nil => exact hstart
  | cons first _ ih => exact ih (first.isKept hstart)

theorem isFresh {interval clock : Nat} (h : Tour start visits reports last)
    (hstart : start.IsFresh interval clock) : last.IsFresh interval clock := by
  induction h with
  | nil => exact hstart
  | cons first _ ih => exact ih (first.isFresh hstart)

theorem keepsHealth {interval clock : Nat} (h : Tour start visits reports last)
    (hkept : start.IsKept) (hfresh : start.IsFresh interval clock) :
    List.Forall₂ (Visit.KeepsHealth interval) visits reports := by
  induction h with
  | nil => exact .nil
  | cons first _ ih =>
    exact .cons (first.keepsHealth hkept hfresh.interval_eq)
      (ih (first.isKept hkept) (first.isFresh hfresh))

theorem signs_eq (h : Tour start visits reports last) :
    last.signs = start.signs ++ reports.flatMap VisitReport.shown := by
  induction h with
  | nil => rw [List.flatMap_nil, List.append_nil]
  | cons first _ ih => rw [ih, first.signs_eq, List.flatMap_cons, List.append_assoc]

end Tour

/-- **What holds of a run** from an instant on, for a guard that knew nothing before: the record
agrees with the signs, and the signs are what the engine showed visit by visit; each visit is as it
should be; and if the interval is not over at the end of the run, there was at most one probe, and
none after a bad sign. -/
structure HealthKept (interval clock : Nat) (visits : List Visit) (reports : List VisitReport)
    (last : Vitals) : Prop where
  healthy_iff : last.health.healthy = true ↔ last.health.failures = 0
  failures_eq : last.health.failures = badSince last.signs
  signs_eq : last.signs = reports.flatMap VisitReport.shown
  each : List.Forall₂ (Visit.KeepsHealth interval) visits reports
  probedOnce : last.clock ≤ clock + interval → last.signs.countP Sign.isProbe ≤ 1
  notProbedAfter : last.clock ≤ clock + interval →
    last.signs.Pairwise fun earlier later => earlier.isBad = true → later.isProbe = false

theorem Tour.healthKept {interval clock : Nat} {visits : List Visit} {reports : List VisitReport}
    {last : Vitals} (h : Tour (.start interval clock) visits reports last) :
    HealthKept interval clock visits reports last where
  healthy_iff := (h.isKept (Vitals.isKept_start interval clock)).healthy_iff
  failures_eq := (h.isKept (Vitals.isKept_start interval clock)).failures_eq
  signs_eq := h.signs_eq
  each := h.keepsHealth (Vitals.isKept_start interval clock) (Vitals.isFresh_start interval clock)
  probedOnce := fun hclock =>
    countP_isProbe_le_one ((h.isFresh (Vitals.isFresh_start interval clock)).settled hclock)
  notProbedAfter := fun hclock =>
    ((h.isFresh (Vitals.isFresh_start interval clock)).settled hclock).imp fun hsettled hbad =>
      hsettled (by rw [Sign.settles, hbad, Bool.or_true])

/-! ### Guards -/

/-- A world with the signs that the engine has shown, the oldest first. -/
structure Watched (σ : Type) where
  inner : σ
  signs : List Sign

/-- **The engine under watch.** -/
def Engine.watched {σ : Type} (engine : Engine σ) : Engine (Watched σ) where
  execute statement := fun s =>
    let (reply, inner) := engine.execute statement s.inner
    (reply, ⟨inner, s.signs ++ [.replied statement reply]⟩)
  probe := fun s =>
    let (well, inner) := engine.probe s.inner
    (well, ⟨inner, s.signs ++ [.probed well]⟩)

/-- **A guard**, by what can be asked of it and what is seen of its states. -/
structure Keeper (S : Type) where
  execute : String → StateM S Reply
  healthy : StateM S Bool
  /-- Let time pass. -/
  wait : Nat → S → S
  vitals : S → Vitals

namespace Keeper

variable {S : Type} (keeper : Keeper S)

/-- What comes of a visit. -/
def answer : Visit → S → Told × S
  | .send sending, s =>
    let (reply, after) := keeper.execute sending.statement (keeper.wait sending.pause s)
    (.reply reply, after)
  | .ask pause, s =>
    let (well, after) := keeper.healthy (keeper.wait pause s)
    (.up well, after)

/-- **A visit**, with a report of it. -/
def visit (visit : Visit) : StateM S VisitReport := fun s =>
  let outcome := keeper.answer visit s
  (⟨keeper.vitals s, outcome.1, keeper.vitals outcome.2⟩, outcome.2)

/-- **A run**: visits, one after the other. -/
def tour (visits : List Visit) : StateM S (List VisitReport) :=
  visits.mapM keeper.visit

/-- Every visit goes one of the four ways. -/
def IsLawful : Prop :=
  ∀ (visit : Visit) (s : S), visit.Goes (keeper.vitals s) (keeper.answer visit s).1
    (keeper.vitals (keeper.answer visit s).2)

/-- The visits of a lawful guard are a run of such visits. -/
theorem IsLawful.tour {keeper : Keeper S} (h : keeper.IsLawful) (visits : List Visit) (s : S) :
    Tour (keeper.vitals s) visits (keeper.tour visits s).1
      (keeper.vitals (keeper.tour visits s).2) := by
  induction visits generalizing s with
  | nil => exact .nil _
  | cons visit rest ih =>
    have hrun : keeper.tour (visit :: rest) s =
        ((keeper.visit visit s).1 :: (keeper.tour rest (keeper.visit visit s).2).1,
          (keeper.tour rest (keeper.visit visit s).2).2) := by
      rw [Keeper.tour, List.mapM_cons]
      rfl
    rw [hrun]
    exact .cons (h visit s) (ih _)

/-- The health record is kept along a run from some state and instant on. -/
def KeepsHealth (interval clock : Nat) (visits : List Visit) (s : S) : Prop :=
  HealthKept interval clock visits (keeper.tour visits s).1 (keeper.vitals (keeper.tour visits s).2)

/-- A lawful guard that knows nothing yet keeps its record. -/
theorem IsLawful.keepsHealth {keeper : Keeper S} (h : keeper.IsLawful) {interval clock : Nat}
    {s : S} (hstart : keeper.vitals s = .start interval clock) (visits : List Visit) :
    keeper.KeepsHealth interval clock visits s :=
  (hstart ▸ h.tour visits s).healthKept

end Keeper

variable {κ σ : Type}

/-! #### A guard over any recloser -/

namespace GuardedBy

variable {recloser : Recloser κ} {engine : Engine σ} {statement : String} {s : GuardedBy κ σ}

theorem execute_of_none (h : recloser.pass? (s.clock + 1) s.breaker.circuit = none) :
    execute recloser engine statement s =
      (.error (.unreachable circuitOpen),
        ⟨s.breaker.turnAway, s.health, s.world, s.clock + 1⟩) := by
  simp only [execute, BreakerBy.call_of_none h]
  rfl

theorem execute_of_some {circuit : κ}
    (h : recloser.pass? (s.clock + 1) s.breaker.circuit = some circuit) :
    execute recloser engine statement s =
      ((engine.execute statement s.world).1,
        { breaker := s.breaker.hear recloser (s.clock + 1) circuit
            (engine.execute statement s.world).1
          health := Guard.note (s.clock + 1) s.health
            ((engine.execute statement s.world).1.mapError .failed)
          world := (engine.execute statement s.world).2
          clock := s.clock + 1 }) := by
  simp only [execute, BreakerBy.call_of_some h, Guard.report_failed]

/-- A guard over any recloser, with the engine under watch. -/
def keeper (recloser : Recloser κ) (engine : Engine σ) : Keeper (GuardedBy κ (Watched σ)) where
  execute := execute recloser engine.watched
  healthy := healthy engine.watched
  wait pause s := { s with clock := s.clock + pause }
  vitals s := ⟨s.health, s.world.signs, s.clock, s.breaker.account.last = .rejected⟩

end GuardedBy

/-! #### The guard over the fitted circuit -/

namespace Guard

variable {engine : Engine σ} {statement : String} {s : Guarded σ}

theorem execute_of_none
    (h : s.guard.breaker.circuit.admit? s.guard.breaker.policy (s.clock + 1) = none) :
    execute engine statement s =
      (.error (.unreachable circuitOpen),
        ⟨⟨s.guard.breaker.account .rejected, s.guard.health⟩, s.world, s.clock + 1⟩) := by
  simp only [execute, Breaker.call_of_none h]
  rfl

theorem execute_of_some {circuit : Circuit}
    (h : s.guard.breaker.circuit.admit? s.guard.breaker.policy (s.clock + 1) = some circuit) :
    ∃ breaker : Breaker, breaker.last ≠ .rejected ∧ execute engine statement s =
      ((engine.execute statement s.world).1,
        ⟨⟨breaker, note (s.clock + 1) s.guard.health
            ((engine.execute statement s.world).1.mapError .failed)⟩,
          (engine.execute statement s.world).2, s.clock + 1⟩) := by
  refine ⟨_, ?_, by simp only [execute, Breaker.call_of_some h, report_failed]; rfl⟩
  exact Breaker.outcomeOf_ne_rejected _ _

end Guard

/-- The guard over the fitted circuit, with the engine under watch. -/
def Guarded.keeper (engine : Engine σ) : Keeper (Guarded (Watched σ)) where
  execute := Guard.execute engine.watched
  healthy := Guard.healthy engine.watched
  wait pause s := { s with clock := s.clock + pause }
  vitals s := ⟨s.guard.health, s.world.signs, s.clock, s.guard.breaker.last = .rejected⟩

/-! #### Both are lawful -/

/-- **A question goes one of two ways**: it is answered from what is known, or by a probe. -/
theorem Visit.goes_check (engine : Engine σ) (world : Watched σ) (health : Health)
    (clock pause : Nat) (turnedAway : Bool) {checked : Bool × Health × Watched σ}
    (h : Health.check (clock + pause + 1) engine.watched.probe (health, world) = checked) :
    Visit.Goes ⟨health, world.signs, clock, turnedAway⟩ (.ask pause) (.up checked.1)
      ⟨checked.2.1, checked.2.2.signs, clock + pause + 1, turnedAway⟩ := by
  subst h
  cases hknown : health.known? (clock + pause + 1) with
  | some well =>
    simp only [Health.check, hknown]
    exact .known pause well hknown
  | none =>
    simp only [Health.check, hknown]
    exact .probed pause (engine.probe world.inner).1 hknown

theorem GuardedBy.isLawful_keeper (recloser : Recloser κ) (engine : Engine σ) :
    (keeper recloser engine).IsLawful := by
  rintro (sending | pause) s
  · simp only [Keeper.answer, keeper]
    cases hpass : recloser.pass? (s.clock + sending.pause + 1) s.breaker.circuit with
    | none =>
      rw [execute_of_none hpass]
      exact .turnedAway sending
    | some circuit =>
      rw [execute_of_some hpass]
      have hpassed (reply : Reply) : decide ((s.breaker.hear recloser (s.clock + sending.pause + 1)
          circuit reply).account.last = .rejected) = false :=
        decide_eq_false reply.outcome_ne_rejected
      rw [hpassed]
      exact .heard sending (engine.execute sending.statement s.world.inner).1
  · exact Visit.goes_check engine s.world s.health s.clock pause _ rfl

theorem Guarded.isLawful_keeper (engine : Engine σ) : (keeper engine).IsLawful := by
  rintro (sending | pause) s
  · simp only [Keeper.answer, keeper]
    cases hadmit : s.guard.breaker.circuit.admit? s.guard.breaker.policy
        (s.clock + sending.pause + 1) with
    | none =>
      rw [Guard.execute_of_none hadmit]
      exact .turnedAway sending
    | some circuit =>
      obtain ⟨breaker, hlast, hexecute⟩ := @Guard.execute_of_some _ engine.watched
        sending.statement { s with clock := s.clock + sending.pause } circuit hadmit
      rw [hexecute]
      have hpassed : decide (breaker.last = .rejected) = false := decide_eq_false hlast
      rw [hpassed]
      exact .heard sending (engine.execute sending.statement s.world.inner).1
  · exact Visit.goes_check engine s.world s.guard.health s.clock pause _ rfl

/-- **The health record is kept along every run of visits**, whatever the engine shows and whatever
the breaker turns away: over any recloser, and over the fitted circuit of any policy. -/
theorem keepsHealth_tour (engine : Engine σ) (world : σ) (interval clock : Nat)
    (visits : List Visit) :
    (∀ recloser : Recloser κ, (GuardedBy.keeper recloser engine).KeepsHealth interval clock visits
        ⟨.start recloser, .start interval, ⟨world, []⟩, clock⟩) ∧
      ∀ policy : CircuitPolicy, (Guarded.keeper engine).KeepsHealth interval clock visits
        ⟨.start policy interval, ⟨world, []⟩, clock⟩ :=
  ⟨fun recloser => (GuardedBy.isLawful_keeper recloser engine).keepsHealth rfl visits,
    fun _ => (Guarded.isLawful_keeper engine).keepsHealth rfl visits⟩

/-- An hour in which one statement cannot reach the engine. -/
def shakyHour : List Visit :=
  [.ask 1, .send ⟨1, "SELECT 1"⟩, .send ⟨1, "SELECT 0"⟩, .ask 1, .send ⟨1, "SELECT 1"⟩, .ask 1]

/-- With an interval that outlasts it, the engine is probed once: the failures on record after each
visit, and the number of signs that the engine showed in it. -/
example :
    (((Guarded.keeper (faltering (.ok .empty))).tour shakyHour
      ⟨.start ⟨2, 1, 100⟩ 1000, ⟨(), []⟩, 0⟩).1.map fun report =>
        (report.after.health.failures, report.shown.length)) =
      [(0, 1), (0, 1), (1, 1), (1, 0), (0, 1), (0, 0)] := by
  decide +kernel

end Storefront
