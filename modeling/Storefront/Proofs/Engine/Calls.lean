import Storefront.Engine.Recloser
import Storefront.Proofs.Search.Recorded
import Storefront.Proofs.Search.Steady

/-!
# Refused statements and the circuit

A statement that the engine refuses, or whose answer cannot be read, fails the search that it was
sent for, and no other. For the circuit it is as good as one that is answered: what a sending leaves
of the circuit depends on one thing only, whether the engine could be reached.

| the engine's reply | on account | told to the recloser |
|---|---|---|
| an answer | success | success |
| refused, unreadable | nothing but the call | success |
| unreachable | failure | failure |
| none, since turned away | rejection | nothing |

So two engines that are sent the same statements at the same instants, and can be reached at the same
times, are spoken to alike, however many of the statements the one refuses and the other answers
(`GuardedBy.same_serve`). That is so behind any recloser. If the recloser trusts an engine that never
failed (`Recloser.Trusts`), an engine that can always be reached is always spoken to.

The circuit is such a recloser (`Circuit.trusts_recloser`), and the guard in front of the engine is the
guard over it (`Guarded.execute_byCircuit`).
-/

namespace Storefront

/-! ### Replies -/

/-- Whether the reply is that the engine could not be reached. -/
def Reply.isUnreachable : Reply → Bool
  | .ok _ => false
  | .error fault => fault.isUnreachable

/-- Whether the engine was reached, and refused the statement or gave an answer that could not be
read. -/
def Reply.isRefusal : Reply → Bool
  | .ok _ => false
  | .error fault => !fault.isUnreachable

/-- What became of a call that passed, by the reply to it. -/
def Reply.outcome (reply : Reply) : CallOutcome :=
  .ofResult EngineFault.isUnreachable (reply.mapError .failed)

theorem Reply.outcome_eq_failure_iff (reply : Reply) :
    reply.outcome = .failure ↔ reply.isUnreachable = true := by
  cases reply with
  | ok answer => exact ⟨nofun, nofun⟩
  | error fault =>
    change (if fault.isUnreachable then CallOutcome.failure else .ignored) = .failure ↔
      fault.isUnreachable = true
    cases fault.isUnreachable <;> decide

/-- A call that passes is no rejection, whatever becomes of it. -/
theorem Reply.outcome_ne_rejected (reply : Reply) : reply.outcome ≠ .rejected := by
  cases reply with
  | ok answer => exact nofun
  | error fault => cases fault <;> exact nofun

/-- A call that passes is either on one of the two accounts or a refusal. -/
theorem Reply.outcome_accounts (reply : Reply) :
    (if reply.outcome = .success then 1 else 0) + (if reply.outcome = .failure then 1 else 0) +
      (if reply.isRefusal then 1 else 0) = 1 := by
  cases reply with
  | ok answer => rfl
  | error fault => cases fault <;> rfl

namespace CallAccount

variable (account : CallAccount) (reply : Reply)

@[simp] theorem calls_add (outcome : CallOutcome) :
    (account.add outcome).calls = account.calls + 1 := rfl

@[simp] theorem last_add (outcome : CallOutcome) : (account.add outcome).last = outcome := rfl

@[simp] theorem rejections_add :
    (account.add reply.outcome).rejections = account.rejections := by
  simp only [add, if_neg reply.outcome_ne_rejected, Nat.add_zero]

@[simp] theorem failures_add :
    (account.add reply.outcome).failures =
      account.failures + if reply.isUnreachable then 1 else 0 := by
  simp only [add, reply.outcome_eq_failure_iff]

/-- A reply is on account as a success or a failure, or else it is a refusal. -/
theorem successes_add :
    (account.add reply.outcome).successes + (account.add reply.outcome).failures +
        (if reply.isRefusal then 1 else 0) =
      account.successes + account.failures + 1 := by
  have hone := reply.outcome_accounts
  simp only [add]
  omega

end CallAccount

/-! ### Calls through the breaker -/

variable {κ σ τ : Type}

namespace BreakerBy

/-- The breaker after a call that it turned away. -/
def turnAway (breaker : BreakerBy κ) : BreakerBy κ :=
  { breaker with account := breaker.account.add .rejected }

/-- The breaker after the reply to a call that passed in some state. -/
def hear (recloser : Recloser κ) (now : Nat) (circuit : κ) (reply : Reply)
    (breaker : BreakerBy κ) : BreakerBy κ where
  circuit := recloser.settle now reply.isUnreachable circuit
  account := breaker.account.add reply.outcome

variable {recloser : Recloser κ} {now : Nat} {breaker : BreakerBy κ} {s : σ}
  {operation : StateM σ Reply}

theorem call_of_none (h : recloser.pass? now breaker.circuit = none) :
    call recloser now EngineFault.isUnreachable operation (breaker, s) =
      (.error .rejected, breaker.turnAway, s) := by
  simp only [call, Recloser.call, h]
  rfl

theorem call_of_some {circuit : κ} (h : recloser.pass? now breaker.circuit = some circuit) :
    call recloser now EngineFault.isUnreachable operation (breaker, s) =
      ((operation s).1.mapError .failed, breaker.hear recloser now circuit (operation s).1,
        (operation s).2) := by
  simp only [call, Recloser.call, h]
  rcases operation s with ⟨fault | answer, after⟩ <;> rfl

end BreakerBy

/-! ### Sendings -/

/-- A statement that is sent to the engine, so long after the one before. -/
structure Sending where
  pause : Nat
  statement : String

/-- What becomes of a sending. -/
structure Dispatch where
  /-- What the engine hears of it, with its reply. -/
  reached : List (String × Reply)
  /-- What the sender is told. -/
  reply : Reply
  /-- The account of calls afterwards. -/
  account : CallAccount

/-- Whether the breaker turned the sending away. -/
def Dispatch.isRejected (dispatch : Dispatch) : Bool :=
  dispatch.account.last = .rejected

namespace GuardedBy

/-- A guard with a new breaker, before an engine that nobody has spoken to. -/
def opened (recloser : Recloser κ) (health : Health) (clock : Nat) (world : σ) :
    GuardedBy κ (Recorded σ) :=
  ⟨.start recloser, health, ⟨world, [], []⟩, clock⟩

variable (recloser : Recloser κ)

/-- **A sending through the guard**, with the engine on record. -/
def dispatch (engine : Engine σ) (sending : Sending) :
    StateM (GuardedBy κ (Recorded σ)) Dispatch := fun s =>
  let (reply, after) :=
    execute recloser engine.recorded sending.statement { s with clock := s.clock + sending.pause }
  (⟨after.world.exchanges.drop s.world.exchanges.length, reply, after.breaker.account⟩, after)

/-- **A run**: sendings, one after the other. -/
def serve (engine : Engine σ) (sendings : List Sending) :
    StateM (GuardedBy κ (Recorded σ)) (List Dispatch) :=
  sendings.mapM (dispatch recloser engine)

theorem serve_nil (engine : Engine σ) (s : GuardedBy κ (Recorded σ)) :
    serve recloser engine [] s = ([], s) := rfl

theorem serve_cons (engine : Engine σ) (sending : Sending) (rest : List Sending)
    (s : GuardedBy κ (Recorded σ)) :
    serve recloser engine (sending :: rest) s =
      ((dispatch recloser engine sending s).1 ::
          (serve recloser engine rest (dispatch recloser engine sending s).2).1,
        (serve recloser engine rest (dispatch recloser engine sending s).2).2) := by
  rw [serve, List.mapM_cons]
  rfl

end GuardedBy

/-- The instant at which a sending that follows on a state is at the guard. -/
def Sending.instant (sending : Sending) (s : GuardedBy κ σ) : Nat :=
  s.clock + sending.pause + 1

/-- **The two ways that a sending can go**: the breaker turns it away, or the engine hears of it and
its reply is what the sender is told. -/
inductive Sending.Goes (recloser : Recloser κ) (sending : Sending) (s : GuardedBy κ (Recorded σ))
    (dispatch : Dispatch) (after : GuardedBy κ (Recorded σ)) : Prop where
  | turnedAway
      (decided : recloser.pass? (sending.instant s) s.breaker.circuit = none)
      (dispatch_eq : dispatch =
        ⟨[], .error (.unreachable circuitOpen), s.breaker.account.add .rejected⟩)
      (breaker : after.breaker = s.breaker.turnAway)
      (exchanges : after.world.exchanges = s.world.exchanges)
      (clock : after.clock = sending.instant s)
  | heard (circuit : κ) (reply : Reply)
      (decided : recloser.pass? (sending.instant s) s.breaker.circuit = some circuit)
      (dispatch_eq : dispatch =
        ⟨[(sending.statement, reply)], reply, s.breaker.account.add reply.outcome⟩)
      (breaker : after.breaker = s.breaker.hear recloser (sending.instant s) circuit reply)
      (exchanges : after.world.exchanges = s.world.exchanges ++ [(sending.statement, reply)])
      (clock : after.clock = sending.instant s)

/-- The call through the breaker that a sending is. -/
def Sending.call (recloser : Recloser κ) (engine : Engine σ) (sending : Sending)
    (s : GuardedBy κ (Recorded σ)) :
    Except (CircuitFault EngineFault) Answer × BreakerBy κ × Recorded σ :=
  BreakerBy.call recloser (sending.instant s) EngineFault.isUnreachable
    (engine.recorded.execute sending.statement) (s.breaker, s.world)

/-- Each sending goes one of the two ways. -/
theorem GuardedBy.goes_dispatch (recloser : Recloser κ) (engine : Engine σ) (sending : Sending)
    (s : GuardedBy κ (Recorded σ)) :
    sending.Goes recloser s (dispatch recloser engine sending s).1
      (dispatch recloser engine sending s).2 := by
  have hsteps : dispatch recloser engine sending s =
      (⟨(sending.call recloser engine s).2.2.exchanges.drop s.world.exchanges.length,
          Guard.report (sending.call recloser engine s).1,
          (sending.call recloser engine s).2.1.account⟩,
        ⟨(sending.call recloser engine s).2.1,
          Guard.note (sending.instant s) s.health (sending.call recloser engine s).1,
          (sending.call recloser engine s).2.2, sending.instant s⟩) := rfl
  rw [hsteps]
  cases hdecided : recloser.pass? (sending.instant s) s.breaker.circuit with
  | none =>
    rw [Sending.call, BreakerBy.call_of_none hdecided, List.drop_length]
    exact .turnedAway hdecided rfl rfl rfl rfl
  | some circuit =>
    rw [Sending.call, BreakerBy.call_of_some hdecided, Guard.report_failed]
    refine .heard circuit (engine.execute sending.statement s.world.inner).1 hdecided ?_ rfl rfl rfl
    exact congrArg (Dispatch.mk · _ _) List.drop_left

/-! ### Two runs side by side -/

/-- Two dispatches agree on whether the engine can be reached, if both get to it. -/
def Dispatch.Agrees (dispatch other : Dispatch) : Prop :=
  ∀ exchange ∈ dispatch.reached, ∀ exchange' ∈ other.reached,
    exchange.2.isUnreachable = exchange'.2.isUnreachable

instance (dispatch other : Dispatch) : Decidable (dispatch.Agrees other) :=
  inferInstanceAs (Decidable (∀ exchange ∈ dispatch.reached, ∀ exchange' ∈ other.reached,
    exchange.2.isUnreachable = exchange'.2.isUnreachable))

/-- **Two dispatches are the same** but for what the engine replies: it hears the same statements,
both are turned away or neither, and the accounts of calls, failures and rejections stand alike. -/
structure Dispatch.Same (dispatch other : Dispatch) : Prop where
  statements : dispatch.reached.map Prod.fst = other.reached.map Prod.fst
  rejected : dispatch.isRejected = other.isRejected
  calls : dispatch.account.calls = other.account.calls
  failures : dispatch.account.failures = other.account.failures
  rejections : dispatch.account.rejections = other.account.rejections

/-- Two breakers are alike: they turn the same calls away, and have had as many calls, failures and
rejections. -/
structure BreakerBy.Alike (breaker other : BreakerBy κ) : Prop where
  circuit : breaker.circuit = other.circuit
  calls : breaker.account.calls = other.account.calls
  failures : breaker.account.failures = other.account.failures
  rejections : breaker.account.rejections = other.account.rejections

namespace BreakerBy.Alike

variable {breaker other : BreakerBy κ}

theorem turnAway (h : breaker.Alike other) : breaker.turnAway.Alike other.turnAway where
  circuit := h.circuit
  calls := congrArg (· + 1) h.calls
  failures := h.failures
  rejections := congrArg (· + 1) h.rejections

/-- Replies that agree on whether the engine can be reached leave alike breakers alike. -/
theorem hear (h : breaker.Alike other) (recloser : Recloser κ) (now : Nat) (circuit : κ)
    {reply reply' : Reply} (hreached : reply.isUnreachable = reply'.isUnreachable) :
    (breaker.hear recloser now circuit reply).Alike (other.hear recloser now circuit reply') where
  circuit := congrArg (recloser.settle now · circuit) hreached
  calls := congrArg (· + 1) h.calls
  failures := by simp only [BreakerBy.hear, CallAccount.failures_add, h.failures, hreached]
  rejections := by simp only [BreakerBy.hear, CallAccount.rejections_add, h.rejections]

end BreakerBy.Alike

/-- **A sending leaves alike breakers alike**, if the engines agree on whether they can be
reached. -/
theorem Sending.Goes.same {recloser : Recloser κ} {sending : Sending}
    {s after : GuardedBy κ (Recorded σ)} {t after' : GuardedBy κ (Recorded τ)}
    {dispatch dispatch' : Dispatch} (hs : sending.Goes recloser s dispatch after)
    (ht : sending.Goes recloser t dispatch' after') (hclock : s.clock = t.clock)
    (halike : s.breaker.Alike t.breaker) (hagrees : dispatch.Agrees dispatch') :
    dispatch.Same dispatch' ∧ after.clock = after'.clock ∧ after.breaker.Alike after'.breaker := by
  have hinstant : sending.instant s = sending.instant t := by
    rw [Sending.instant, Sending.instant, hclock]
  have hdecided : recloser.pass? (sending.instant s) s.breaker.circuit =
      recloser.pass? (sending.instant t) t.breaker.circuit := by
    rw [halike.circuit, hinstant]
  cases hs with
  | turnedAway hnone hdispatch hbreaker _ hafter =>
    cases ht with
    | turnedAway _ hdispatch' hbreaker' _ hafter' =>
      subst hdispatch hdispatch'
      have hnext := halike.turnAway
      rw [hafter, hafter', hbreaker, hbreaker', hinstant]
      exact ⟨⟨rfl, rfl, hnext.calls, hnext.failures, hnext.rejections⟩, rfl, hnext⟩
    | heard circuit reply hsome => rw [hnone, hsome] at hdecided; cases hdecided
  | heard circuit reply hsome hdispatch hbreaker _ hafter =>
    cases ht with
    | turnedAway hnone => rw [hnone, hsome] at hdecided; cases hdecided
    | heard circuit' reply' hsome' hdispatch' hbreaker' _ hafter' =>
      subst hdispatch hdispatch'
      obtain rfl : circuit = circuit' := Option.some.inj (hsome.symm.trans (hdecided.trans hsome'))
      have hreached := hagrees _ (List.mem_singleton_self _) _ (List.mem_singleton_self _)
      have hnext := halike.hear recloser (sending.instant t) circuit hreached
      have hrejected (r : Reply) : decide (r.outcome = .rejected) = false :=
        decide_eq_false r.outcome_ne_rejected
      rw [hafter, hafter', hbreaker, hbreaker', hinstant]
      refine ⟨⟨rfl, ?_, hnext.calls, hnext.failures, hnext.rejections⟩, rfl, hnext⟩
      exact (hrejected reply).trans (hrejected reply').symm

/-- **Runs side by side**, from alike breakers and the same instant. -/
theorem GuardedBy.same_serve {recloser : Recloser κ} {engine : Engine σ} {other : Engine τ}
    {sendings : List Sending} {s : GuardedBy κ (Recorded σ)} {t : GuardedBy κ (Recorded τ)}
    (hclock : s.clock = t.clock) (halike : s.breaker.Alike t.breaker)
    (hagrees : List.Forall₂ Dispatch.Agrees (serve recloser engine sendings s).1
      (serve recloser other sendings t).1) :
    List.Forall₂ Dispatch.Same (serve recloser engine sendings s).1
      (serve recloser other sendings t).1 := by
  induction sendings generalizing s t with
  | nil => exact .nil
  | cons sending rest ih =>
    rw [serve_cons, serve_cons] at hagrees ⊢
    obtain ⟨hfirst, hrest⟩ := List.forall₂_cons.1 hagrees
    obtain ⟨hsame, hclock, halike⟩ := (goes_dispatch recloser engine sending s).same
      (goes_dispatch recloser other sending t) hclock halike hfirst
    exact .cons hsame (ih hclock halike hrest)

/-! ### One run by itself -/

/-- The states in which a recloser is as long as no call has counted as a failure. -/
inductive Recloser.Unfailed (recloser : Recloser κ) : κ → Prop where
  | start : Unfailed recloser recloser.start
  | settle {circuit passed : κ} (now : Nat) (unfailed : Unfailed recloser circuit)
      (pass : recloser.pass? now circuit = some passed) :
      Unfailed recloser (recloser.settle now false passed)

/-- **A recloser trusts** as long as no call has counted as a failure: it lets all calls pass. -/
def Recloser.Trusts (recloser : Recloser κ) : Prop :=
  ∀ circuit, recloser.Unfailed circuit → ∀ now, recloser.pass? now circuit ≠ none

/-- What a dispatch tells of its sending: the engine heard it, and nothing but it, and the sender is
told the reply; or it was turned away, nobody heard it, and the sender is told that the circuit is
open. -/
def Sending.ToldBy (sending : Sending) (dispatch : Dispatch) : Prop :=
  if dispatch.isRejected then
    dispatch.reached = [] ∧ dispatch.reply = .error (.unreachable circuitOpen)
  else dispatch.reached = [(sending.statement, dispatch.reply)]

/-- **The accounts of a guard**: each call is on one of them, or the engine refused it. -/
def GuardedBy.IsAccounted (s : GuardedBy κ (Recorded σ)) : Prop :=
  s.breaker.account.calls = s.breaker.account.successes + s.breaker.account.failures +
    s.breaker.account.rejections + s.world.exchanges.countP fun exchange => exchange.2.isRefusal

/-- **A guard that has turned nothing away**, nor has a reason to. -/
structure GuardedBy.IsTrusting (recloser : Recloser κ) (s : GuardedBy κ σ) : Prop where
  unfailed : recloser.Unfailed s.breaker.circuit
  rejections : s.breaker.account.rejections = 0

namespace Sending.Goes

variable {recloser : Recloser κ} {sending : Sending} {s after : GuardedBy κ (Recorded σ)}
  {dispatch : Dispatch}

/-- The record grows by what the engine hears. -/
theorem exchanges_eq (h : sending.Goes recloser s dispatch after) :
    after.world.exchanges = s.world.exchanges ++ dispatch.reached := by
  cases h with
  | turnedAway _ hdispatch _ hexchanges => rw [hdispatch, hexchanges, List.append_nil]
  | heard circuit reply _ hdispatch _ hexchanges => rw [hdispatch, hexchanges]

theorem toldBy (h : sending.Goes recloser s dispatch after) : sending.ToldBy dispatch := by
  cases h with
  | turnedAway _ hdispatch =>
    subst hdispatch
    exact ⟨rfl, rfl⟩
  | heard circuit reply _ hdispatch =>
    subst hdispatch
    have hrejected := decide_eq_false reply.outcome_ne_rejected
    rw [ToldBy, Dispatch.isRejected, CallAccount.last_add, hrejected]
    rfl

theorem isAccounted (h : sending.Goes recloser s dispatch after) (hs : s.IsAccounted) :
    after.IsAccounted := by
  rw [GuardedBy.IsAccounted] at hs ⊢
  cases h with
  | turnedAway _ _ hbreaker hexchanges =>
    rw [hbreaker, hexchanges]
    simp only [BreakerBy.turnAway, CallAccount.add, if_true, reduceCtorEq, if_false]
    omega
  | heard circuit reply _ _ hbreaker hexchanges =>
    have haccounts := s.breaker.account.successes_add reply
    rw [hbreaker, hexchanges, List.countP_append, List.countP_singleton]
    simp only [BreakerBy.hear, CallAccount.calls_add, CallAccount.rejections_add]
    omega

/-- As long as the engine can be reached, nothing is turned away. -/
theorem isTrusting (h : sending.Goes recloser s dispatch after) (htrusts : recloser.Trusts)
    (hs : s.IsTrusting recloser)
    (hreached : ∀ exchange ∈ dispatch.reached, exchange.2.isUnreachable = false) :
    dispatch.isRejected = false ∧ after.IsTrusting recloser := by
  cases h with
  | turnedAway hnone => exact absurd hnone (htrusts _ hs.unfailed _)
  | heard circuit reply hsome hdispatch hbreaker =>
    subst hdispatch
    have hreply : reply.isUnreachable = false := hreached _ (List.mem_singleton_self _)
    refine ⟨decide_eq_false reply.outcome_ne_rejected, ?_, ?_⟩
    · rw [hbreaker, BreakerBy.hear, hreply]
      exact hs.unfailed.settle _ hsome
    · rw [hbreaker, BreakerBy.hear, CallAccount.rejections_add, hs.rejections]

end Sending.Goes

namespace GuardedBy

variable (recloser : Recloser κ) (engine : Engine σ) (sendings : List Sending)

theorem toldBy_serve (s : GuardedBy κ (Recorded σ)) :
    List.Forall₂ Sending.ToldBy sendings (serve recloser engine sendings s).1 := by
  induction sendings generalizing s with
  | nil => exact .nil
  | cons sending rest ih =>
    rw [serve_cons]
    exact .cons (goes_dispatch recloser engine sending s).toldBy (ih _)

theorem exchanges_serve (s : GuardedBy κ (Recorded σ)) :
    (serve recloser engine sendings s).2.world.exchanges =
      s.world.exchanges ++ (serve recloser engine sendings s).1.flatMap Dispatch.reached := by
  induction sendings generalizing s with
  | nil => rw [serve_nil, List.flatMap_nil, List.append_nil]
  | cons sending rest ih =>
    rw [serve_cons, ih, (goes_dispatch recloser engine sending s).exchanges_eq, List.flatMap_cons,
      List.append_assoc]

theorem isAccounted_serve {s : GuardedBy κ (Recorded σ)} (hs : s.IsAccounted) :
    (serve recloser engine sendings s).2.IsAccounted := by
  induction sendings generalizing s with
  | nil => exact hs
  | cons sending rest ih =>
    rw [serve_cons]
    exact ih ((goes_dispatch recloser engine sending s).isAccounted hs)

/-- A guard goes on trusting an engine that can always be reached. -/
theorem isTrusting_serve (htrusts : recloser.Trusts) {s : GuardedBy κ (Recorded σ)}
    (hs : s.IsTrusting recloser)
    (hreached : ∀ dispatch ∈ (serve recloser engine sendings s).1,
      ∀ exchange ∈ dispatch.reached, exchange.2.isUnreachable = false) :
    (∀ dispatch ∈ (serve recloser engine sendings s).1, dispatch.isRejected = false) ∧
      (serve recloser engine sendings s).2.IsTrusting recloser := by
  induction sendings generalizing s with
  | nil => exact ⟨nofun, hs⟩
  | cons sending rest ih =>
    rw [serve_cons] at hreached ⊢
    obtain ⟨hfirst, hrest⟩ := List.forall_mem_cons.1 hreached
    obtain ⟨hpassed, hs⟩ :=
      (goes_dispatch recloser engine sending s).isTrusting htrusts hs hfirst
    obtain ⟨hothers, hlast⟩ := ih hs hrest
    exact ⟨List.forall_mem_cons.2 ⟨hpassed, hothers⟩, hlast⟩

/-- **What holds of a run by itself**: each sender is told what became of the statement, the accounts
are kept, and nothing is turned away unless the engine once could not be reached. -/
structure KeepsBooks (sendings : List Sending)
    (outcome : List Dispatch × GuardedBy κ (Recorded σ)) : Prop where
  told : List.Forall₂ Sending.ToldBy sendings outcome.1
  accounted : outcome.2.IsAccounted
  trusting : (∀ exchange ∈ outcome.2.world.exchanges, exchange.2.isUnreachable = false) →
    (∀ dispatch ∈ outcome.1, dispatch.isRejected = false) ∧
      outcome.2.breaker.account.rejections = 0

/-- A run of a new breaker keeps its books. -/
theorem keepsBooks_serve (htrusts : recloser.Trusts) (health : Health) (clock : Nat) (world : σ) :
    KeepsBooks sendings
      (serve recloser engine sendings (.opened recloser health clock world)) where
  told := toldBy_serve recloser engine sendings _
  accounted := isAccounted_serve recloser engine sendings rfl
  trusting h := by
    have hopened : (opened recloser health clock world).IsTrusting recloser := ⟨.start, rfl⟩
    rw [exchanges_serve] at h
    obtain ⟨hpassed, hlast⟩ := isTrusting_serve recloser engine sendings htrusts hopened
      fun dispatch hdispatch exchange hexchange =>
        h exchange (List.mem_append_right _ (List.mem_flatMap.2 ⟨dispatch, hdispatch, hexchange⟩))
    exact ⟨hpassed, hlast.rejections⟩

end GuardedBy

/-! ### The fitted circuit -/

/-- **The circuit trusts** an engine that never failed: it is closed, with no failure on record. -/
theorem Circuit.trusts_recloser (policy : CircuitPolicy) : (recloser policy).Trusts := by
  have hclosed : ∀ circuit, (recloser policy).Unfailed circuit →
      ∃ ring, circuit = .closed ring ∧ 1 ≤ ring.length ∧ ring.failures = 0 := by
    intro circuit hunfailed
    induction hunfailed with
    | start => exact ⟨.ofLength policy.failureThreshold, rfl, Nat.le_max_right _ _, rfl⟩
    | settle now _ hpass ih =>
      obtain ⟨ring, rfl, hlength, hfailures⟩ := ih
      obtain rfl := Option.some.inj hpass
      exact ⟨ring.record false, settle_closed policy now hlength hfailures, hlength,
        OutcomeRing.failures_record hfailures⟩
  intro circuit hunfailed now
  obtain ⟨ring, rfl, -⟩ := hclosed circuit hunfailed
  exact Option.some_ne_none _

/-- A call through a breaker is one over its circuit. -/
theorem Breaker.call_byCircuit (now : Nat) (operation : StateM σ Reply) (breaker : Breaker) (s : σ) :
    ∃ result after world,
      Breaker.call now EngineFault.isUnreachable operation (breaker, s) = (result, after, world) ∧
        BreakerBy.call (Circuit.recloser breaker.policy) now EngineFault.isUnreachable operation
          (breaker.byCircuit, s) = (result, after.byCircuit, world) ∧
        after.policy = breaker.policy := by
  cases hdecided : breaker.circuit.admit? breaker.policy now with
  | none =>
    have hpass : (Circuit.recloser breaker.policy).pass? now breaker.byCircuit.circuit = none :=
      hdecided
    rw [call_of_none hdecided, BreakerBy.call_of_none hpass]
    exact ⟨_, _, _, rfl, rfl, rfl⟩
  | some circuit =>
    have hpass : (Circuit.recloser breaker.policy).pass? now breaker.byCircuit.circuit =
        some circuit := hdecided
    rw [call_of_some hdecided, BreakerBy.call_of_some hpass]
    refine ⟨_, _, _, rfl, ?_, rfl⟩
    rcases (operation s).1 with fault | answer
    · cases fault <;> rfl
    · rfl

/-- **A statement through the guard** is one through the guard over its circuit. -/
theorem Guarded.execute_byCircuit (engine : Engine σ) (statement : String) (s : Guarded σ) :
    GuardedBy.execute (Circuit.recloser s.guard.breaker.policy) engine statement s.byCircuit =
        ((Guard.execute engine statement s).1, (Guard.execute engine statement s).2.byCircuit) ∧
      (Guard.execute engine statement s).2.guard.breaker.policy = s.guard.breaker.policy := by
  obtain ⟨result, after, world, hcall, hby, hpolicy⟩ :=
    s.guard.breaker.call_byCircuit (s.clock + 1) (engine.execute statement) s.world
  have hguard : Guard.execute engine statement s = (Guard.report result,
      ⟨⟨after, Guard.note (s.clock + 1) s.guard.health result⟩, world, s.clock + 1⟩) := by
    rw [Guard.execute, hcall]
  have hguardBy : GuardedBy.execute (Circuit.recloser s.guard.breaker.policy) engine statement
      s.byCircuit = (Guard.report result, ⟨after.byCircuit,
        Guard.note (s.clock + 1) s.guard.health result, world, s.clock + 1⟩) := by
    simp only [GuardedBy.execute, byCircuit, hby]
  rw [hguard, hguardBy]
  exact ⟨rfl, hpolicy⟩

/-- **Refused statements trip nothing.** Two engines behind new breakers over one recloser are sent the
same statements at the same instants. If they agree on whether they can be reached, whatever else
they reply, then they hear the same, the same sendings are turned away, and the accounts of calls,
failures and rejections stand alike after each; and each run keeps its books. -/
theorem GuardedBy.same_serve_opened (recloser : Recloser κ) (htrusts : recloser.Trusts)
    (clock : Nat) (sendings : List Sending) (engine : Engine σ) (health : Health) (world : σ)
    (other : Engine τ) (health' : Health) (world' : τ) :
    (List.Forall₂ Dispatch.Agrees
        (serve recloser engine sendings (.opened recloser health clock world)).1
        (serve recloser other sendings (.opened recloser health' clock world')).1 →
      List.Forall₂ Dispatch.Same
        (serve recloser engine sendings (.opened recloser health clock world)).1
        (serve recloser other sendings (.opened recloser health' clock world')).1) ∧
      KeepsBooks sendings (serve recloser engine sendings (.opened recloser health clock world)) ∧
      KeepsBooks sendings
        (serve recloser other sendings (.opened recloser health' clock world')) := by
  refine ⟨fun hagrees => same_serve rfl ⟨rfl, rfl, rfl, rfl⟩ hagrees, ?_, ?_⟩
  · exact keepsBooks_serve recloser engine sendings htrusts health clock world
  · exact keepsBooks_serve recloser other sendings htrusts health' clock world'

/-- An engine that cannot be reached with one statement, and replies to all others alike. -/
def faltering (reply : Reply) : Engine Unit :=
  .ofFunction fun statement =>
    if statement = "SELECT 0" then .error (.unreachable "refused") else reply

/-- Nine statements, of which that one is sent twice, and a long pause after the fifth. -/
def busyHour : List Sending :=
  [⟨1, "SELECT 1"⟩, ⟨1, "SELECT 0"⟩, ⟨1, "SELECT 0"⟩, ⟨1, "SELECT 1"⟩, ⟨2, "SELECT 1"⟩,
    ⟨1000, "SELECT 1"⟩, ⟨1, "SELECT 1"⟩, ⟨1, "SELECT 1"⟩, ⟨1, "SELECT 1"⟩]

/-- The nine statements at such an engine. -/
def busyHourAt (reply : Reply) : List Dispatch × GuardedBy Circuit (Recorded Unit) :=
  GuardedBy.serve (Circuit.recloser ⟨2, 1, 100⟩) (faltering reply) busyHour
    (.opened (Circuit.recloser ⟨2, 1, 100⟩) (.start 10) 0 ())

/-- An engine that refuses all other statements, beside one that answers them. -/
theorem GuardedBy.same_serve_busyHour :
    (Circuit.recloser ⟨2, 1, 100⟩).Trusts ∧
      List.Forall₂ Dispatch.Agrees (busyHourAt (.error (.refused "unknown column"))).1
        (busyHourAt (.ok .empty)).1 ∧
      List.Forall₂ Dispatch.Same (busyHourAt (.error (.refused "unknown column"))).1
        (busyHourAt (.ok .empty)).1 ∧
      (busyHourAt (.ok .empty)).1.map Dispatch.isRejected =
        [false, false, false, true, true, false, false, false, false] := by
  have hagrees : List.Forall₂ Dispatch.Agrees
      (busyHourAt (.error (.refused "unknown column"))).1 (busyHourAt (.ok .empty)).1 := by
    decide +kernel
  have hsame := same_serve_opened (Circuit.recloser ⟨2, 1, 100⟩) (Circuit.trusts_recloser _) 0
    busyHour (faltering (.error (.refused "unknown column"))) (.start 10) ()
    (faltering (.ok .empty)) (.start 10) ()
  exact ⟨Circuit.trusts_recloser _, hagrees, hsame.1 hagrees, by decide +kernel⟩

end Storefront
