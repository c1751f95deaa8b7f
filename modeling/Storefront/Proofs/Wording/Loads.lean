import Mathlib.Data.List.Induction
import Mathlib.Tactic.SplitIfs
import Storefront.Wording.Thesaurus

/-!
# What a thesaurus has of its source

A thesaurus answers every look-up, whether its source can be loaded from or not, and it loads as
seldom as it may. What it answers and whether it loads is a matter of its *history* – the loads that
it made since it was last invalidated – and of nothing else:

| the last load since the invalidation | a look-up loads | and answers |
|---|---|---|
| none | yes | the groups loaded, if this succeeds, else no synonyms |
| lasts still | no | the groups of the last load that succeeded, else no synonyms |
| is over | yes | the groups loaded, if this succeeds, else those of the last load that did |

A load that succeeds lasts for the time to live, and one that fails for the time after which it is
tried again, if that is shorter. The thesaurus keeps neither loads nor groups, but a map with an
instant and a lifetime; the induction over calls is carried by saying what these are for a history
(`Thesaurus.kept`).

Main statement: so it is with every sequence of calls (`Thesaurus.followsLoads_log`), and in
particular a thesaurus with no time to live loads for each look-up, while one for which nothing is
over loads once at most from one invalidation to the next.
-/

namespace Storefront

/-! ### Loads -/

/-- A load at an instant, with what the source delivers then. -/
structure Load where
  instant : Nat
  delivery : Except OriginFault (List SynonymGroup)

namespace Load

/-- The groups that are delivered, unless the load fails. -/
def groups? (load : Load) : Option (List SynonymGroup) :=
  load.delivery.toOption

/-- For how long what a load leaves may be used. -/
def lifetime (ttl : Nat) (load : Load) : Nat :=
  if load.groups?.isSome then ttl else min ttl Thesaurus.retryAfter

/-- **A load lasts** up to the end of its lifetime. -/
def Lasts (ttl now : Nat) (load : Load) : Prop :=
  now - load.instant < load.lifetime ttl

instance (ttl now : Nat) (load : Load) : Decidable (load.Lasts ttl now) :=
  inferInstanceAs (Decidable (_ < _))

/-- The source as it is at the instant of the load, with an account of its loads. -/
def source (load : Load) : SynonymSource (List Load) where
  load := fun loads => (⟨load.delivery, false⟩, loads ++ [load])

end Load

/-- The map of the groups that were delivered last, without any if no load delivered some. -/
def mapOfLoads (loads : List Load) : SynonymMap :=
  match (loads.filterMap Load.groups?).getLast? with
  | some groups => .ofGroups groups
  | none => ∅

theorem mapOfLoads_concat (loads : List Load) (load : Load) :
    mapOfLoads (loads ++ [load]) =
      match load.groups? with
      | some groups => .ofGroups groups
      | none => mapOfLoads loads := by
  rw [mapOfLoads, List.filterMap_append]
  cases hgroups : load.groups? with
  | none => rw [List.filterMap_cons_none hgroups, List.filterMap_nil, List.append_nil, mapOfLoads]
  | some groups => rw [List.filterMap_cons_some hgroups, List.filterMap_nil, List.getLast?_concat]

namespace Thesaurus

/-! ### Calls -/

/-- What is asked of a thesaurus. -/
inductive Call where
  /-- To look up, at the instant of a load and with what that load would deliver. -/
  | lookUp (load : Load)
  | invalidate

/-- What is seen of a call. -/
structure Entry where
  call : Call
  /-- The loads that were made for it. -/
  loads : List Load
  /-- The map that a look-up is answered with. -/
  answer : Option SynonymMap
  /-- The number of rebuilds that is told afterwards. -/
  rebuilds : Nat

/-- A call, with what is seen of it. -/
def serve (call : Call) (thesaurus : Thesaurus) : Entry × Thesaurus :=
  match call with
  | .lookUp load =>
    let (found, after, loads) := get load.instant load.source (thesaurus, [])
    (⟨.lookUp load, loads, some found.map, after.rebuilds⟩, after)
  | .invalidate => (⟨.invalidate, [], none, thesaurus.invalidate.rebuilds⟩, thesaurus.invalidate)

/-- **What is seen of several calls**, one after another. -/
def log : List Call → Thesaurus → List Entry
  | [], _ => []
  | call :: calls, thesaurus =>
    let (entry, after) := thesaurus.serve call
    entry :: log calls after

/-- An invalidation. -/
def Entry.drops (entry : Entry) : Bool :=
  match entry.call with
  | .lookUp _ => false
  | .invalidate => true

/-- **The loads since the last invalidation**, the oldest first. -/
def loadsSince (past : List Entry) : List Load :=
  (past.reverse.takeWhile fun entry => !entry.drops).reverse.flatMap Entry.loads

theorem loadsSince_concat (past : List Entry) (entry : Entry) :
    loadsSince (past ++ [entry]) = if entry.drops then [] else loadsSince past ++ entry.loads := by
  rw [loadsSince, List.reverse_concat]
  split_ifs with hdrops
  · rw [List.takeWhile_cons_of_neg (by simp [hdrops])]
    rfl
  · rw [List.takeWhile_cons_of_pos (by simp [hdrops]), List.reverse_cons, List.flatMap_append,
      List.flatMap_singleton, loadsSince]

/-- Without an invalidation loads are only added. -/
theorem loadsSince_append (past segment : List Entry) (h : ∀ entry ∈ segment, entry.drops = false) :
    loadsSince (past ++ segment) = loadsSince past ++ segment.flatMap Entry.loads := by
  induction segment generalizing past with
  | nil => rw [List.append_nil, List.flatMap_nil, List.append_nil]
  | cons entry segment ih =>
    obtain ⟨hentry, hsegment⟩ := List.forall_mem_cons.1 h
    rw [List.append_cons, ih _ hsegment, loadsSince_concat, hentry, if_neg Bool.false_ne_true,
      List.flatMap_cons, List.append_assoc]

/-! ### A thesaurus and its history -/

/-- How many loads of a history have succeeded. -/
def successes (past : List Entry) : Nat :=
  (past.flatMap Entry.loads).countP fun load => load.groups?.isSome

theorem successes_concat (past : List Entry) (entry : Entry) :
    successes (past ++ [entry]) =
      successes past + entry.loads.countP fun load => load.groups?.isSome := by
  rw [successes, List.flatMap_append, List.flatMap_singleton, List.countP_append, successes]

/-- **The thesaurus after a history**: its map is that of the loads since the last invalidation, as
of the last of them and for its lifetime. -/
def kept (ttl : Nat) (past : List Entry) : Thesaurus where
  ttl := ttl
  snapshot := (loadsSince past).getLast?.map fun load =>
    ⟨mapOfLoads (loadsSince past), load.instant, load.lifetime ttl⟩
  rebuilds := successes past

/-- **What an entry shows**, given the entries before it: which loads were made for it, what it was
answered with, and what was told of rebuilds. -/
structure Entry.Follows (ttl : Nat) (past : List Entry) (entry : Entry) : Prop where
  loads_eq : ∀ load, entry.call = .lookUp load →
    entry.loads = if ∃ last ∈ (loadsSince past).getLast?, last.Lasts ttl load.instant then []
      else [load]
  loads_invalidate : entry.call = .invalidate → entry.loads = []
  answer_eq : ∀ load, entry.call = .lookUp load →
    entry.answer = some (mapOfLoads (loadsSince (past ++ [entry])))
  rebuilds_eq : entry.rebuilds = successes (past ++ [entry])

section Step

variable (ttl : Nat) (past : List Entry)

theorem lastMap_kept : (kept ttl past).lastMap = mapOfLoads (loadsSince past) := by
  rw [lastMap, kept]
  cases hlast : (loadsSince past).getLast? with
  | none =>
    rw [List.getLast?_eq_none_iff] at hlast
    rw [hlast]
    rfl
  | some load => rfl

theorem fresh?_kept (now : Nat) :
    (kept ttl past).fresh? now =
      if ∃ last ∈ (loadsSince past).getLast?, last.Lasts ttl now then
        some (mapOfLoads (loadsSince past))
      else none := by
  rw [fresh?, kept]
  cases (loadsSince past).getLast? with
  | none => simp
  | some load => simp [Load.Lasts]

/-- **A load is settled** by what it delivers, and otherwise leaves the map that was there. -/
theorem settle_kept (load : Load) :
    (kept ttl past).settle load.instant ⟨load.delivery, false⟩ =
      (mapOfLoads (loadsSince past ++ [load]),
        { ttl := ttl
          snapshot := some ⟨mapOfLoads (loadsSince past ++ [load]), load.instant, load.lifetime ttl⟩
          rebuilds := successes past + if load.groups?.isSome then 1 else 0 }) := by
  rw [mapOfLoads_concat]
  obtain ⟨instant, delivery⟩ := load
  cases delivery with
  | ok groups => rfl
  | error fault =>
    change (let map := (kept ttl past).lastMap; (map, (kept ttl past).install _ map _)) = _
    rw [lastMap_kept]
    rfl

/-- A look-up while the last load lasts adds no load to the history. -/
theorem serve_lookUp_of_lasts (load : Load)
    (h : ∃ last ∈ (loadsSince past).getLast?, last.Lasts ttl load.instant) :
    ∃ entry : Entry, entry.call = .lookUp load ∧ entry.Follows ttl past ∧
      (kept ttl past).serve (.lookUp load) = (entry, kept ttl (past ++ [entry])) := by
  let entry : Entry := ⟨.lookUp load, [], some (mapOfLoads (loadsSince past)), successes past⟩
  have hsince : loadsSince (past ++ [entry]) = loadsSince past := by
    rw [loadsSince_concat]
    exact List.append_nil _
  have hsuccesses : successes (past ++ [entry]) = successes past := by
    rw [successes_concat]
    rfl
  have hkept : kept ttl (past ++ [entry]) = kept ttl past := by
    simp only [kept, hsince, hsuccesses]
  refine ⟨entry, rfl, ⟨?_, nofun, ?_, hsuccesses.symm⟩, ?_⟩
  · intro asked hasked
    obtain rfl : load = asked := Call.lookUp.inj hasked
    rw [if_pos h]
  · intro asked _
    rw [hsince]
  · have hfresh := fresh?_kept ttl past load.instant
    rw [if_pos h] at hfresh
    rw [hkept]
    simp only [serve, get, hfresh]
    rfl

/-- A look-up after the last load is over adds its own load to the history. -/
theorem serve_lookUp_of_over (load : Load)
    (h : ¬ ∃ last ∈ (loadsSince past).getLast?, last.Lasts ttl load.instant) :
    ∃ entry : Entry, entry.call = .lookUp load ∧ entry.Follows ttl past ∧
      (kept ttl past).serve (.lookUp load) = (entry, kept ttl (past ++ [entry])) := by
  let entry : Entry := ⟨.lookUp load, [load], some (mapOfLoads (loadsSince past ++ [load])),
    successes past + if load.groups?.isSome then 1 else 0⟩
  have hsince : loadsSince (past ++ [entry]) = loadsSince past ++ [load] := loadsSince_concat ..
  have hsuccesses : successes (past ++ [entry]) =
      successes past + if load.groups?.isSome then 1 else 0 := by
    rw [successes_concat, List.countP_singleton]
  have hkept : kept ttl (past ++ [entry]) =
      ⟨ttl, some ⟨mapOfLoads (loadsSince past ++ [load]), load.instant, load.lifetime ttl⟩,
        successes past + if load.groups?.isSome then 1 else 0⟩ := by
    simp only [kept, hsince, hsuccesses, List.getLast?_concat, Option.map_some]
  refine ⟨entry, rfl, ⟨?_, nofun, ?_, hsuccesses.symm⟩, ?_⟩
  · intro asked hasked
    obtain rfl : load = asked := Call.lookUp.inj hasked
    rw [if_neg h]
  · intro asked _
    rw [hsince]
  · have hfresh := fresh?_kept ttl past load.instant
    rw [if_neg h] at hfresh
    rw [hkept]
    simp only [serve, get, hfresh, Load.source, settle_kept]
    rfl

/-- An invalidation drops the loads from the history. -/
theorem serve_invalidate :
    ∃ entry : Entry, entry.call = .invalidate ∧ entry.Follows ttl past ∧
      (kept ttl past).serve .invalidate = (entry, kept ttl (past ++ [entry])) := by
  let entry : Entry := ⟨.invalidate, [], none, successes past⟩
  have hsince : loadsSince (past ++ [entry]) = [] := loadsSince_concat ..
  have hsuccesses : successes (past ++ [entry]) = successes past := successes_concat ..
  have hkept : kept ttl (past ++ [entry]) = (kept ttl past).invalidate := by
    simp only [kept, hsince, hsuccesses]
    rfl
  refine ⟨entry, rfl, ⟨nofun, fun _ => rfl, nofun, hsuccesses.symm⟩, ?_⟩
  rw [hkept]
  rfl

/-- **One call**: what is seen of it follows from the history, and the thesaurus after it is the one
of the history with the call. -/
theorem serve_kept (call : Call) :
    ∃ entry : Entry, entry.call = call ∧ entry.Follows ttl past ∧
      (kept ttl past).serve call = (entry, kept ttl (past ++ [entry])) := by
  cases call with
  | lookUp load =>
    by_cases h : ∃ last ∈ (loadsSince past).getLast?, last.Lasts ttl load.instant
    · exact serve_lookUp_of_lasts ttl past load h
    · exact serve_lookUp_of_over ttl past load h
  | invalidate => exact serve_invalidate ttl past

end Step

/-! ### Runs -/

/-- Every call is seen, in order. -/
theorem map_call_log (ttl : Nat) (past : List Entry) (calls : List Call) :
    (log calls (kept ttl past)).map Entry.call = calls := by
  induction calls generalizing past with
  | nil => rfl
  | cons call calls ih =>
    obtain ⟨entry, hcall, -, hserve⟩ := serve_kept ttl past call
    rw [log, hserve, List.map_cons, hcall, ih]

/-- **Several calls**: each is seen as the history and the calls before it have it. -/
theorem follows_of_log_eq {ttl : Nat} (past : List Entry) {before after : List Entry}
    {calls : List Call} {entry : Entry} (h : log calls (kept ttl past) = before ++ entry :: after) :
    entry.Follows ttl (past ++ before) := by
  induction calls generalizing past before with
  | nil => cases before <;> cases h
  | cons call calls ih =>
    obtain ⟨first, -, hfollows, hserve⟩ := serve_kept ttl past call
    rw [log, hserve] at h
    cases before with
    | nil =>
      obtain ⟨rfl, -⟩ := List.cons.inj h
      rwa [List.append_nil]
    | cons head before =>
      obtain ⟨rfl, hrest⟩ := List.cons.inj h
      rw [List.append_cons]
      exact ih _ hrest

/-- Nothing lasts without a time to live. -/
theorem not_lasts_zero (now : Nat) (load : Load) : ¬ load.Lasts 0 now := by
  rw [Load.Lasts, Load.lifetime, Nat.zero_min, ite_self]
  exact Nat.not_lt_zero _

/-- **Nothing is over** in a part of a log: each load made in it lasts at every later look-up. -/
def NothingOver (ttl : Nat) (segment : List Entry) : Prop :=
  segment.Pairwise fun first second =>
    ∀ load ∈ first.loads, ∀ asked, second.call = .lookUp asked → load.Lasts ttl asked.instant

/-- At most one load is made for a call. -/
theorem Entry.Follows.length_loads_le {ttl : Nat} {past : List Entry} {entry : Entry}
    (h : entry.Follows ttl past) : entry.loads.length ≤ 1 := by
  cases hcall : entry.call with
  | lookUp load =>
    rw [h.loads_eq load hcall]
    split_ifs
    · exact Nat.zero_le 1
    · exact Nat.le_refl 1
  | invalidate =>
    rw [h.loads_invalidate hcall]
    exact Nat.zero_le 1

/-- No load is made while the last one lasts. -/
theorem Entry.Follows.loads_eq_nil {ttl : Nat} {past : List Entry} {entry : Entry} {last : Load}
    (h : entry.Follows ttl past) (hlast : (loadsSince past).getLast? = some last)
    (hlasts : ∀ asked, entry.call = .lookUp asked → last.Lasts ttl asked.instant) :
    entry.loads = [] := by
  cases hcall : entry.call with
  | lookUp load => rw [h.loads_eq load hcall, if_pos ⟨last, hlast, hlasts load hcall⟩]
  | invalidate => exact h.loads_invalidate hcall

/-- **One load at most** where nothing is invalidated and nothing is over, whether it succeeds or
fails. The induction is on the end of the part: the one load that it may have had by then is the
last since the invalidation. -/
theorem length_loads_le_one {ttl : Nat} (past : List Entry) {segment : List Entry}
    (hfollows : ∀ before entry after, segment = before ++ entry :: after →
      entry.Follows ttl (past ++ before))
    (hdrops : ∀ entry ∈ segment, entry.drops = false) (hover : NothingOver ttl segment) :
    (segment.flatMap Entry.loads).length ≤ 1 := by
  induction segment using List.reverseRecOn with
  | nil => exact Nat.zero_le 1
  | append_singleton segment entry ih =>
    have hentry : entry.Follows ttl (past ++ segment) := hfollows segment entry [] rfl
    obtain ⟨hbefore, -, hlasts⟩ := List.pairwise_append.1 hover
    have hkeeps : ∀ other ∈ segment, other.drops = false := fun other hmem =>
      hdrops other (List.mem_append_left _ hmem)
    have hle : (segment.flatMap Entry.loads).length ≤ 1 := by
      refine ih (fun before other after hsplit => ?_) hkeeps hbefore
      exact hfollows before other (after ++ [entry]) (by rw [hsplit]; simp)
    have hsince := loadsSince_append past segment hkeeps
    rw [List.flatMap_append, List.flatMap_singleton]
    cases hloads : segment.flatMap Entry.loads with
    | nil => exact hentry.length_loads_le
    | cons last more =>
      obtain rfl : more = [] := by
        rw [hloads, List.length_cons] at hle
        exact List.eq_nil_of_length_eq_zero (by omega)
      have hlast : (loadsSince (past ++ segment)).getLast? = some last := by
        rw [hsince, hloads, List.getLast?_concat]
      obtain ⟨maker, hmaker, hmem⟩ : ∃ maker ∈ segment, last ∈ maker.loads := by
        rw [← List.mem_flatMap, hloads]
        exact List.mem_singleton_self last
      rw [hentry.loads_eq_nil hlast fun asked hasked =>
        hlasts maker hmaker entry (List.mem_singleton_self entry) last hmem asked hasked]
      exact Nat.le_refl 1

/-- **What the log of calls shows** of a thesaurus that has not been loaded before. -/
structure FollowsLoads (ttl : Nat) (calls : List Call) (log : List Entry) : Prop where
  /-- All calls are seen, in order. -/
  calls_eq : log.map Entry.call = calls
  /-- Each is seen as the calls before it have it. -/
  follows : ∀ past entry later, log = past ++ entry :: later → entry.Follows ttl past
  /-- Without a time to live there is one load for each look-up. -/
  loads_of_zero : ttl = 0 → ∀ entry ∈ log, ∀ load, entry.call = .lookUp load → entry.loads = [load]
  /-- While nothing is over there is one load at most from one invalidation to the next. -/
  loads_le_one : ∀ past segment later, log = past ++ (segment ++ later) →
    (∀ entry ∈ segment, entry.drops = false) → NothingOver ttl segment →
      (segment.flatMap Entry.loads).length ≤ 1

/-- **A thesaurus answers from its history**: whatever is asked of it and whatever its source
delivers at any instant, the loads since the last invalidation decide whether it loads and what it
answers. -/
theorem followsLoads_log (ttl : Nat) (calls : List Call) :
    FollowsLoads ttl calls (log calls (ofTtl ttl)) := by
  have hfollows : ∀ past entry later, log calls (ofTtl ttl) = past ++ entry :: later →
      entry.Follows ttl past := fun past entry later h => follows_of_log_eq [] h
  refine ⟨map_call_log ttl [] calls, hfollows, ?_, ?_⟩
  · rintro rfl entry hmem load hcall
    obtain ⟨past, later, hsplit⟩ := List.append_of_mem hmem
    rw [(hfollows past entry later hsplit).loads_eq load hcall, if_neg]
    rintro ⟨last, -, hlasts⟩
    exact not_lasts_zero load.instant last hlasts
  · intro past segment later hsplit hdrops hover
    refine length_loads_le_one past (fun before entry after hsegment => ?_) hdrops hover
    refine hfollows (past ++ before) entry (after ++ later) ?_
    rw [hsplit, hsegment]
    simp only [List.append_assoc, List.cons_append]

/-- With a time to live of five the first load is good for the second look-up, and the failed one
for the fourth. The invalidation ends this. -/
example : (log [.lookUp ⟨0, .ok []⟩, .lookUp ⟨4, .ok []⟩, .lookUp ⟨5, .error .notConfigured⟩,
      .lookUp ⟨6, .ok []⟩, .invalidate, .lookUp ⟨7, .ok []⟩] (ofTtl 5)).map
    (fun entry => (entry.loads.length, entry.rebuilds)) =
      [(1, 1), (0, 1), (1, 1), (0, 1), (0, 1), (1, 2)] := rfl

end Thesaurus

end Storefront
