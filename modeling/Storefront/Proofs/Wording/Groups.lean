import Mathlib.Data.Finset.Card
import Mathlib.Data.List.Forall2
import Mathlib.Tactic.SplitIfs
import Storefront.Proofs.Map.Entries
import Storefront.Proofs.Wording.LowerCase
import Storefront.Wording.Synonyms

/-!
# What a list of groups relates

A map of synonyms is made by three loops: over the groups, over the members of a group and, for each
of them, over the members once more. What it answers in the end is a relation that has none of these
loops in it: two terms stand for each other when they are different and some group has both
(`SynonymMap.Relates`, `SynonymMap.relates_ofGroups`).

Each loop has its exact statement, about whatever map it starts from, so a group that shares a term
with an earlier one, or has a member twice, is no case of its own:

| after reading | what stands for `a` besides what did | theorem |
|---|---|---|
| the others, for a member `a` | the others but `a` | `mem_addOthers_iff` |
| some members, `a` among them | the members of the group but `a` | `mem_known_foldl_addMember` |
| a group that has `a` | its members but `a` | `mem_known_addGroup` |
| some groups | the members but `a` of those that have `a` | `mem_known_foldl_addGroup` |

Nothing on the right depends on an order, and so the map answers the same when the groups, or the
terms of a group, are written in another one (`SynonymMap.Rearranged`).
-/

namespace Storefront

open Text

/-! ### Groups in another order -/

/-- A member of a group is in lower case. -/
theorem SynonymGroup.lowercase_of_mem_members {group : SynonymGroup} {term : String}
    (h : term ∈ group.members) : lowercase term = term := by
  rw [members, List.mem_filter] at h
  obtain ⟨written, -, rfl⟩ := List.mem_map.1 h.1
  exact lowercase_lowercase (trim written)

/-- The group with its terms in another order; any of them may be written first. -/
def SynonymGroup.IsReordered (group other : SynonymGroup) : Prop :=
  (group.term :: group.synonyms).Perm (other.term :: other.synonyms)

instance (group other : SynonymGroup) : Decidable (group.IsReordered other) :=
  inferInstanceAs (Decidable (List.Perm _ _))

theorem SynonymGroup.IsReordered.mem_members_iff {group other : SynonymGroup}
    (h : group.IsReordered other) {term : String} :
    term ∈ group.members ↔ term ∈ other.members := by
  simp only [members, List.mem_filter, List.mem_map]
  exact and_congr_left fun _ => exists_congr fun _ => and_congr_left fun _ => List.Perm.mem_iff h

namespace SynonymMap

/-- The groups in another order, each with its terms in another order. -/
def Rearranged (groups others : List SynonymGroup) : Prop :=
  ∃ reordered, List.Forall₂ SynonymGroup.IsReordered groups reordered ∧ reordered.Perm others

/-! ### The relation of a list of groups -/

variable {groups others : List SynonymGroup} {a b : String}

/-- Whether the term is a member of a group. -/
def IsMember (groups : List SynonymGroup) (a : String) : Prop :=
  ∃ group ∈ groups, a ∈ group.members

/-- Whether some group has both terms among its members. -/
def Share (groups : List SynonymGroup) (a b : String) : Prop :=
  ∃ group ∈ groups, a ∈ group.members ∧ b ∈ group.members

theorem IsMember.lowercase_eq (h : IsMember groups a) : lowercase a = a := by
  obtain ⟨group, -, ha⟩ := h
  exact SynonymGroup.lowercase_of_mem_members ha

theorem Share.symm (h : Share groups a b) : Share groups b a := by
  obtain ⟨group, hgroup, ha, hb⟩ := h
  exact ⟨group, hgroup, hb, ha⟩

theorem share_comm : Share groups a b ↔ Share groups b a :=
  ⟨Share.symm, Share.symm⟩

theorem Share.isMember_right (h : Share groups a b) : IsMember groups b := by
  obtain ⟨group, hgroup, -, hb⟩ := h
  exact ⟨group, hgroup, hb⟩

theorem share_cons_iff {group : SynonymGroup} :
    Share (group :: groups) a b ↔ (a ∈ group.members ∧ b ∈ group.members) ∨ Share groups a b := by
  simp [Share]

/-- Groups with their terms in another order relate the same terms. -/
theorem share_iff_of_isReordered
    (h : List.Forall₂ SynonymGroup.IsReordered groups others) :
    Share groups a b ↔ Share others a b := by
  induction h with
  | nil => rfl
  | cons hgroup _ ih =>
    rw [share_cons_iff, share_cons_iff, hgroup.mem_members_iff, hgroup.mem_members_iff, ih]

/-- **Rearranged groups relate the same terms.** -/
theorem Rearranged.share_iff (h : Rearranged groups others) :
    Share groups a b ↔ Share others a b := by
  obtain ⟨reordered, hterms, hgroups⟩ := h
  rw [share_iff_of_isReordered hterms]
  exact exists_congr fun group => and_congr_left fun _ => hgroups.mem_iff

/-! ### The loops -/

/-- The terms that stand for a term by the entries read so far. -/
def known (entries : SortedMap String (List String)) (term : String) : List String :=
  (entries.get? term).getD []

/-- **What one member owes to the others**: each of them that is not itself. -/
theorem mem_addOthers_iff {member : String} {terms others : List String} :
    b ∈ addOthers member terms others ↔ b ∈ terms ∨ b ∈ others ∧ b ≠ member := by
  rw [addOthers]
  induction others generalizing terms with
  | nil => simp
  | cons other others ih =>
    rw [List.foldl_cons, ih, List.mem_cons]
    by_cases hb : b = other
    · -- the term at hand is added unless it is the member or known already
      subst hb
      split_ifs with hnew
      · simp [hnew.1]
      · rw [not_and_not_right] at hnew
        by_cases hmember : b = member
        · simp [hmember]
        · simp [hnew hmember]
    · split_ifs <;> simp [hb]

theorem nodup_addOthers {member : String} {terms others : List String} (h : terms.Nodup) :
    (addOthers member terms others).Nodup := by
  refine List.foldlRecOn (motive := List.Nodup) others _ h fun terms hterms other _ => ?_
  split_ifs with hnew
  · exact hterms.append (List.nodup_singleton other) (List.disjoint_singleton.2 hnew.2)
  · exact hterms

section Loops

variable {entries : SortedMap String (List String)}

theorem mem_known_addMember {members : List String} {member : String} :
    b ∈ known (addMember members entries member) a ↔
      b ∈ known entries a ∨ a = member ∧ b ∈ members ∧ b ≠ a := by
  rw [known, addMember, SortedMap.get?_insert]
  split_ifs with ha
  · subst ha
    rw [Option.getD_some, mem_addOthers_iff, known]
    simp
  · rw [known]
    simp [ha]

/-- The invariant of the loop over the members of a group. -/
theorem mem_known_foldl_addMember {members : List String} (read : List String) :
    b ∈ known (read.foldl (addMember members) entries) a ↔
      b ∈ known entries a ∨ a ∈ read ∧ b ∈ members ∧ b ≠ a := by
  induction read generalizing entries with
  | nil => simp
  | cons member read ih =>
    rw [List.foldl_cons, ih, mem_known_addMember, List.mem_cons, or_and_right, or_assoc]

theorem mem_known_addGroup {group : SynonymGroup} :
    b ∈ known (addGroup entries group) a ↔
      b ∈ known entries a ∨ (a ∈ group.members ∧ b ∈ group.members) ∧ b ≠ a := by
  rw [addGroup, mem_known_foldl_addMember, and_assoc]

/-- The invariant of the loop over the groups. -/
theorem mem_known_foldl_addGroup (read : List SynonymGroup) :
    b ∈ known (read.foldl addGroup entries) a ↔
      b ∈ known entries a ∨ Share read a b ∧ b ≠ a := by
  induction read generalizing entries with
  | nil => simp [Share]
  | cons group read ih =>
    rw [List.foldl_cons, ih, mem_known_addGroup, share_cons_iff, or_and_right, or_assoc]

/-- Whether nothing stands twice for the same term. -/
def NoRepeats (entries : SortedMap String (List String)) : Prop :=
  ∀ a, (known entries a).Nodup

theorem NoRepeats.addMember (h : NoRepeats entries) (members : List String) (member : String) :
    NoRepeats (addMember members entries member) := by
  intro a
  rw [known, SynonymMap.addMember, SortedMap.get?_insert]
  split_ifs
  · exact nodup_addOthers (h member)
  · exact h a

theorem NoRepeats.addGroup (h : NoRepeats entries) (group : SynonymGroup) :
    NoRepeats (addGroup entries group) :=
  List.foldlRecOn (motive := NoRepeats) group.members _ h fun _ hentries member _ =>
    hentries.addMember group.members member

end Loops

/-! ### The map -/

/-- Leaving out the terms without synonyms changes no answer. -/
theorem known_ofGroups (groups : List SynonymGroup) (a : String) :
    known (ofGroups groups).entries a = known (groups.foldl addGroup ∅) a := by
  rw [known, known, ofGroups, SortedMap.get?_filter]
  cases (groups.foldl addGroup ∅).get? a with
  | none => rfl
  | some terms => cases terms <;> rfl

theorem lookup_eq_known (map : SynonymMap) (a : String) :
    map.lookup a = known map.entries (lowercase a) :=
  rfl

/-- **The synonyms of a term**: whatever shares a group with it and is not the term itself. -/
theorem mem_lookup_ofGroups_iff :
    b ∈ (ofGroups groups).lookup a ↔ lowercase a ≠ b ∧ Share groups (lowercase a) b := by
  rw [lookup_eq_known, known_ofGroups, mem_known_foldl_addGroup, and_comm, ne_comm]
  exact or_iff_right List.not_mem_nil

theorem nodup_lookup_ofGroups (groups : List SynonymGroup) (a : String) :
    ((ofGroups groups).lookup a).Nodup := by
  rw [lookup_eq_known, known_ofGroups]
  have hnone : NoRepeats ∅ := fun _ => List.nodup_nil
  exact List.foldlRecOn (motive := NoRepeats) groups _ hnone
    (fun _ hentries group _ => hentries.addGroup group) (lowercase a)

/-- The terms that the map has an entry for are those, in lower case, that have a synonym. -/
theorem mem_keys_ofGroups_iff :
    a ∈ (ofGroups groups).entries.keys ↔ lowercase a = a ∧ (ofGroups groups).lookup a ≠ [] := by
  -- an entry without synonyms has been left out
  have hkept : ∀ terms, (ofGroups groups).entries.get? a = some terms → terms ≠ [] := by
    intro terms hget
    rw [ofGroups, SortedMap.get?_filter, Option.filter_eq_some_iff] at hget
    simpa using hget.2
  rw [SortedMap.keys, List.mem_map]
  constructor
  · rintro ⟨⟨key, terms⟩, hentry, rfl⟩
    have hget := SortedMap.mem_entries_iff.1 hentry
    obtain ⟨b, hb⟩ := List.exists_mem_of_ne_nil terms (hkept terms hget)
    have hknown : b ∈ known (ofGroups groups).entries key := by rwa [known, hget]
    rw [known_ofGroups, mem_known_foldl_addGroup] at hknown
    obtain ⟨hshare, -⟩ := hknown.resolve_left List.not_mem_nil
    have hlower : lowercase key = key := hshare.symm.isMember_right.lowercase_eq
    refine ⟨hlower, ?_⟩
    rw [lookup_eq_known, hlower, known, hget]
    exact hkept terms hget
  · rintro ⟨hlower, hlookup⟩
    rw [lookup_eq_known, hlower, known] at hlookup
    cases hget : (ofGroups groups).entries.get? a with
    | none => simp [hget] at hlookup
    | some terms => exact ⟨(a, terms), SortedMap.mem_entries_iff.2 hget, rfl⟩

/-- **The map of a list of groups**, told without the loops that make it. -/
structure Relates (groups : List SynonymGroup) (map : SynonymMap) : Prop where
  /-- The synonyms of a term are the other members of its groups. -/
  mem_lookup_iff : ∀ a b, b ∈ map.lookup a ↔ lowercase a ≠ b ∧ Share groups (lowercase a) b
  symmetric : ∀ a b, IsMember groups a → IsMember groups b →
    (b ∈ map.lookup a ↔ a ∈ map.lookup b)
  /-- No term is its own synonym, however it is written. -/
  irreflexive : ∀ a, a ∉ map.lookup a ∧ lowercase a ∉ map.lookup a
  nodup : ∀ a, (map.lookup a).Nodup
  /-- The size counts the terms in lower case that have a synonym, each once. -/
  size_eq : ∃ terms : Finset String, terms.card = map.size ∧
    ∀ a, a ∈ terms ↔ lowercase a = a ∧ map.lookup a ≠ []

/-- **The relation of a list of groups is symmetric, irreflexive and free of repetitions, and it
does not depend on how the groups are presented**: rearranged groups give every term the same
synonyms. -/
theorem relates_ofGroups (groups : List SynonymGroup) :
    Relates groups (ofGroups groups) ∧
      ∀ others, Rearranged groups others →
        ∀ a, ((ofGroups groups).lookup a).Perm ((ofGroups others).lookup a) := by
  refine ⟨⟨?_, ?_, ?_, ?_, ?_⟩, ?_⟩
  · exact fun a b => mem_lookup_ofGroups_iff
  · intro a b ha hb
    rw [mem_lookup_ofGroups_iff, mem_lookup_ofGroups_iff, ha.lowercase_eq, hb.lowercase_eq,
      share_comm, ne_comm]
  · intro a
    have hself : lowercase a ∉ (ofGroups groups).lookup a := fun h =>
      (mem_lookup_ofGroups_iff.1 h).1 rfl
    refine ⟨fun h => hself ?_, hself⟩
    -- a synonym is in lower case, so a term among its own would be so as it is written
    rwa [(mem_lookup_ofGroups_iff.1 h).2.isMember_right.lowercase_eq]
  · exact nodup_lookup_ofGroups groups
  · refine ⟨(ofGroups groups).entries.keys.toFinset, ?_, fun a => ?_⟩
    · have hnodup : (ofGroups groups).entries.keys.Nodup := SortedMap.nodup_keys _
      rw [List.toFinset_card_of_nodup hnodup]
      exact List.length_map _
    · rw [List.mem_toFinset, mem_keys_ofGroups_iff]
  · intro others h a
    refine (List.perm_ext_iff_of_nodup (nodup_lookup_ofGroups _ a)
      (nodup_lookup_ofGroups _ a)).2 fun b => ?_
    rw [mem_lookup_ofGroups_iff, mem_lookup_ofGroups_iff, h.share_iff]

/-- Two groups that share a term, one with a member that differs from another by case alone. -/
def seating : List SynonymGroup :=
  [⟨"Sofa", ["couch", " settee ", "COUCH"]⟩, ⟨"settee", ["bench"]⟩]

/-- The same groups in the other order, `settee` written behind its synonym and first in the other
group. -/
def reseating : List SynonymGroup :=
  [⟨"bench", ["settee"]⟩, ⟨" settee ", ["COUCH", "Sofa", "couch"]⟩]

/-- `seating` and `reseating` give a settee the same synonyms, if in another order. -/
theorem perm_lookup_reseating :
    Rearranged seating reseating ∧
      (ofGroups seating).lookup "Settee" = ["sofa", "couch", "bench"] ∧
      ((ofGroups seating).lookup "Settee").Perm ((ofGroups reseating).lookup "Settee") := by
  have hmoved : Rearranged seating reseating :=
    ⟨[⟨" settee ", ["COUCH", "Sofa", "couch"]⟩, ⟨"bench", ["settee"]⟩],
      .cons (by decide) (.cons (by decide) .nil), List.Perm.swap _ _ _⟩
  exact ⟨hmoved, by decide +kernel, (relates_ofGroups seating).2 reseating hmoved "Settee"⟩

end SynonymMap

end Storefront
