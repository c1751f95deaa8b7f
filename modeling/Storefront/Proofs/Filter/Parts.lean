import Mathlib.Data.List.Sort
import Mathlib.Data.String.Basic
import Storefront.Filter.Normal
import Storefront.Proofs.Map.Entries

/-!
# The parts of a filter in normal form

The normal form of a filter is made field by field, and most of its fields are lists, names or pairs
of both. Here stands, for each kind of field, what its normal form holds, when a field is in normal
form already, and when two fields have the same one:

| part | holds | in normal form |
| --- | --- | --- |
| identifiers | `mem_ascendingIds` | strictly ascending (`ascendingIds_eq_self`) |
| names | `mem_ascendingNames` | `NormalNames` |
| attributes | `Filter.get?_normalAttributes_iff` | `Filter.NormalAttribute` |

All of it rests on one fact: a list in strict order is determined by its members
(`List.Pairwise.eq_of_mem_iff`).

Attributes are kept under their names *as spelled*, and only the normal form trims the names. Of
several spellings of one name the last counts; where no two names are alike, each of them does
(`Filter.DistinctNames.get?_normalAttributes_iff`).
-/

namespace Storefront

open Text

/-! ### Texts, in order and trimmed -/

namespace Text

theorem compare_eq_lt_iff {s t : String} : compare s t = .lt ↔ s < t :=
  compareOfLessAndEq_eq_lt

theorem dropWhile_isBlank_eq_self {cs : List Char} (h : ∀ c ∈ cs.head?, isBlank c = false) :
    cs.dropWhile isBlank = cs := by
  cases cs with
  | nil => rfl
  | cons c cs => rw [List.dropWhile_cons_of_neg (by simp [h c rfl])]

theorem isBlank_of_mem_head?_dropWhile {cs : List Char} {c : Char}
    (h : c ∈ (cs.dropWhile isBlank).head?) : isBlank c = false := by
  have hfirst := List.head?_dropWhile_not isBlank cs
  rw [Option.mem_def] at h
  rwa [h] at hfirst

/-- A trimmed text does not begin with a blank. -/
theorem isBlank_of_mem_head?_trimChars {cs : List Char} {c : Char}
    (h : c ∈ (trimChars cs).head?) : isBlank c = false := by
  have hbegins : trimChars cs <+: cs.dropWhile isBlank := by
    rw [trimChars, ← List.reverse_suffix, List.reverse_reverse]
    exact List.dropWhile_suffix _
  obtain ⟨rest, hrest⟩ := hbegins
  have hhead : c ∈ (cs.dropWhile isBlank).head? := by
    rw [Option.mem_def] at h
    rw [← hrest, List.head?_append, h]
    rfl
  exact isBlank_of_mem_head?_dropWhile hhead

/-- A trimmed text does not end with a blank. -/
theorem isBlank_of_mem_getLast?_trimChars {cs : List Char} {c : Char}
    (h : c ∈ (trimChars cs).getLast?) : isBlank c = false := by
  rw [trimChars, List.getLast?_reverse] at h
  exact isBlank_of_mem_head?_dropWhile h

/-- Trimming leaves a text alone that neither begins nor ends with a blank. -/
theorem trimChars_eq_self {cs : List Char} (hfirst : ∀ c ∈ cs.head?, isBlank c = false)
    (hlast : ∀ c ∈ cs.getLast?, isBlank c = false) : trimChars cs = cs := by
  rw [trimChars, dropWhile_isBlank_eq_self hfirst,
    dropWhile_isBlank_eq_self (by rwa [List.head?_reverse]), List.reverse_reverse]

theorem trimChars_trimChars (cs : List Char) : trimChars (trimChars cs) = trimChars cs :=
  trimChars_eq_self (fun _ => isBlank_of_mem_head?_trimChars)
    fun _ => isBlank_of_mem_getLast?_trimChars

/-- **Trimming a second time changes nothing.** -/
@[simp] theorem trim_trim (s : String) : trim (trim s) = trim s := by
  rw [trim, trim, String.toList_ofList, trimChars_trimChars]

theorem trimmed?_eq_some_iff {s t : String} : trimmed? s = some t ↔ trim s = t ∧ t ≠ "" := by
  rw [trimmed?]
  split_ifs with hempty
  · rw [String.isEmpty_iff] at hempty
    refine iff_of_false nofun ?_
    rintro ⟨rfl, hne⟩
    exact hne hempty
  · rw [String.isEmpty_iff] at hempty
    rw [Option.some.injEq]
    refine ⟨?_, And.left⟩
    rintro rfl
    exact ⟨rfl, hempty⟩

end Text

/-! ### Lists in strict order -/

theorem mem_dropRepeats {α : Type} [DecidableEq α] {items : List α} {item : α} :
    item ∈ dropRepeats items ↔ item ∈ items := by
  fun_induction dropRepeats items with
  | case1 => rfl
  | case2 => rfl
  | case3 a rest ih => simpa using ih
  | case4 a b rest _ ih => rw [List.mem_cons, ih, List.mem_cons (l := b :: rest)]

/-- What is left of an ordered list is in strict order. -/
theorem pairwise_dropRepeats {α : Type} [DecidableEq α] [PartialOrder α] {items : List α}
    (h : items.Pairwise (· ≤ ·)) : (dropRepeats items).Pairwise (· < ·) := by
  fun_induction dropRepeats items with
  | case1 => exact List.Pairwise.nil
  | case2 => exact List.pairwise_singleton _ _
  | case3 a rest ih => exact ih (List.pairwise_cons.1 h).2
  | case4 a b rest hne ih =>
    obtain ⟨hfirst, hrest⟩ := List.pairwise_cons.1 h
    refine List.pairwise_cons.2 ⟨fun item hitem => ?_, ih hrest⟩
    -- the next item is greater, and no later one is less than that
    have hnext : a < b := lt_of_le_of_ne (hfirst b (List.mem_cons_self ..)) hne
    obtain rfl | hitem := List.mem_cons.1 (mem_dropRepeats.1 hitem)
    · exact hnext
    · exact hnext.trans_le ((List.pairwise_cons.1 hrest).1 item hitem)

theorem mem_ascendingIds {ids : List Int} {id : Int} : id ∈ ascendingIds ids ↔ id ∈ ids := by
  rw [ascendingIds, mem_dropRepeats, List.mem_mergeSort]

theorem pairwise_ascendingIds (ids : List Int) : (ascendingIds ids).Pairwise (· < ·) :=
  pairwise_dropRepeats (List.pairwise_mergeSort' (· ≤ ·) ids)

/-- Lists with the same identifiers have the same normal form. -/
theorem ascendingIds_congr {ids others : List Int} (h : ∀ id, id ∈ ids ↔ id ∈ others) :
    ascendingIds ids = ascendingIds others := by
  refine (pairwise_ascendingIds ids).eq_of_mem_iff (pairwise_ascendingIds others) fun id => ?_
  rw [mem_ascendingIds, mem_ascendingIds, h]

/-- Identifiers in strict order are in normal form. -/
theorem ascendingIds_eq_self {ids : List Int} (h : ids.Pairwise (· < ·)) :
    ascendingIds ids = ids :=
  (pairwise_ascendingIds ids).eq_of_mem_iff h fun _ => mem_ascendingIds

/-! ### Names -/

theorem mem_ascendingNames {names : List String} {name : String} :
    name ∈ ascendingNames names ↔ name ≠ "" ∧ ∃ raw ∈ names, trim raw = name := by
  rw [ascendingNames, mem_dropRepeats, List.mem_mergeSort, List.mem_filter, List.mem_map,
    Bool.not_eq_true', ← Bool.not_eq_true, String.isEmpty_iff, and_comm]

theorem pairwise_ascendingNames (names : List String) :
    (ascendingNames names).Pairwise (· < ·) :=
  pairwise_dropRepeats (List.pairwise_mergeSort' (· ≤ ·) _)

/-- **Names in normal form.** -/
structure NormalNames (names : List String) : Prop where
  ne_nil : names ≠ []
  ascending : names.Pairwise (· < ·)
  trim_eq : ∀ name ∈ names, trim name = name
  ne_empty : ∀ name ∈ names, name ≠ ""

theorem normalNames_namesOr {default : String} (htrim : trim default = default)
    (hne : default ≠ "") (names : List String) : NormalNames (namesOr default names) := by
  rw [namesOr]
  split
  · exact ⟨nofun, List.pairwise_singleton _ _, by simpa using htrim, by simpa using hne⟩
  · rename_i hnil
    refine ⟨hnil, pairwise_ascendingNames names, fun name hname => ?_, fun name hname => ?_⟩
    · obtain ⟨-, raw, -, rfl⟩ := mem_ascendingNames.1 hname
      exact trim_trim raw
    · exact (mem_ascendingNames.1 hname).1

theorem NormalNames.namesOr_eq {names : List String} (h : NormalNames names) (default : String) :
    namesOr default names = names := by
  have hnames : ascendingNames names = names := by
    refine (pairwise_ascendingNames names).eq_of_mem_iff h.ascending fun name => ?_
    rw [mem_ascendingNames]
    constructor
    · rintro ⟨-, raw, hraw, rfl⟩
      rwa [h.trim_eq raw hraw]
    · exact fun hname => ⟨h.ne_empty name hname, name, hname, h.trim_eq name hname⟩
  rw [namesOr, hnames]
  split
  · exact absurd rfl h.ne_nil
  · rfl

/-- Names that are the same when trimmed have the same normal form. -/
theorem namesOr_congr {names others : List String}
    (h : ∀ name, name ∈ names.map trim ↔ name ∈ others.map trim) (default : String) :
    namesOr default names = namesOr default others := by
  have hnames : ascendingNames names = ascendingNames others := by
    refine (pairwise_ascendingNames names).eq_of_mem_iff (pairwise_ascendingNames others)
      fun name => ?_
    have hmem := h name
    rw [List.mem_map, List.mem_map] at hmem
    rw [mem_ascendingNames, mem_ascendingNames, hmem]
  rw [namesOr, namesOr, hnames]

/-! ### Terms -/

namespace Filter

theorem mem_positiveTerms {filter : TermFilter} {id : Int} :
    id ∈ (positiveTerms filter).terms ↔ id ∈ filter.terms ∧ 0 < id := by
  rw [positiveTerms, mem_ascendingIds, List.mem_filter, decide_eq_true_eq]

theorem positiveTerms_ne_nil_iff {filter : TermFilter} :
    (positiveTerms filter).terms ≠ [] ↔ ∃ id ∈ filter.terms, 0 < id := by
  refine ⟨fun h => ?_, fun ⟨id, hid⟩ => List.ne_nil_of_mem (mem_positiveTerms.2 hid)⟩
  obtain ⟨id, hid⟩ := List.exists_mem_of_ne_nil _ h
  exact ⟨id, mem_positiveTerms.1 hid⟩

theorem positiveTerms_singleton {term : Int} (h : 0 < term) (combinator : Combinator) :
    positiveTerms ⟨[term], combinator⟩ = ⟨[term], combinator⟩ := by
  simp [positiveTerms, ascendingIds, dropRepeats, h]

/-- Positive terms in strict order are in normal form. -/
theorem positiveTerms_eq_self {filter : TermFilter} (hascending : filter.terms.Pairwise (· < ·))
    (hpositive : ∀ id ∈ filter.terms, 0 < id) : positiveTerms filter = filter := by
  have hkept : filter.terms.filter (0 < ·) = filter.terms :=
    List.filter_eq_self.2 fun id hid => decide_eq_true (hpositive id hid)
  rw [positiveTerms, hkept, ascendingIds_eq_self hascending]

/-! ### Attributes -/

/-- An attribute with its name trimmed and its terms in normal form, if anything is left of either.
-/
def normalPair? (entry : String × TermFilter) : Option (String × TermFilter) :=
  if (trim entry.1).isEmpty || (positiveTerms entry.2).terms.isEmpty then none
  else some (trim entry.1, positiveTerms entry.2)

theorem normalPair?_eq_some_iff {spelling taxonomy : String} {raw terms : TermFilter} :
    normalPair? (spelling, raw) = some (taxonomy, terms) ↔
      taxonomy ≠ "" ∧ terms.terms ≠ [] ∧ trim spelling = taxonomy ∧ positiveTerms raw = terms := by
  rw [normalPair?]
  split_ifs with hempty
  · rw [Bool.or_eq_true, String.isEmpty_iff, List.isEmpty_iff] at hempty
    refine ⟨nofun, ?_⟩
    rintro ⟨hname, hterms, rfl, rfl⟩
    exact (hempty.elim hname hterms).elim
  · rw [Bool.or_eq_true, String.isEmpty_iff, List.isEmpty_iff, not_or] at hempty
    rw [Option.some.injEq, Prod.mk.injEq]
    constructor
    · rintro ⟨rfl, rfl⟩
      exact ⟨hempty.1, hempty.2, rfl, rfl⟩
    · rintro ⟨-, -, hname, hterms⟩
      exact ⟨hname, hterms⟩

theorem normalAttributes_eq (attributes : SortedMap String TermFilter) :
    normalAttributes attributes =
      (attributes.entries.filterMap normalPair?).foldl (fun m e => m.insert e.1 e.2) ∅ := by
  rw [normalAttributes, List.foldl_filterMap]
  refine List.foldl_ext _ _ _ fun m entry _ => ?_
  rw [addAttribute, normalPair?]
  split_ifs <;> rfl

/-- **Of several spellings the last counts**: what the normal form has for a taxonomy comes from a
spelling of it after which there is no other. -/
theorem get?_normalAttributes_iff {attributes : SortedMap String TermFilter} {taxonomy : String}
    {terms : TermFilter} :
    (normalAttributes attributes).get? taxonomy = some terms ↔
      ∃ spelling raw, attributes.get? spelling = some raw ∧
        normalPair? (spelling, raw) = some (taxonomy, terms) ∧
        ∀ other value, attributes.get? other = some value → spelling < other →
          ∀ entry ∈ normalPair? (other, value), entry.1 ≠ taxonomy := by
  rw [normalAttributes_eq, SortedMap.get?_foldl_insert]
  change Option.or _ none = _ ↔ _
  rw [Option.or_none, SortedMap.find?_filterMap_entries_iff]
  simp only [compare_eq_lt_iff]

/-- **An attribute in normal form.** -/
structure NormalAttribute (taxonomy : String) (filter : TermFilter) : Prop where
  trim_eq : trim taxonomy = taxonomy
  ne_empty : taxonomy ≠ ""
  terms_ne_nil : filter.terms ≠ []
  ascending : filter.terms.Pairwise (· < ·)
  positive : ∀ id ∈ filter.terms, 0 < id

theorem NormalAttribute.normalPair?_eq {taxonomy : String} {filter : TermFilter}
    (h : NormalAttribute taxonomy filter) :
    normalPair? (taxonomy, filter) = some (taxonomy, filter) :=
  normalPair?_eq_some_iff.2
    ⟨h.ne_empty, h.terms_ne_nil, h.trim_eq, positiveTerms_eq_self h.ascending h.positive⟩

theorem normalAttribute_of_normalPair? {entry : String × TermFilter} {taxonomy : String}
    {filter : TermFilter} (h : normalPair? entry = some (taxonomy, filter)) :
    NormalAttribute taxonomy filter := by
  obtain ⟨hne, hterms, rfl, rfl⟩ := normalPair?_eq_some_iff.1 h
  exact ⟨trim_trim _, hne, hterms, pairwise_ascendingIds _,
    fun id hid => (mem_positiveTerms.1 hid).2⟩

/-- The attributes of a normal form are in normal form. -/
theorem normalAttribute_of_get? {attributes : SortedMap String TermFilter} {taxonomy : String}
    {filter : TermFilter} (h : (normalAttributes attributes).get? taxonomy = some filter) :
    NormalAttribute taxonomy filter := by
  obtain ⟨spelling, raw, -, hpair, -⟩ := get?_normalAttributes_iff.1 h
  exact normalAttribute_of_normalPair? hpair

/-- No two taxonomies have the same trimmed name. -/
def DistinctNames (attributes : SortedMap String TermFilter) : Prop :=
  (attributes.keys.map trim).Nodup

instance (attributes : SortedMap String TermFilter) : Decidable (DistinctNames attributes) :=
  inferInstanceAs (Decidable (attributes.keys.map trim).Nodup)

theorem DistinctNames.eq_of_trim_eq {attributes : SortedMap String TermFilter}
    (h : DistinctNames attributes) {spelling other : String} {filter filter' : TermFilter}
    (hget : attributes.get? spelling = some filter) (hget' : attributes.get? other = some filter')
    (htrim : trim spelling = trim other) : spelling = other := by
  have hmem {k : String} {v : TermFilter} (hk : attributes.get? k = some v) :
      k ∈ attributes.keys :=
    List.mem_map.2 ⟨(k, v), SortedMap.mem_entries_iff.2 hk, rfl⟩
  exact List.inj_on_of_nodup_map h (hmem hget) (hmem hget') htrim

/-- **Where names are distinct, each spelling counts**: none takes the place of another. -/
theorem DistinctNames.get?_normalAttributes_iff {attributes : SortedMap String TermFilter}
    (h : DistinctNames attributes) {taxonomy : String} {terms : TermFilter} :
    (normalAttributes attributes).get? taxonomy = some terms ↔
      ∃ spelling raw, attributes.get? spelling = some raw ∧
        normalPair? (spelling, raw) = some (taxonomy, terms) := by
  rw [Filter.get?_normalAttributes_iff]
  constructor
  · rintro ⟨spelling, raw, hget, hpair, -⟩
    exact ⟨spelling, raw, hget, hpair⟩
  · rintro ⟨spelling, raw, hget, hpair⟩
    refine ⟨spelling, raw, hget, hpair, ?_⟩
    rintro other value hother hlt ⟨name, filter⟩ hentry rfl
    -- another spelling of the same name would be the same spelling
    have htrim := (normalPair?_eq_some_iff.1 hpair).2.2.1
    have htrim' := (normalPair?_eq_some_iff.1 (Option.mem_def.1 hentry)).2.2.1
    obtain rfl := h.eq_of_trim_eq hget hother (htrim.trans htrim'.symm)
    exact String.lt_irrefl _ hlt

theorem normalAttributes_eq_self {attributes : SortedMap String TermFilter}
    (h : ∀ taxonomy filter, attributes.get? taxonomy = some filter →
      NormalAttribute taxonomy filter) :
    normalAttributes attributes = attributes := by
  have hget {e : String × TermFilter} (he : e ∈ attributes.entries) :
      attributes.get? e.1 = some e.2 :=
    SortedMap.mem_entries_iff.1 he
  have hkeys : attributes.keys.map trim = attributes.keys := by
    rw [SortedMap.keys, List.map_map]
    exact List.map_congr_left fun e he => (h e.1 e.2 (hget he)).trim_eq
  have hdistinct : DistinctNames attributes := by
    rw [DistinctNames, hkeys]
    exact attributes.nodup_keys
  refine SortedMap.ext_get? fun taxonomy => Option.ext fun filter => ?_
  rw [hdistinct.get?_normalAttributes_iff]
  constructor
  · rintro ⟨spelling, raw, hraw, hpair⟩
    obtain ⟨rfl, rfl⟩ : spelling = taxonomy ∧ raw = filter := by
      simpa [(h spelling raw hraw).normalPair?_eq] using hpair
    exact hraw
  · exact fun hfilter => ⟨taxonomy, filter, hfilter, (h taxonomy filter hfilter).normalPair?_eq⟩

end Filter

end Storefront
