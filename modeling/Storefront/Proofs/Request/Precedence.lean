import Storefront.Proofs.Filter.Parts
import Storefront.Request

/-!
# Which source a filter comes from

A request merges three sources, and of two that speak of the same thing the higher one counts: the
selection before the parameters, the parameters before the archive. For single fields that is all
there is to it. Attributes are merged by the names of their taxonomies *as they are spelled*, and only
the normal form trims the names. So two sources that look apart when they are merged can meet
afterwards, and then the order of their spellings decides, not their precedence.

| step | which of two counts |
|---|---|
| `Request.attributes` | the later parameter, and any parameter before the archive, if spelled alike |
| `Filter.normalAttributes` | the spelling that comes last (`Filter.get?_normalAttributes_iff`) |

The names of parameters are trimmed when they are read (`Request.trim_ofAttribute`), so of all
spellings of a taxonomy only two can be there: its own and that of the archive. The parameters prevail
unless the archive's comes last, or the last parameter on the taxonomy names no term of it
(`Request.ArchivePrevails`). `Request.followsSources` says so for every request, together with what
becomes of the single fields.
-/

namespace Storefront

open Text

/-- The taxonomy that a parameter names is trimmed. -/
theorem Request.trim_ofAttribute {param name : String}
    (h : Request.attributeName? param = some name) :
    trim (Taxonomy.ofAttribute name) = Taxonomy.ofAttribute name := by
  obtain ⟨cs, hcs, hname⟩ := Option.bind_eq_some_iff.1 h
  obtain ⟨rest, -, rfl⟩ := Option.map_eq_some_iff.1 hcs
  split at hname
  · cases hname
  rename_i hne
  obtain rfl := Option.some.inj hname
  have hlist : trimChars (Taxonomy.ofAttribute (String.ofList (trimChars rest))).toList =
      (Taxonomy.ofAttribute (String.ofList (trimChars rest))).toList := by
    rw [Taxonomy.ofAttribute]
    split_ifs
    · rw [String.toList_ofList]
      exact trimChars_eq_self (fun _ => isBlank_of_mem_head?_trimChars)
        fun _ => isBlank_of_mem_getLast?_trimChars
    · -- with the mark of attributes in front, the end is still that of the trimmed name
      simp only [String.toList_append, String.toList_ofList]
      refine trimChars_eq_self (fun c hc => ?_) fun c hc => ?_
      · obtain rfl : 'p' = c := by simpa using hc
        decide
      rw [List.getLast?_append_of_ne_nil _ (by simpa using hne)] at hc
      exact isBlank_of_mem_getLast?_trimChars hc
  rw [trim, hlist, String.ofList_toList]

/-! ### Attributes that are asked for -/

namespace Request

/-- The taxonomy that one parameter asks for with the terms it names, if it is one that filters. -/
def asked? (request : Request) (param : String × String) : Option (String × TermFilter) :=
  (attributeName? param.1).bind fun name =>
    if (readIds param.2).isEmpty then none
    else some (Taxonomy.ofAttribute name, ⟨readIds param.2, request.combinatorOf name⟩)

/-- What the last parameter on a taxonomy asks of it. -/
def lastAsked? (request : Request) (taxonomy : String) : Option TermFilter :=
  ((request.params.entries.filterMap request.asked?).reverse.find? fun e => e.1 = taxonomy).map (·.2)

variable {request : Request} {taxonomy : String}

theorem asked?_eq_some_iff {param : String × String} {terms : TermFilter} :
    request.asked? param = some (taxonomy, terms) ↔
      ∃ name, attributeName? param.1 = some name ∧ Taxonomy.ofAttribute name = taxonomy ∧
        readIds param.2 ≠ [] ∧ terms = ⟨readIds param.2, request.combinatorOf name⟩ := by
  rw [asked?, Option.bind_eq_some_iff]
  refine exists_congr fun name => and_congr_right fun _ => ?_
  split_ifs with hempty
  · simp [List.isEmpty_iff.1 hempty]
  · rw [List.isEmpty_iff] at hempty
    rw [Option.some.injEq, Prod.mk.injEq, and_iff_right hempty, eq_comm (a := terms)]

theorem attributes_eq (request : Request) :
    request.attributes = (request.params.entries.filterMap request.asked?).foldl
      (fun m e => m.insert e.1 e.2) (archiveAttributes request.archive) := by
  rw [attributes, List.foldl_filterMap]
  congr 1
  funext m param
  rw [addParam, asked?]
  cases attributeName? param.1 with
  | none => rfl
  | some name => cases readIds param.2 <;> rfl

/-- A spelling is merged by itself: the parameters on it count before the archive. -/
theorem get?_attributes (request : Request) (spelling : String) :
    request.attributes.get? spelling =
      (request.lastAsked? spelling).or ((archiveAttributes request.archive).get? spelling) := by
  rw [attributes_eq, SortedMap.get?_foldl_insert, lastAsked?]

theorem get?_archiveAttributes {archive : Archive} {spelling : String} {raw : TermFilter} :
    (archiveAttributes archive).get? spelling = some raw ↔
      ∃ term, archive.attributeTerm = some (spelling, term) ∧ raw = ⟨[term], .any⟩ := by
  rw [archiveAttributes]
  split
  · rename_i taxonomy term harchive
    change (SortedMap.insert .empty taxonomy _).get? spelling = _ ↔ _
    rw [SortedMap.get?_insert, SortedMap.get?_empty, harchive]
    by_cases h : spelling = taxonomy
    · simp [h, eq_comm]
    · simp [h, Ne.symm h]
  · rename_i harchive
    rw [harchive]
    exact ⟨nofun, nofun⟩

theorem exists_of_lastAsked? {terms : TermFilter} (h : request.lastAsked? taxonomy = some terms) :
    ∃ param ∈ request.params.entries, request.asked? param = some (taxonomy, terms) := by
  obtain ⟨⟨asked, last⟩, hfind, rfl⟩ := Option.map_eq_some_iff.1 h
  obtain rfl : asked = taxonomy := by simpa using List.find?_some hfind
  obtain ⟨param, hparam, hasked⟩ :=
    List.mem_filterMap.1 (List.mem_reverse.1 (List.mem_of_find?_eq_some hfind))
  exact ⟨param, hparam, hasked⟩

/-- What is asked for is trimmed. -/
theorem trim_of_lastAsked? {terms : TermFilter} (h : request.lastAsked? taxonomy = some terms) :
    trim taxonomy = taxonomy := by
  obtain ⟨param, -, hasked⟩ := exists_of_lastAsked? h
  obtain ⟨name, hname, rfl, -⟩ := asked?_eq_some_iff.1 hasked
  exact trim_ofAttribute hname

/-- No parameter asks for a spelling that is not trimmed. -/
theorem lastAsked?_eq_none {spelling : String} (h : trim spelling ≠ spelling) :
    request.lastAsked? spelling = none := by
  by_contra hsome
  obtain ⟨_, hsome⟩ := Option.ne_none_iff_exists'.1 hsome
  exact h (trim_of_lastAsked? hsome)

/-! ### Precedence -/

/-- A parameter asks for a taxonomy, which it calls by a name, with at least one term. -/
structure AsksFor (request : Request) (taxonomy name : String) (param : String × String) : Prop where
  present : param ∈ request.params.entries
  called : attributeName? param.1 = some name
  names : Taxonomy.ofAttribute name = taxonomy
  positive : ∃ id ∈ readIds param.2, 0 < id

/-- The terms are the positive ones of a parameter in ascending order, none of them twice, with the
combinator that goes with its name. -/
structure IsFilterOf (request : Request) (name : String) (param : String × String)
    (filter : TermFilter) : Prop where
  combinator : filter.combinator = request.combinatorOf name
  ascending : filter.terms.Pairwise (· < ·)
  mem_iff : ∀ id, id ∈ filter.terms ↔ id ∈ readIds param.2 ∧ 0 < id

/-- The archive's term stands for the taxonomy, whatever the parameters say: no parameter asks for
it; or the archive spells it with blanks, and either the spelling comes after the taxonomy or the
last parameter names no term. -/
structure ArchivePrevails (request : Request) (taxonomy spelling : String) (term : Int) : Prop where
  archive : request.archive.attributeTerm = some (spelling, term)
  spells : trim spelling = taxonomy
  positive : 0 < term
  outranks : request.lastAsked? taxonomy = none ∨ spelling ≠ taxonomy ∧
    (taxonomy < spelling ∨
      ∀ last ∈ request.lastAsked? taxonomy, (Filter.positiveTerms last).terms = [])

/-- What the normal form has for a taxonomy is what the last parameter on it says, unless the
archive prevails. -/
theorem get?_normalAttributes {terms : TermFilter}
    (h : (Filter.normalAttributes request.attributes).get? taxonomy = some terms) :
    (∃ spelling term, request.ArchivePrevails taxonomy spelling term ∧ terms = ⟨[term], .any⟩) ∨
      (¬ ∃ spelling term, request.ArchivePrevails taxonomy spelling term) ∧
        ∃ last, request.lastAsked? taxonomy = some last ∧ Filter.positiveTerms last = terms ∧
          terms.terms ≠ [] := by
  obtain ⟨spelling, raw, hget, hnormal, hlater⟩ := Filter.get?_normalAttributes_iff.1 h
  obtain ⟨hname, hterms, hspells, hraw⟩ := Filter.normalPair?_eq_some_iff.1 hnormal
  rw [get?_attributes] at hget
  cases hasked : request.lastAsked? spelling with
  | some last =>
    rw [hasked, Option.some_or, Option.some.injEq] at hget
    subst hget
    obtain rfl : spelling = taxonomy := (trim_of_lastAsked? hasked).symm.trans hspells
    refine .inr ⟨?_, last, hasked, hraw, hterms⟩
    rintro ⟨other, term, harchive⟩
    rcases harchive.outranks with hnone | ⟨hne, hafter | hempty⟩
    · rw [hasked] at hnone
      cases hnone
    · -- the archive's spelling comes later, so it is the one that counts
      have hunasked : request.lastAsked? other = none :=
        lastAsked?_eq_none fun htrim => hne (htrim.symm.trans harchive.spells)
      have hother : request.attributes.get? other = some ⟨[term], .any⟩ := by
        rw [get?_attributes, hunasked, Option.none_or]
        exact get?_archiveAttributes.2 ⟨term, harchive.archive, rfl⟩
      exact hlater other _ hother hafter _ (Filter.normalPair?_eq_some_iff.2
        ⟨hname, List.cons_ne_nil term [], harchive.spells,
          Filter.positiveTerms_singleton harchive.positive _⟩) rfl
    · exact hterms (hraw ▸ hempty last hasked)
  | none =>
    rw [hasked, Option.none_or] at hget
    obtain ⟨term, harchive, rfl⟩ := get?_archiveAttributes.1 hget
    have hpositive : 0 < term := by
      obtain ⟨id, hid⟩ := List.exists_mem_of_ne_nil _ (hraw ▸ hterms)
      obtain ⟨hmem, hid⟩ := Filter.mem_positiveTerms.1 hid
      rwa [List.mem_singleton.1 hmem] at hid
    rw [Filter.positiveTerms_singleton hpositive] at hraw
    refine .inl ⟨spelling, term, ⟨harchive, hspells, hpositive, ?_⟩, hraw.symm⟩
    by_cases heq : spelling = taxonomy
    · exact .inl (heq ▸ hasked)
    refine .inr ⟨heq, or_iff_not_imp_left.2 fun hnot last hlast => ?_⟩
    -- the taxonomy's own spelling comes later, so nothing can be left of its terms
    by_contra hleft
    have hbefore : spelling < taxonomy := by
      by_contra hge
      exact heq (String.le_antisymm (String.not_lt.1 hnot) (String.not_lt.1 hge))
    have hown : request.attributes.get? taxonomy = some last := by
      rw [get?_attributes, hlast, Option.some_or]
    exact hlater taxonomy last hown hbefore _ (Filter.normalPair?_eq_some_iff.2
      ⟨hname, hleft, trim_of_lastAsked? hlast, rfl⟩) rfl

/-- A filter follows the sources of its request: single fields are the selection's before those of the
archive or the parameters, and the terms of a taxonomy are the archive's where it prevails, and those
of a parameter that asks for it everywhere else. -/
structure FollowsSources (request : Request) (filter : Filter) : Prop where
  category : filter.category =
    (request.selection.category.or request.archive.category).filter (0 < ·)
  tag : filter.tag = (request.selection.tag.or request.archive.tag).filter (0 < ·)
  order : filter.order = request.selection.order.or
    ((request.param? "orderby").bind fun key => SortOrder.ofTexts? key (request.param? "order"))
  includeIds : filter.includeIds = request.selection.includeIds.map ascendingIds
  excludeIds : filter.excludeIds = ascendingIds request.selection.excludeIds
  postStatuses : ∀ names ∈ request.selection.postStatuses,
    filter.postStatuses = namesOr "publish" names
  attributes : ∀ taxonomy terms, filter.attributes.get? taxonomy = some terms →
    (∃ spelling term, request.ArchivePrevails taxonomy spelling term ∧ terms = ⟨[term], .any⟩) ∨
      (¬ ∃ spelling term, request.ArchivePrevails taxonomy spelling term) ∧
        ∃ name param, request.AsksFor taxonomy name param ∧ request.IsFilterOf name param terms

theorem exists_asksFor_of_lastAsked? {last terms : TermFilter}
    (hlast : request.lastAsked? taxonomy = some last) (hterms : Filter.positiveTerms last = terms)
    (hne : terms.terms ≠ []) :
    ∃ name param, request.AsksFor taxonomy name param ∧ request.IsFilterOf name param terms := by
  obtain ⟨param, hparam, hasked⟩ := exists_of_lastAsked? hlast
  obtain ⟨name, hname, htaxonomy, -, rfl⟩ := asked?_eq_some_iff.1 hasked
  subst hterms
  obtain ⟨id, hid⟩ := List.exists_mem_of_ne_nil _ hne
  refine ⟨name, param, ⟨hparam, hname, htaxonomy, id, Filter.mem_positiveTerms.1 hid⟩, rfl, ?_, ?_⟩
  · exact pairwise_ascendingIds _
  · exact fun id => Filter.mem_positiveTerms

/-- **The filter of a request follows its sources.** -/
theorem followsSources {settings : Settings} {filter : Filter}
    (h : request.toFilter settings = .ok filter) : request.FollowsSources filter := by
  rw [toFilter] at h
  split at h
  · cases h
  obtain rfl := Except.ok.inj h
  refine ⟨rfl, rfl, rfl, rfl, rfl, ?_, ?_⟩
  · intro names hnames
    rw [Option.mem_def] at hnames
    simp only [Filter.normalize, merge, hnames, Option.getD_some]
  · intro taxonomy terms hterms
    rcases get?_normalAttributes hterms with harchive | ⟨hnot, last, hlast, hpositive, hne⟩
    · exact .inl harchive
    · exact .inr ⟨hnot, exists_asksFor_of_lastAsked? hlast hpositive hne⟩

/-- A request for things of one colour from the archive page of another. -/
def otherColour : Request :=
  { params := SortedMap.ofList [("filter_color", "9"), ("query_type_color", "and")]
    archive := ⟨none, none, some ("pa_color", 5)⟩
    selection := .none }

theorem followsSources_otherColour :
    ∃ filter, otherColour.toFilter .standard = .ok filter ∧ otherColour.FollowsSources filter ∧
      filter.attributes.get? "pa_color" = some ⟨[9], .all⟩ :=
  ⟨_, rfl, followsSources rfl, by decide +kernel⟩

/-- The terms of every taxonomy that parameters ask for are those of one that does. -/
def ParamsPrevail (request : Request) (filter : Filter) : Prop :=
  ∀ taxonomy terms, filter.attributes.get? taxonomy = some terms →
    (∃ name param, request.AsksFor taxonomy name param) →
    ∃ name param, request.AsksFor taxonomy name param ∧ request.IsFilterOf name param terms

/-- The same, but the archive's taxonomy has a blank at its end. -/
def blankAfterColour : Request :=
  { params := SortedMap.ofList [("filter_color", "9")]
    archive := ⟨none, none, some ("pa_color ", 5)⟩
    selection := .none }

/-- The parameters do not always prevail: a blank after the archive's taxonomy puts it behind that of
the parameter. -/
theorem not_forall_paramsPrevail :
    ¬ ∀ (request : Request) (settings : Settings) (filter : Filter),
      request.toFilter settings = .ok filter → request.ParamsPrevail filter := by
  intro h
  have hprevail := h blankAfterColour .standard _ rfl "pa_color" ⟨[5], .any⟩ (by decide +kernel)
    ⟨"color", ("filter_color", "9"), by decide +kernel, by decide +kernel, by decide +kernel, 9,
      by decide +kernel, by decide⟩
  obtain ⟨name, param, hasks, hfilter⟩ := hprevail
  obtain rfl : param = ("filter_color", "9") := by
    have hparam := hasks.present
    simpa [blankAfterColour, SortedMap.ofList, SortedMap.insert, SortedMap.insertEntry,
      SortedMap.empty] using hparam
  have hfive := ((hfilter.mem_iff 5).1 (List.mem_singleton_self 5)).1
  exact absurd hfive (by decide +kernel)

end Request

end Storefront
