import Storefront.Proofs.Request.Precedence

/-!
# Parameters that say nothing

What stands in an address is read leniently: a parameter in which nothing usable is found should be as
if it were not there. Where the values are single ones it is. But the terms of an attribute are read
in two steps. A parameter on an attribute takes the place of whatever was said of its taxonomy as soon
as it names *numbers*; only the normal form drops those that are not positive:

| what the parameter names | merged | in normal form |
|---|---|---|
| no number | nothing changes | nothing changes |
| numbers, none of them positive | the terms of the taxonomy are replaced | nothing is left of the taxonomy |
| positive numbers among others | the terms of the taxonomy are replaced | the positive ones |

So `filter_color=0` on the page of a color shows things of all colors. `Request.Displaces` says when
this happens: the parameter is the last one on its taxonomy, something usable is said of the taxonomy
by another parameter or the archive, and the archive does not say the same under another spelling.
In every other case the parameter is as if it were absent (`Request.toFilter_withParam_iff`).
-/

namespace Storefront

open Text

namespace Filter

/-! ### What spellings give to the normal form -/

variable {attributes others : SortedMap String TermFilter} {taxonomy : String} {terms : TermFilter}

/-- What the normal form is given by one spelling of a taxonomy. -/
def given? (attributes : SortedMap String TermFilter) (spelling : String) :
    Option (String × TermFilter) :=
  (attributes.get? spelling).bind fun raw => normalPair? (spelling, raw)

theorem given?_eq_some_iff {spelling : String} :
    given? attributes spelling = some (taxonomy, terms) ↔
      ∃ raw, attributes.get? spelling = some raw ∧ taxonomy ≠ "" ∧ terms.terms ≠ [] ∧
        trim spelling = taxonomy ∧ positiveTerms raw = terms := by
  rw [given?, Option.bind_eq_some_iff]
  exact exists_congr fun raw => and_congr_right fun _ => normalPair?_eq_some_iff

/-- **The normal form has what the last spelling gives.** -/
theorem get?_normalAttributes_eq_some_iff :
    (normalAttributes attributes).get? taxonomy = some terms ↔
      ∃ spelling, given? attributes spelling = some (taxonomy, terms) ∧
        ∀ other, spelling < other → ∀ entry ∈ given? attributes other, entry.1 ≠ taxonomy := by
  rw [get?_normalAttributes_iff]
  constructor
  · rintro ⟨spelling, raw, hget, hnormal, hlast⟩
    refine ⟨spelling, Option.bind_eq_some_iff.2 ⟨raw, hget, hnormal⟩, ?_⟩
    intro other hlt entry hentry
    obtain ⟨value, hvalue, hpair⟩ := Option.bind_eq_some_iff.1 hentry
    exact hlast other value hvalue hlt entry hpair
  · rintro ⟨spelling, hgiven, hlast⟩
    obtain ⟨raw, hget, hnormal⟩ := Option.bind_eq_some_iff.1 hgiven
    refine ⟨spelling, raw, hget, hnormal, ?_⟩
    intro other value hvalue hlt entry hentry
    exact hlast other hlt entry (Option.bind_eq_some_iff.2 ⟨value, hvalue, hentry⟩)

/-- What is given under one name decides what the normal form has for it. -/
theorem get?_normalAttributes_congr
    (h : ∀ spelling terms, given? attributes spelling = some (taxonomy, terms) ↔
      given? others spelling = some (taxonomy, terms)) :
    (normalAttributes attributes).get? taxonomy = (normalAttributes others).get? taxonomy := by
  have hnone : ∀ spelling, (∀ entry ∈ given? attributes spelling, entry.1 ≠ taxonomy) ↔
      ∀ entry ∈ given? others spelling, entry.1 ≠ taxonomy := by
    intro spelling
    constructor
    · rintro hne ⟨name, value⟩ hentry rfl
      exact hne _ ((h spelling value).2 hentry) rfl
    · rintro hne ⟨name, value⟩ hentry rfl
      exact hne _ ((h spelling value).1 hentry) rfl
  refine Option.ext fun value => ?_
  rw [get?_normalAttributes_eq_some_iff, get?_normalAttributes_eq_some_iff]
  simp only [h, hnone]

/-- A spelling gives something under a name. -/
def GivesUnder (attributes : SortedMap String TermFilter) (spelling taxonomy : String) : Prop :=
  ∃ entry ∈ given? attributes spelling, entry.1 = taxonomy

/-- Where a later spelling gives something, what the taxonomy's own gives does not count. -/
theorem get?_normalAttributes_of_later
    (hother : ∀ spelling, spelling ≠ taxonomy → given? others spelling = given? attributes spelling)
    (hsilent : given? others taxonomy = none) {later : String} (hlt : taxonomy < later)
    (hlater : GivesUnder attributes later taxonomy) :
    (normalAttributes others).get? taxonomy = (normalAttributes attributes).get? taxonomy := by
  obtain ⟨entry, hentry, hname⟩ := hlater
  have hlatest : given? others later = given? attributes later := hother later fun heq => by
    subst heq
    exact String.lt_irrefl _ hlt
  refine Option.ext fun terms => ?_
  rw [get?_normalAttributes_eq_some_iff, get?_normalAttributes_eq_some_iff]
  constructor
  · rintro ⟨spelling, hgiven, hlast⟩
    have hspelling : spelling ≠ taxonomy := by
      rintro rfl
      rw [hsilent] at hgiven
      cases hgiven
    refine ⟨spelling, hother spelling hspelling ▸ hgiven, fun next hnext other hgives => ?_⟩
    by_cases heq : next = taxonomy
    · subst heq
      exact absurd hname (hlast later (String.lt_trans hnext hlt) entry (hlatest ▸ hentry))
    · exact hlast next hnext other (hother next heq ▸ hgives)
  · rintro ⟨spelling, hgiven, hlast⟩
    have hspelling : spelling ≠ taxonomy := by
      rintro rfl
      exact hlast later hlt entry hentry hname
    refine ⟨spelling, hother spelling hspelling ▸ hgiven, fun next hnext other hgives => ?_⟩
    by_cases heq : next = taxonomy
    · subst heq
      rw [hsilent] at hgives
      cases hgives
    · exact hlast next hnext other (hother next heq ▸ hgives)

/-- **A spelling that gives nothing any more** is missed in the normal form exactly if it gave
something that counted and no other spelling gives the same. -/
theorem normalAttributes_eq_iff_of_silenced (htrim : trim taxonomy = taxonomy)
    (hother : ∀ spelling, spelling ≠ taxonomy → given? others spelling = given? attributes spelling)
    (hsilent : given? others taxonomy = none) :
    normalAttributes others = normalAttributes attributes ↔
      ∀ terms, given? attributes taxonomy = some (taxonomy, terms) →
        (∃ later, taxonomy < later ∧ GivesUnder attributes later taxonomy) ∨
          (normalAttributes others).get? taxonomy = some terms := by
  -- without a later spelling, what the taxonomy's own gives is what counts
  have hown : (¬ ∃ later, taxonomy < later ∧ GivesUnder attributes later taxonomy) →
      ∀ terms, given? attributes taxonomy = some (taxonomy, terms) →
        (normalAttributes attributes).get? taxonomy = some terms := by
    intro hlast terms hgiven
    refine get?_normalAttributes_eq_some_iff.2 ⟨taxonomy, hgiven, ?_⟩
    intro later hlt entry hentry hname
    exact hlast ⟨later, hlt, entry, hentry, hname⟩
  constructor
  · intro heq terms hgiven
    refine or_iff_not_imp_left.2 fun hlast => ?_
    rw [heq]
    exact hown hlast terms hgiven
  · intro h
    refine SortedMap.ext_get? fun name => ?_
    by_cases hname : name = taxonomy
    · rw [hname]
      by_cases hlater : ∃ later, taxonomy < later ∧ GivesUnder attributes later taxonomy
      · obtain ⟨later, hlt, hgives⟩ := hlater
        exact get?_normalAttributes_of_later hother hsilent hlt hgives
      cases hgiven : given? attributes taxonomy with
      | none =>
        refine get?_normalAttributes_congr fun spelling terms => ?_
        by_cases hspelling : spelling = taxonomy
        · rw [hspelling, hsilent, hgiven]
        · rw [hother spelling hspelling]
      | some entry =>
        obtain ⟨own, terms⟩ := entry
        obtain ⟨_, -, -, -, hspells, -⟩ := given?_eq_some_iff.1 hgiven
        obtain rfl : taxonomy = own := htrim.symm.trans hspells
        rw [hown hlater terms hgiven]
        exact (h terms hgiven).resolve_left hlater
    · -- the spelling gave nothing under another name
      refine get?_normalAttributes_congr fun spelling terms => ?_
      by_cases hspelling : spelling = taxonomy
      · rw [hspelling, hsilent]
        refine ⟨nofun, fun hgiven => ?_⟩
        obtain ⟨_, -, -, -, hspells, -⟩ := given?_eq_some_iff.1 hgiven
        exact absurd (hspells.symm.trans htrim) hname
      · rw [hother spelling hspelling]

end Filter

namespace Request

variable {request : Request} {key value : String}

/-! ### One more parameter -/

/-- The request with one more parameter. -/
def withParam (request : Request) (key value : String) : Request :=
  { request with params := request.params.insert key value }

theorem get?_params_withParam (name : String) :
    (request.withParam key value).params.get? name =
      if name = key then some value else request.params.get? name :=
  SortedMap.get?_insert ..

/-- **A parameter says nothing**: whatever it is read for, there is nothing usable in it. A text and a
flag are usable unless they are blank, since a flag that does not say yes says no. -/
structure SaysNothing (key value : String) : Prop where
  text : key = "s" → trimmed? value = none
  inStockFirst : key = "in_stock_first" → trimmed? value = none
  minPrice : key = "min_price" → (trimmed? value).bind readNumber? = none
  maxPrice : key = "max_price" → (trimmed? value).bind readNumber? = none
  rating : key = "rating_filter" → (trimmed? value).bind readRating? = none
  stock : key = "stock_status" → (trimmed? value).bind StockStatus.ofText? = none
  orderKey : key = "orderby" → (trimmed? value).bind SortOrder.keyOfText? = none
  direction : key = "order" → (trimmed? value).bind Direction.ofText? = none
  page : key = "paged" → ∀ n ∈ (trimmed? value).bind readPage?, n = 0
  pageSize : key = "per_page" → ∀ n ∈ (trimmed? value).bind readPage?, n = 0
  combinator : ∀ param name, attributeName? param = some name → key = "query_type_" ++ name →
    ∀ word ∈ trimmed? value, Combinator.ofText word = .any
  terms : ∀ name ∈ attributeName? key, ∀ id ∈ readIds value, id ≤ 0

theorem param?_withParam (name : String) :
    (request.withParam key value).param? name =
      if name = key then trimmed? value else request.param? name := by
  rw [param?, get?_params_withParam]
  split_ifs <;> rfl

theorem param?_of_new (hnew : request.params.get? key = none) : request.param? key = none := by
  rw [param?, hnew]
  rfl

/-- Where the new parameter says nothing, the same is said as before. -/
theorem param?_withParam_of_new {name : String} (hnew : request.params.get? key = none)
    (h : key = name → trimmed? value = none) :
    (request.withParam key value).param? name = request.param? name := by
  rw [param?_withParam]
  split_ifs with hname
  · rw [h hname.symm, hname, param?_of_new hnew]
  · rfl

/-- Where nothing can be read from the new parameter, the same is read as before. -/
theorem bind_param?_withParam {α : Type} {read : String → Option α} {name : String}
    (hnew : request.params.get? key = none)
    (h : key = name → (trimmed? value).bind read = none) :
    ((request.withParam key value).param? name).bind read = (request.param? name).bind read := by
  rw [param?_withParam]
  split_ifs with hname
  · rw [h hname.symm, hname, param?_of_new hnew]
    rfl
  · rfl

/-- A page or a page size of nought is as if none were asked for, if it is taken for none. -/
theorem page_withParam {name : String} (taken : Option Nat → Nat)
    (htaken : taken (some 0) = taken none) (hnew : request.params.get? key = none)
    (h : key = name → ∀ n ∈ (trimmed? value).bind readPage?, n = 0) :
    taken (((request.withParam key value).param? name).bind readPage?) =
      taken ((request.param? name).bind readPage?) := by
  rw [param?_withParam]
  split_ifs with hname
  · rw [hname, param?_of_new hnew]
    cases hread : (trimmed? value).bind readPage? with
    | none => rfl
    | some n =>
      rw [h hname.symm n hread]
      exact htaken
  · rfl

/-- An order is read from each of its two parameters by itself. -/
theorem bind_ofTexts? (key direction : Option String) :
    (key.bind fun text => SortOrder.ofTexts? text direction) =
      (key.bind SortOrder.keyOfText?).map fun (key, implied) =>
        ⟨key, (implied.or (direction.bind Direction.ofText?)).getD key.naturalDirection⟩ := by
  cases key with
  | none => rfl
  | some text => rw [Option.bind_some, Option.bind_some, SortOrder.ofTexts?]

/-- The order by the two parameters stays the same. -/
theorem order_withParam (hnew : request.params.get? key = none) (h : SaysNothing key value) :
    (request.withParam key value).order = request.order := by
  rw [order, order, bind_ofTexts?, bind_ofTexts?, bind_param?_withParam hnew h.orderKey,
    bind_param?_withParam hnew h.direction]
  rfl

/-- Every attribute has the combinator that it had. -/
theorem combinatorOf_withParam (hnew : request.params.get? key = none) (h : SaysNothing key value)
    {param name : String} (hname : attributeName? param = some name) :
    (request.withParam key value).combinatorOf name = request.combinatorOf name := by
  rw [combinatorOf, combinatorOf, param?_withParam]
  split_ifs with hkey
  · rw [hkey, param?_of_new hnew]
    cases hword : trimmed? value with
    | none => rfl
    | some word => exact h.combinator param name hname hkey.symm word hword
  · rfl

/-! ### Attributes with one more parameter -/

theorem asked?_withParam (hnew : request.params.get? key = none) (h : SaysNothing key value)
    (param : String × String) :
    (request.withParam key value).asked? param = request.asked? param := by
  rw [asked?, asked?]
  cases hname : attributeName? param.1 with
  | none => rfl
  | some name =>
    rw [Option.bind_some, Option.bind_some, combinatorOf_withParam hnew h hname]

/-- **The last parameter on a taxonomy**: it asks for it, and none with a later name does. -/
theorem lastAsked?_eq_some_iff {taxonomy : String} {terms : TermFilter} :
    request.lastAsked? taxonomy = some terms ↔
      ∃ name text, request.params.get? name = some text ∧
        request.asked? (name, text) = some (taxonomy, terms) ∧
        ∀ other more, request.params.get? other = some more → name < other →
          ∀ entry ∈ request.asked? (other, more), entry.1 ≠ taxonomy := by
  rw [lastAsked?, SortedMap.find?_filterMap_entries_iff]
  simp only [compare_eq_lt_iff]

/-- A new parameter becomes the last one on a taxonomy. -/
structure TakesOver (request : Request) (key value taxonomy : String) : Prop where
  asks : ∃ name, attributeName? key = some name ∧ Taxonomy.ofAttribute name = taxonomy ∧
    readIds value ≠ []
  last : ∀ other more, request.params.get? other = some more → key < other →
    ∀ entry ∈ request.asked? (other, more), entry.1 ≠ taxonomy

/-- Then all that counts of the parameters on the taxonomy are its terms. -/
theorem TakesOver.lastAsked? {taxonomy : String} (hnew : request.params.get? key = none)
    (h : SaysNothing key value) (htakes : request.TakesOver key value taxonomy) :
    ∃ combinator, (request.withParam key value).lastAsked? taxonomy =
      some ⟨readIds value, combinator⟩ := by
  obtain ⟨name, hname, htaxonomy, hids⟩ := htakes.asks
  refine ⟨request.combinatorOf name, lastAsked?_eq_some_iff.2 ⟨key, value, ?_, ?_, ?_⟩⟩
  · rw [get?_params_withParam, if_pos rfl]
  · rw [asked?_withParam hnew h]
    exact asked?_eq_some_iff.2 ⟨name, hname, htaxonomy, hids, rfl⟩
  · intro other more hother hlt
    rw [asked?_withParam hnew h]
    rw [get?_params_withParam, if_neg fun heq => String.lt_irrefl _ (heq ▸ hlt)] at hother
    exact htakes.last other more hother hlt

/-- Otherwise the last parameter on the taxonomy stays the last. -/
theorem lastAsked?_withParam {taxonomy : String} (hnew : request.params.get? key = none)
    (h : SaysNothing key value) (htakes : ¬ request.TakesOver key value taxonomy) :
    (request.withParam key value).lastAsked? taxonomy = request.lastAsked? taxonomy := by
  refine Option.ext fun terms => ?_
  rw [lastAsked?_eq_some_iff, lastAsked?_eq_some_iff]
  simp only [asked?_withParam hnew h]
  -- a parameter of the request is not the new one
  have hold : ∀ {name text}, request.params.get? name = some text → name ≠ key := by
    rintro name text hget rfl
    rw [hnew] at hget
    cases hget
  have hkept : ∀ {name text}, request.params.get? name = some text →
      (request.withParam key value).params.get? name = some text := by
    intro name text hget
    rw [get?_params_withParam, if_neg (hold hget), hget]
  constructor
  · rintro ⟨name, text, hget, hasked, hlast⟩
    have hlast' : ∀ other more, request.params.get? other = some more → name < other →
        ∀ entry ∈ request.asked? (other, more), entry.1 ≠ taxonomy :=
      fun other more hother => hlast other more (hkept hother)
    rw [get?_params_withParam] at hget
    split_ifs at hget with hname
    · subst hname
      obtain rfl := Option.some.inj hget
      obtain ⟨called, hcalled, htaxonomy, hids, -⟩ := asked?_eq_some_iff.1 hasked
      exact absurd ⟨⟨called, hcalled, htaxonomy, hids⟩, hlast'⟩ htakes
    · exact ⟨name, text, hget, hasked, hlast'⟩
  · rintro ⟨name, text, hget, hasked, hlast⟩
    refine ⟨name, text, hkept hget, hasked, fun other more hother hlt entry hentry hsame => ?_⟩
    rw [get?_params_withParam] at hother
    split_ifs at hother with hkey
    · subst hkey
      obtain rfl := Option.some.inj hother
      obtain ⟨own, terms'⟩ := entry
      obtain ⟨called, hcalled, htaxonomy, hids, -⟩ := asked?_eq_some_iff.1 hentry
      refine htakes ⟨⟨called, hcalled, htaxonomy.trans hsame, hids⟩, fun next text hnext hlater => ?_⟩
      exact hlast next text hnext (String.lt_trans hlt hlater)
    · exact hlast other more hother hlt entry hentry hsame

/-- Numbers none of which is positive give nothing to the normal form. -/
theorem TakesOver.given? {taxonomy : String} (hnew : request.params.get? key = none)
    (h : SaysNothing key value) (htakes : request.TakesOver key value taxonomy) :
    Filter.given? (request.withParam key value).attributes taxonomy = none := by
  obtain ⟨combinator, hlast⟩ := htakes.lastAsked? hnew h
  obtain ⟨name, hname, -, -⟩ := htakes.asks
  rw [Option.eq_none_iff_forall_ne_some]
  rintro ⟨own, terms⟩ hgiven
  obtain ⟨raw, hget, -, hne, -, rfl⟩ := Filter.given?_eq_some_iff.1 hgiven
  rw [get?_attributes, hlast, Option.some_or, Option.some.injEq] at hget
  subst hget
  obtain ⟨id, hmem, hpositive⟩ := Filter.positiveTerms_ne_nil_iff.1 hne
  exact absurd (h.terms name hname id hmem) (Int.not_le.2 hpositive)

/-- Every other spelling gives what it gave. -/
theorem given?_withParam {spelling : String} (hnew : request.params.get? key = none)
    (h : SaysNothing key value) (htakes : ¬ request.TakesOver key value spelling) :
    Filter.given? (request.withParam key value).attributes spelling =
      Filter.given? request.attributes spelling := by
  rw [Filter.given?, Filter.given?, get?_attributes, get?_attributes,
    lastAsked?_withParam hnew h htakes]
  rfl

/-- The archive says a term of a taxonomy under another spelling. -/
structure SpeltApart (request : Request) (taxonomy spelling : String) (term : Int) : Prop where
  archive : request.archive.attributeTerm = some (spelling, term)
  spells : trim spelling = taxonomy
  apart : spelling ≠ taxonomy
  positive : 0 < term

/-- Only the archive spells a taxonomy in another way than the parameters do. -/
theorem given?_apart_iff {taxonomy spelling : String} {terms : TermFilter} (hne : taxonomy ≠ "")
    (hapart : spelling ≠ taxonomy) :
    Filter.given? request.attributes spelling = some (taxonomy, terms) ↔
      ∃ term, request.SpeltApart taxonomy spelling term ∧ terms = ⟨[term], .any⟩ := by
  rw [Filter.given?_eq_some_iff]
  have hget : ∀ raw, trim spelling = taxonomy → (request.attributes.get? spelling = some raw ↔
      ∃ term, request.archive.attributeTerm = some (spelling, term) ∧ raw = ⟨[term], .any⟩) := by
    intro raw hspells
    rw [get?_attributes, lastAsked?_eq_none fun htrim => hapart (htrim.symm.trans hspells),
      Option.none_or]
    exact get?_archiveAttributes
  constructor
  · rintro ⟨raw, hraw, -, hterms, hspells, rfl⟩
    obtain ⟨term, harchive, rfl⟩ := (hget raw hspells).1 hraw
    obtain ⟨id, hmem, hpositive⟩ := Filter.positiveTerms_ne_nil_iff.1 hterms
    rw [List.mem_singleton.1 hmem] at hpositive
    exact ⟨term, ⟨harchive, hspells, hapart, hpositive⟩,
      Filter.positiveTerms_singleton hpositive _⟩
  · rintro ⟨term, harchive, rfl⟩
    exact ⟨⟨[term], .any⟩, (hget _ harchive.spells).2 ⟨term, harchive.archive, rfl⟩, hne,
      List.cons_ne_nil term [], harchive.spells,
      Filter.positiveTerms_singleton harchive.positive _⟩

/-! ### What a new parameter displaces -/

theorem ofAttribute_ne_empty (name : String) : Taxonomy.ofAttribute name ≠ "" := by
  intro hempty
  rw [Taxonomy.ofAttribute] at hempty
  split_ifs at hempty with hmark
  · subst hempty
    exact absurd hmark (by decide)
  · simp at hempty

theorem TakesOver.ne_empty {taxonomy : String} (htakes : request.TakesOver key value taxonomy) :
    taxonomy ≠ "" := by
  obtain ⟨name, -, rfl, -⟩ := htakes.asks
  exact ofAttribute_ne_empty name

theorem TakesOver.trim_eq {taxonomy : String} (htakes : request.TakesOver key value taxonomy) :
    trim taxonomy = taxonomy := by
  obtain ⟨name, hname, rfl, -⟩ := htakes.asks
  exact trim_ofAttribute hname

/-- A parameter takes over no more than one taxonomy. -/
theorem TakesOver.unique {taxonomy other : String} (htakes : request.TakesOver key value taxonomy)
    (hother : request.TakesOver key value other) : other = taxonomy := by
  obtain ⟨name, hname, rfl, -⟩ := htakes.asks
  obtain ⟨called, hcalled, rfl, -⟩ := hother.asks
  rw [Option.some.inj (hcalled.symm.trans hname)]

/-- Then what is left of the taxonomy is what the archive says under another spelling. -/
theorem TakesOver.given?_eq_some_iff {taxonomy spelling : String} {terms : TermFilter}
    (hnew : request.params.get? key = none) (h : SaysNothing key value)
    (htakes : request.TakesOver key value taxonomy) :
    Filter.given? (request.withParam key value).attributes spelling = some (taxonomy, terms) ↔
      ∃ term, request.SpeltApart taxonomy spelling term ∧ terms = ⟨[term], .any⟩ := by
  by_cases hspelling : spelling = taxonomy
  · subst hspelling
    rw [htakes.given? hnew h]
    refine ⟨nofun, ?_⟩
    rintro ⟨term, harchive, -⟩
    exact absurd rfl harchive.apart
  · rw [given?_withParam hnew h fun hover => hspelling (htakes.unique hover)]
    exact given?_apart_iff htakes.ne_empty hspelling

/-- **A new parameter displaces what was said of a taxonomy**: it becomes the last one on it, there
was something usable, and the archive does not say the same under a spelling of its own. -/
structure Displaces (request : Request) (key value taxonomy : String) : Prop where
  takesOver : request.TakesOver key value taxonomy
  stands : ∃ raw, request.attributes.get? taxonomy = some raw ∧ (∃ id ∈ raw.terms, 0 < id) ∧
    ∀ spelling term, request.SpeltApart taxonomy spelling term →
      spelling < taxonomy ∧ Filter.positiveTerms raw ≠ ⟨[term], .any⟩

/-- Only the archive can have a spelling of the taxonomy that comes later. -/
theorem TakesOver.later_iff {taxonomy : String} (htakes : request.TakesOver key value taxonomy) :
    (∃ later, taxonomy < later ∧ Filter.GivesUnder request.attributes later taxonomy) ↔
      ∃ spelling term, request.SpeltApart taxonomy spelling term ∧ taxonomy < spelling := by
  constructor
  · rintro ⟨later, hlt, ⟨own, terms⟩, hentry, rfl⟩
    have hlater : later ≠ own := by
      rintro rfl
      exact String.lt_irrefl _ hlt
    obtain ⟨term, harchive, -⟩ := (given?_apart_iff htakes.ne_empty hlater).1 hentry
    exact ⟨later, term, harchive, hlt⟩
  · rintro ⟨spelling, term, harchive, hlt⟩
    exact ⟨spelling, hlt, _, (given?_apart_iff htakes.ne_empty harchive.apart).2
      ⟨term, harchive, rfl⟩, rfl⟩

/-- With the parameter only the archive's term can stand for the taxonomy. -/
theorem TakesOver.get?_normalAttributes_iff {taxonomy : String} {terms : TermFilter}
    (hnew : request.params.get? key = none) (h : SaysNothing key value)
    (htakes : request.TakesOver key value taxonomy) :
    (Filter.normalAttributes (request.withParam key value).attributes).get? taxonomy =
        some terms ↔
      ∃ spelling term, request.SpeltApart taxonomy spelling term ∧ terms = ⟨[term], .any⟩ := by
  rw [Filter.get?_normalAttributes_eq_some_iff]
  refine exists_congr fun spelling => ?_
  rw [htakes.given?_eq_some_iff hnew h]
  refine and_iff_left_of_imp ?_
  rintro ⟨term, harchive, -⟩ next hlt ⟨own, more⟩ hnext rfl
  -- the archive has one spelling only
  obtain ⟨_, hsecond, -⟩ := (htakes.given?_eq_some_iff hnew h).1 hnext
  have hsame : next = spelling :=
    congrArg Prod.fst (Option.some.inj (hsecond.archive.symm.trans harchive.archive))
  exact String.lt_irrefl _ (hsame ▸ hlt)

/-- A parameter that takes over a taxonomy and says nothing is missed in the normal form exactly if it
displaces something. -/
theorem TakesOver.normalAttributes_eq_iff {taxonomy : String}
    (hnew : request.params.get? key = none) (h : SaysNothing key value)
    (htakes : request.TakesOver key value taxonomy) :
    Filter.normalAttributes (request.withParam key value).attributes =
        Filter.normalAttributes request.attributes ↔
      ¬ request.Displaces key value taxonomy := by
  rw [Filter.normalAttributes_eq_iff_of_silenced htakes.trim_eq
    (fun spelling hspelling => given?_withParam hnew h fun hover =>
      hspelling (htakes.unique hover)) (htakes.given? hnew h), htakes.later_iff]
  constructor
  · rintro hsame ⟨-, raw, hget, hpositive, hstands⟩
    have hgiven := Filter.given?_eq_some_iff.2
      ⟨raw, hget, htakes.ne_empty, Filter.positiveTerms_ne_nil_iff.2 hpositive, htakes.trim_eq, rfl⟩
    rcases hsame _ hgiven with ⟨spelling, term, harchive, hlt⟩ | hkept
    · exact String.lt_asymm hlt (hstands spelling term harchive).1
    · obtain ⟨spelling, term, harchive, hterms⟩ := (htakes.get?_normalAttributes_iff hnew h).1 hkept
      exact (hstands spelling term harchive).2 hterms
  · intro hnone terms hgiven
    obtain ⟨raw, hget, -, hterms, -, rfl⟩ := Filter.given?_eq_some_iff.1 hgiven
    by_contra hmissed
    rw [not_or, htakes.get?_normalAttributes_iff hnew h] at hmissed
    obtain ⟨hlater, hother⟩ := hmissed
    refine hnone ⟨htakes, raw, hget, Filter.positiveTerms_ne_nil_iff.1 hterms, ?_⟩
    intro spelling term harchive
    refine ⟨?_, fun heq => hother ⟨spelling, term, harchive, heq⟩⟩
    by_contra hge
    refine hlater ⟨spelling, term, harchive, ?_⟩
    by_contra hle
    exact harchive.apart (String.le_antisymm (String.not_lt.1 hle) (String.not_lt.1 hge))

/-- The attributes stay the same exactly if the parameter displaces nothing. -/
theorem normalAttributes_withParam_iff (hnew : request.params.get? key = none)
    (h : SaysNothing key value) :
    Filter.normalAttributes (request.withParam key value).attributes =
        Filter.normalAttributes request.attributes ↔
      ∀ taxonomy, ¬ request.Displaces key value taxonomy := by
  by_cases htakes : ∃ taxonomy, request.TakesOver key value taxonomy
  · obtain ⟨taxonomy, htakes⟩ := htakes
    rw [htakes.normalAttributes_eq_iff hnew h]
    constructor
    · intro hnot other hdisplaces
      obtain rfl := htakes.unique hdisplaces.takesOver
      exact hnot hdisplaces
    · exact fun hnot => hnot taxonomy
  · refine iff_of_true ?_ fun taxonomy hdisplaces => htakes ⟨taxonomy, hdisplaces.takesOver⟩
    refine SortedMap.ext_get? fun taxonomy => Filter.get?_normalAttributes_congr fun spelling _ => ?_
    rw [given?_withParam hnew h fun hover => htakes ⟨spelling, hover⟩]

/-! ### The whole filter -/

/-- Everything but the attributes stays the same. -/
theorem normalize_merge_withParam (hnew : request.params.get? key = none)
    (h : SaysNothing key value) (inStockFirst : Bool) (defaultPageSize maxPageSize : Nat) :
    { (request.withParam key value).merge with inStockFirst := inStockFirst }.normalize
        defaultPageSize maxPageSize =
      { ({ request.merge with inStockFirst := inStockFirst }.normalize defaultPageSize
          maxPageSize) with
        attributes := Filter.normalAttributes (request.withParam key value).attributes } := by
  have hpage : max ((((request.withParam key value).param? "paged").bind readPage?).getD 1) 1 =
      max (((request.param? "paged").bind readPage?).getD 1) 1 :=
    page_withParam (fun page => max (page.getD 1) 1) rfl hnew h.page
  have hsize : (((request.withParam key value).param? "per_page").bind readPage?).getD 0 =
      ((request.param? "per_page").bind readPage?).getD 0 :=
    page_withParam (fun size => size.getD 0) rfl hnew h.pageSize
  simp only [Filter.normalize, merge, param?_withParam_of_new hnew h.text,
    bind_param?_withParam hnew h.minPrice, bind_param?_withParam hnew h.maxPrice,
    bind_param?_withParam hnew h.rating, bind_param?_withParam hnew h.stock,
    order_withParam hnew h, hpage, hsize]
  rfl

theorem asksInStockFirst_withParam (hnew : request.params.get? key = none)
    (h : SaysNothing key value) (settings : Settings) :
    (request.withParam key value).asksInStockFirst settings =
      request.asksInStockFirst settings := by
  rw [asksInStockFirst, asksInStockFirst, param?_withParam_of_new hnew h.inStockFirst]

/-- **A parameter in which there is nothing usable is as if it were absent** exactly if it displaces
nothing that was said of a taxonomy, or the request is refused anyway. -/
theorem toFilter_withParam_iff {settings : Settings} (hnew : request.params.get? key = none)
    (h : SaysNothing key value) :
    (request.withParam key value).toFilter settings = request.toFilter settings ↔
      (∃ fault, request.toFilter settings = .error fault) ∨
        ∀ taxonomy, ¬ request.Displaces key value taxonomy := by
  have htypes : (request.withParam key value).postTypes = request.postTypes := rfl
  rw [toFilter, toFilter, htypes]
  split
  · exact iff_of_true rfl (.inl ⟨_, rfl⟩)
  · dsimp only
    rw [asksInStockFirst_withParam hnew h, normalize_merge_withParam hnew h,
      ← normalAttributes_withParam_iff hnew h, Except.ok.injEq]
    constructor
    · exact fun heq => .inr (congrArg Filter.attributes heq)
    · rintro (⟨fault, hfault⟩ | hsame)
      · cases hfault
      · rw [hsame]
        rfl

/-- A parameter on an attribute is read for nothing else. -/
theorem saysNothing_of_attribute {name : String} (hname : attributeName? key = some name)
    (h : ∀ id ∈ readIds value, id ≤ 0) : SaysNothing key value := by
  have hother : ∀ {other : String} {p : Prop}, attributeName? other = none → key = other → p := by
    rintro other p hnone rfl
    rw [hname] at hnone
    cases hnone
  have hcombinator : ∀ called, attributeName? ("query_type_" ++ called) = none := by
    intro called
    rw [attributeName?, String.toList_append]
    rfl
  exact
    { text := hother (by decide)
      inStockFirst := hother (by decide)
      minPrice := hother (by decide)
      maxPrice := hother (by decide)
      rating := hother (by decide)
      stock := hother (by decide)
      orderKey := hother (by decide)
      direction := hother (by decide)
      page := hother (by decide)
      pageSize := hother (by decide)
      combinator := fun _ called _ => hother (hcombinator called)
      terms := fun _ _ => h }

/-- The page of a color, sorted by price. -/
def colorPage : Request :=
  { params := SortedMap.ofList [("orderby", "price")]
    archive := ⟨none, none, some ("pa_color", 5)⟩
    selection := .none }

/-- Sizes that are none are as if they were not asked for. -/
theorem toFilter_withParam_sizeless :
    colorPage.params.get? "filter_size" = none ∧ SaysNothing "filter_size" "0, -3, x" ∧
      (colorPage.withParam "filter_size" "0, -3, x").toFilter .standard =
        colorPage.toFilter .standard := by
  have hnew : colorPage.params.get? "filter_size" = none := by decide
  have hsays : SaysNothing "filter_size" "0, -3, x" :=
    saysNothing_of_attribute (show attributeName? "filter_size" = some "size" by decide)
      (by decide)
  refine ⟨hnew, hsays, (toFilter_withParam_iff hnew hsays).2 (.inr fun taxonomy hdisplaces => ?_)⟩
  obtain ⟨name, hname, rfl, -⟩ := hdisplaces.takesOver.asks
  obtain rfl : "size" = name := Option.some.inj hname
  have hunsaid : colorPage.attributes.get? (Taxonomy.ofAttribute "size") = none := by decide
  obtain ⟨raw, hraw, -⟩ := hdisplaces.stands
  rw [hunsaid] at hraw
  cases hraw

/-- But colors that are none take away the color of the page. -/
theorem not_forall_toFilter_withParam :
    ¬ ∀ (request : Request) (settings : Settings) (key value : String),
      request.params.get? key = none → SaysNothing key value →
        (request.withParam key value).toFilter settings = request.toFilter settings := by
  intro h
  have hsame := h colorPage .standard "filter_color" "0" (by decide)
    (saysNothing_of_attribute (show attributeName? "filter_color" = some "color" by decide)
      (by decide))
  have hattributes := congrArg Filter.attributes (Except.ok.inj hsame)
  exact absurd hattributes (by decide +kernel)

end Request

end Storefront
