import Storefront.Proofs.Request.Precedence
import Storefront.Search.Run

/-!
# For which types everything in stock comes first

Everything in stock comes first only where every type that is searched has a stock status. This is
decided twice: once when a request becomes a filter, by the types *as they are asked for*, and once
more when the filter is searched by, on the types in normal form. The normal form trims and orders
the names, and puts a default in the place of none at all:

| types asked for | in normal form | when the request is read | when it is searched by |
|---|---|---|---|
| none chosen | products | decided for products | decided for products |
| some, each of them the name of a type | the same types (`mem_namesOr`) | decided for these | decided for these |
| chosen, but none of them | products | never granted | decided for products |

So the filter of a request says what is decided for its own types, unless the selection chooses from
no type at all (`Request.inStockFirst_iff`). What is granted when the request is read is granted
again when it is searched by (`Request.inStockFirst_prepared`), and never more.
-/

namespace Storefront

open Text

namespace Request

/-! ### Names of types -/

/-- The characters of the name of a type are not blank. -/
theorem isBlank_of_mem_postType {name : String} (h : isPostTypeName name = true) :
    ∀ c ∈ name.toList, isBlank c = false := by
  intro c hc
  rw [isPostTypeName, Bool.and_eq_true, Bool.and_eq_true, List.all_eq_true] at h
  have hclass := h.2 c hc
  have hrange : (97 ≤ c.toNat ∧ c.toNat ≤ 122) ∨ (48 ≤ c.toNat ∧ c.toNat ≤ 57) ∨
      c.toNat = 95 ∨ c.toNat = 45 := by
    simp only [Bool.or_eq_true, decide_eq_true_eq] at hclass
    rcases hclass with ((hlower | hdigit) | rfl) | rfl
    · change (decide ('a'.val ≤ c.val) && decide (c.val ≤ 'z'.val)) = true at hlower
      rw [Bool.and_eq_true, decide_eq_true_eq, decide_eq_true_eq, UInt32.le_iff_toNat_le,
        UInt32.le_iff_toNat_le] at hlower
      exact .inl hlower
    · exact .inr (.inl (Char.isDigit_iff_toNat.1 hdigit))
    · exact .inr (.inr (.inl rfl))
    · exact .inr (.inr (.inr rfl))
  rw [← Bool.not_eq_true]
  simp only [isBlank, Bool.or_eq_true, Bool.and_eq_true, decide_eq_true_eq, beq_iff_eq]
  omega

/-- The name of a type is trimmed. -/
theorem trim_postType {name : String} (h : isPostTypeName name = true) : trim name = name := by
  have hblank := isBlank_of_mem_postType h
  rw [trim, trimChars_eq_self (fun c hc => hblank c (List.mem_of_mem_head? hc))
    (fun c hc => hblank c (List.mem_of_mem_getLast? hc)), String.ofList_toList]

/-- The name of a type is not empty. -/
theorem postType_ne_empty {name : String} (h : isPostTypeName name = true) : name ≠ "" := by
  rintro rfl
  exact absurd h (by decide)

end Request

/-- **The normal form of the names of types are the same types**, unless there is none. -/
theorem mem_namesOr {default name : String} {names : List String} (hne : names ≠ [])
    (h : ∀ name ∈ names, Request.isPostTypeName name = true) :
    name ∈ namesOr default names ↔ name ∈ names := by
  have hmem : ∀ name, name ∈ ascendingNames names ↔ name ∈ names := by
    intro name
    rw [mem_ascendingNames]
    constructor
    · rintro ⟨-, raw, hraw, rfl⟩
      rwa [Request.trim_postType (h raw hraw)]
    · intro hname
      exact ⟨Request.postType_ne_empty (h name hname), name, hname,
        Request.trim_postType (h name hname)⟩
  obtain ⟨first, hfirst⟩ := List.exists_mem_of_ne_nil _ hne
  rw [namesOr]
  split
  · rename_i hnil
    have hkept := (hmem first).2 hfirst
    rw [hnil] at hkept
    cases hkept
  · exact hmem name

theorem Settings.supportsStock_iff {settings : Settings} {postTypes : List String} :
    settings.supportsStock postTypes = true ↔
      postTypes ≠ [] ∧ ∀ postType ∈ postTypes, postType ∈ settings.stockTypes := by
  simp [supportsStock]

namespace Request

variable {request : Request} {settings : Settings} {filter : Filter}

/-! ### What is granted -/

/-- What is decided for the types of a filter: everything in stock is asked for first, and each of the
types has a stock status. -/
structure GrantsInStockFirst (request : Request) (settings : Settings) (filter : Filter) : Prop where
  asked : request.asksInStockFirst settings = true
  supported : ∀ postType ∈ filter.postTypes, postType ∈ settings.stockTypes

/-- **What a request decides by its types**, none of them refused: the filter has their normal form,
and everything in stock comes first where that is asked for and they have a stock status. -/
theorem postTypes_of_toFilter (h : request.toFilter settings = .ok filter) :
    (∀ name ∈ request.postTypes, isPostTypeName name = true) ∧
      filter.postTypes = namesOr "product" request.postTypes ∧
      (filter.inStockFirst = true ↔ request.asksInStockFirst settings = true ∧
        settings.supportsStock request.postTypes = true) := by
  rw [toFilter] at h
  split at h
  · cases h
  rename_i hvalid
  obtain rfl := Except.ok.inj h
  refine ⟨fun name hname => ?_, rfl, ?_⟩
  · simpa using List.find?_eq_none.1 hvalid name hname
  · exact Bool.and_eq_true_iff

/-- A filter is for the types that are asked for, if there are any. -/
theorem mem_postTypes_iff (h : request.toFilter settings = .ok filter)
    (hasked : request.postTypes ≠ []) {name : String} :
    name ∈ filter.postTypes ↔ name ∈ request.postTypes := by
  obtain ⟨hvalid, htypes, -⟩ := postTypes_of_toFilter h
  rw [htypes]
  exact mem_namesOr hasked hvalid

/-- There is no type among those that are asked for exactly if the selection chooses from none. -/
theorem postTypes_eq_nil_iff : request.postTypes = [] ↔ request.selection.postTypes = some [] := by
  rw [postTypes]
  cases request.selection.postTypes <;> simp

/-- **Everything in stock comes first exactly if that is decided for the types of the filter**, and
the selection does not choose from no type at all. -/
theorem inStockFirst_iff (h : request.toFilter settings = .ok filter) :
    filter.inStockFirst = true ↔
      request.GrantsInStockFirst settings filter ∧ request.selection.postTypes ≠ some [] := by
  obtain ⟨-, -, hgranted⟩ := postTypes_of_toFilter h
  rw [hgranted, Settings.supportsStock_iff, ne_eq, ne_eq, ← postTypes_eq_nil_iff]
  constructor
  · rintro ⟨hasks, hne, hsupported⟩
    refine ⟨⟨hasks, fun postType hmem => ?_⟩, hne⟩
    exact hsupported postType ((mem_postTypes_iff h hne).1 hmem)
  · rintro ⟨⟨hasks, hsupported⟩, hne⟩
    refine ⟨hasks, hne, fun postType hmem => ?_⟩
    exact hsupported postType ((mem_postTypes_iff h hne).2 hmem)

/-- A request for several types that asks for everything in stock first, one of the types twice. -/
def variationsFirst : Request :=
  { params := SortedMap.ofList [("in_stock_first", " Yes ")]
    archive := .none
    selection := { Selection.none with
      postTypes := some ["product_variation", "product", "product"] } }

/-- It is granted, for the two types that are left in normal form. -/
theorem inStockFirst_variationsFirst :
    ∃ filter, variationsFirst.toFilter .standard = .ok filter ∧ filter.inStockFirst = true ∧
      variationsFirst.GrantsInStockFirst .standard filter :=
  ⟨_, rfl, by decide +kernel, ((inStockFirst_iff rfl).1 (by decide +kernel)).1⟩

/-- A request that asks for everything in stock first and chooses from no type at all. -/
def noTypes : Request :=
  { params := SortedMap.ofList [("in_stock_first", "1")]
    archive := .none
    selection := { Selection.none with postTypes := some [] } }

/-- The filter of such a request is for products, and yet nothing is granted. -/
theorem not_forall_grantsInStockFirst :
    ¬ ∀ (request : Request) (settings : Settings) (filter : Filter),
      request.toFilter settings = .ok filter →
        (filter.inStockFirst = true ↔ request.GrantsInStockFirst settings filter) := by
  intro h
  have hgrants : noTypes.GrantsInStockFirst .standard
      ((noTypes.merge).normalize Settings.standard.defaultPageSize
        Settings.standard.maxPageSize) := by
    constructor
    · decide +kernel
    · intro postType hmem
      have htypes : namesOr "product" [] = ["product"] := by
        simp [namesOr, ascendingNames, dropRepeats]
      change postType ∈ namesOr "product" [] at hmem
      rw [htypes, List.mem_singleton] at hmem
      subst hmem
      decide
  exact absurd ((h noTypes .standard _ rfl).2 hgrants) (by decide +kernel)

/-! ### Deciding again -/

variable {σ : Type} {shop : Shop σ}

/-- **What is granted is granted again** when the filter is searched by, and what is not is not. -/
theorem inStockFirst_prepared (h : request.toFilter shop.settings = .ok filter) :
    (shop.prepared filter).inStockFirst = filter.inStockFirst := by
  change (filter.inStockFirst && shop.settings.supportsStock (namesOr "product" filter.postTypes)) =
    filter.inStockFirst
  rw [Bool.and_eq_left_iff_imp]
  intro hfirst
  obtain ⟨hvalid, -, hgranted⟩ := postTypes_of_toFilter h
  obtain ⟨hne, hsupported⟩ := Settings.supportsStock_iff.1 (hgranted.1 hfirst).2
  have hmem {name : String} : name ∈ filter.postTypes ↔ name ∈ request.postTypes :=
    mem_postTypes_iff h hne
  obtain ⟨asked, hsome⟩ := List.exists_mem_of_ne_nil _ hne
  -- the types in normal form are names of types again
  have hagain {name : String} :
      name ∈ namesOr "product" filter.postTypes ↔ name ∈ filter.postTypes :=
    mem_namesOr (List.ne_nil_of_mem (hmem.2 hsome)) fun name hname => hvalid name (hmem.1 hname)
  refine Settings.supportsStock_iff.2 ⟨List.ne_nil_of_mem (hagain.2 (hmem.2 hsome)), ?_⟩
  exact fun postType hpostType => hsupported postType (hmem.1 (hagain.1 hpostType))

end Request

end Storefront
