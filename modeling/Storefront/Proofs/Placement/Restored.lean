import Storefront.Proofs.Map.Entries
import Storefront.Proofs.Search.Steps

/-!
# Documents in the order of a listing

A store that is asked for documents by identifier returns them in any order, some of them twice and
some that nobody asked for, and the page may name a document twice or one that is gone. What comes
of all that is said here without the stock that the documents are taken out of (`Restores`): one
document for each identifier that has any, where the identifier stands first, and the last one if
there are several.

Taking an item out of the stock is what keeps it from being handed out again. It comes to the same
to pass over the repetitions in the page and to leave the stock as it is (`takeInOrder_eq`).
-/

namespace Storefront

/-! ### Lists without repetitions -/

section EraseDups

variable {α : Type} [BEq α] [LawfulBEq α]

/-- The first occurrences among the items with a property are the first occurrences that have it. -/
theorem eraseDups_filter (p : α → Bool) :
    ∀ items : List α, (items.filter p).eraseDups = items.eraseDups.filter p
  | [] => rfl
  | a :: rest => by
    have ih := eraseDups_filter p (rest.filter fun b => !b == a)
    rw [List.eraseDups_cons]
    by_cases ha : p a
    · rw [List.filter_cons_of_pos ha, List.filter_cons_of_pos ha, List.eraseDups_cons, ← ih,
        List.filter_filter, List.filter_filter]
      simp only [Bool.and_comm]
    · -- none of those with the property is the one dropped
      have hsame : rest.filter p = (rest.filter fun b => !b == a).filter p := by
        rw [List.filter_filter]
        refine List.filter_congr fun b _ => ?_
        by_cases hb : b = a
        · simp [hb, ha]
        · simp [hb]
      rw [List.filter_cons_of_neg ha, List.filter_cons_of_neg ha, ← ih, ← hsame]
termination_by items => items.length
decreasing_by
  have := List.length_filter_le (fun b => !b == a) rest
  simp only [List.length_cons]
  omega

theorem eraseDups_sublist (items : List α) : items.eraseDups.Sublist items := by
  induction items with
  | nil => exact .slnil
  | cons a rest ih =>
    rw [List.eraseDups_cons, eraseDups_filter]
    exact (List.filter_sublist.trans ih).cons_cons a

theorem nodup_eraseDups (items : List α) : items.eraseDups.Nodup := by
  induction items with
  | nil => exact .nil
  | cons a rest ih =>
    rw [List.eraseDups_cons, eraseDups_filter]
    exact List.nodup_cons.2 ⟨by simp, ih.filter _⟩

end EraseDups

/-! ### The stock -/

variable {α : Type} {idOf : α → Int} {items : List α}

/-- **The items that the stock yields**, although it shrinks while they are taken out. -/
theorem takeInOrder_eq (stock : SortedMap Int α) (ids : List Int) :
    takeInOrder stock ids = ids.eraseDups.filterMap stock.get? := by
  induction ids generalizing stock with
  | nil => rfl
  | cons id rest ih =>
    rw [List.eraseDups_cons, eraseDups_filter, List.filterMap_cons, List.filterMap_filter]
    simp only [takeInOrder]
    cases hitem : stock.get? id with
    | some item =>
      simp only [ih]
      refine congrArg (item :: ·) (List.filterMap_congr fun other _ => ?_)
      rw [SortedMap.get?_erase]
      by_cases h : other = id
      · simp [h]
      · simp [h]
    | none =>
      simp only [ih]
      refine List.filterMap_congr fun other _ => ?_
      by_cases h : other = id
      · simp [h, hitem]
      · simp [h]

/-- An item after which none has its identifier. -/
def IsLast (idOf : α → Int) (items : List α) (item : α) : Prop :=
  ∃ before after, items = before ++ item :: after ∧ ∀ later ∈ after, idOf later ≠ idOf item

/-- The stock of all items. -/
def stockOf (idOf : α → Int) (items : List α) : SortedMap Int α :=
  SortedMap.ofList (items.map fun item => (idOf item, item))

theorem orderByIds_eq (idOf : α → Int) (items : List α) (ids : List Int) :
    orderByIds idOf items ids = ids.eraseDups.filterMap (stockOf idOf items).get? :=
  takeInOrder_eq _ ids

/-- The stock has the last of several items with one identifier. -/
theorem get?_stockOf (id : Int) :
    (stockOf idOf items).get? id = items.reverse.find? fun item => idOf item = id := by
  have hlast := SortedMap.get?_foldl_insert (items.map fun item => (idOf item, item)) .empty id
  rw [← List.map_reverse, List.find?_map, SortedMap.get?_empty, Option.or_none, Option.map_map]
    at hlast
  exact hlast.trans (congrFun Option.map_id _)

theorem get?_stockOf_eq_some_iff {id : Int} {item : α} :
    (stockOf idOf items).get? id = some item ↔ idOf item = id ∧ IsLast idOf items item := by
  rw [get?_stockOf, List.find?_eq_some_iff_append, decide_eq_true_eq]
  constructor
  · rintro ⟨rfl, after, before, hsplit, hafter⟩
    refine ⟨rfl, before.reverse, after.reverse, ?_, fun later hlater => ?_⟩
    · rw [← List.reverse_reverse items, hsplit]
      simp
    · simpa using hafter later (List.mem_reverse.1 hlater)
  · rintro ⟨rfl, before, after, rfl, hafter⟩
    refine ⟨rfl, after.reverse, before.reverse, by simp, fun later hlater => ?_⟩
    simpa using hafter later (List.mem_reverse.1 hlater)

/-- The stock has an item at an identifier just if some item has it. -/
theorem isSome_get?_stockOf (id : Int) :
    ((stockOf idOf items).get? id).isSome = items.any fun item => idOf item == id := by
  rw [get?_stockOf, Bool.eq_iff_iff, List.find?_isSome, List.any_eq_true]
  simp

/-! ### The order of a listing -/

/-- **Items in the order of identifiers**: for each identifier that some item has, where it stands
first, the last such item. -/
structure Restores (idOf : α → Int) (items : List α) (ids : List Int) (ordered : List α) :
    Prop where
  map_idOf : ordered.map idOf = ids.eraseDups.filter fun id => items.any fun item => idOf item == id
  isLast : ∀ item ∈ ordered, IsLast idOf items item

theorem restores_orderByIds (idOf : α → Int) (items : List α) (ids : List Int) :
    Restores idOf items ids (orderByIds idOf items ids) where
  map_idOf := by
    simp only [← isSome_get?_stockOf]
    rw [orderByIds_eq, List.map_filterMap, ← List.filterMap_eq_filter]
    refine List.filterMap_congr fun id _ => ?_
    cases hitem : (stockOf idOf items).get? id with
    | none => simp [Option.guard, hitem]
    | some item => simp [Option.guard, hitem, (get?_stockOf_eq_some_iff.1 hitem).1]
  isLast := fun item hitem => by
    rw [orderByIds_eq] at hitem
    obtain ⟨id, -, hget⟩ := List.mem_filterMap.1 hitem
    exact (get?_stockOf_eq_some_iff.1 hget).2

/-- An identifier that repeats, one without an item, an item that repeats and one that is astray. -/
example :
    orderByIds Prod.fst [(3, "scarf"), (1, "hat"), (2, "glove"), (99, "shoe"), (1, "cap")]
      [2, 3, 4, 1, 2] = [(2, "glove"), (3, "scarf"), (1, "cap")] := by
  decide

theorem mem_orderByIds {ids : List Int} {item : α} :
    item ∈ orderByIds idOf items ids ↔ idOf item ∈ ids ∧ IsLast idOf items item := by
  rw [orderByIds_eq, List.mem_filterMap]
  constructor
  · rintro ⟨id, hid, hget⟩
    obtain ⟨rfl, hlast⟩ := get?_stockOf_eq_some_iff.1 hget
    exact ⟨List.mem_eraseDups.1 hid, hlast⟩
  · rintro ⟨hid, hlast⟩
    exact ⟨idOf item, List.mem_eraseDups.2 hid, get?_stockOf_eq_some_iff.2 ⟨rfl, hlast⟩⟩

/-! ### Items with distinct identifiers -/

theorem isLast_iff_mem (hdistinct : (items.map idOf).Nodup) {item : α} :
    IsLast idOf items item ↔ item ∈ items := by
  constructor
  · rintro ⟨before, after, rfl, -⟩
    exact List.mem_append_right _ List.mem_cons_self
  · intro hmem
    obtain ⟨before, after, rfl⟩ := List.append_of_mem hmem
    refine ⟨before, after, rfl, fun later hlater heq => ?_⟩
    rw [List.map_append, List.map_cons] at hdistinct
    have hfirst := (List.nodup_cons.1 (List.nodup_append.1 hdistinct).2.1).1
    exact hfirst (heq ▸ List.mem_map_of_mem hlater)

/-- **The order in which the items come does not matter**, if their identifiers are distinct. -/
theorem orderByIds_congr {others : List α} (hperm : others.Perm items)
    (hdistinct : (items.map idOf).Nodup) (ids : List Int) :
    orderByIds idOf others ids = orderByIds idOf items ids := by
  have hothers : (others.map idOf).Nodup := (hperm.map idOf).nodup_iff.2 hdistinct
  have hstock : stockOf idOf others = stockOf idOf items := by
    refine SortedMap.ext_get? fun id => Option.ext fun item => ?_
    rw [get?_stockOf_eq_some_iff, get?_stockOf_eq_some_iff, isLast_iff_mem hothers,
      isLast_iff_mem hdistinct, hperm.mem_iff]
  rw [orderByIds_eq, orderByIds_eq, hstock]

/-- Nothing is lost of what was asked for. -/
theorem orderByIds_perm (hdistinct : (items.map idOf).Nodup) (ids : List Int) :
    (orderByIds idOf items ids).Perm (items.filter fun item => idOf item ∈ ids) := by
  have hordered : ((orderByIds idOf items ids).map idOf).Nodup := by
    rw [(restores_orderByIds idOf items ids).map_idOf]
    exact (nodup_eraseDups ids).filter _
  refine (List.perm_ext_iff_of_nodup hordered.of_map (hdistinct.of_map.filter _)).2 fun item => ?_
  rw [mem_orderByIds, isLast_iff_mem hdistinct, List.mem_filter, decide_eq_true_eq, and_comm]

/-! ### The documents of a listing -/

/-- **The documents of a listing** are those that the origin store returns, in the listing's order.
-/
theorem Shop.hydrate_of_some {σ : Type} {shop : Shop σ} {origin : Origin σ}
    (h : shop.origin = some origin) (ids : List Int) (s : Session σ) :
    (shop.hydrate ids s).1 =
      match (origin.fetch ids s.guarded.world).1 with
      | .ok documents => .ok (orderByIds Document.id documents ids)
      | .error fault => .error (.origin fault) := by
  have hfetch : (Session.onWorld (origin.fetch ids) s).1 = (origin.fetch ids s.guarded.world).1 :=
    rfl
  simp only [hydrate, h, bind_apply, hfetch]
  cases (origin.fetch ids s.guarded.world).1 <;> rfl

/-- **Documents come in the order of the listing.** For each identifier that some item has, where it
stands first, there is the last such item, and nothing else. So documents with distinct identifiers
come out the same whatever order the store returns them in: all that were asked for, in an order in
which the listing names them. -/
theorem restores_and_hydrates :
    (∀ {α : Type} (idOf : α → Int) (items : List α) (ids : List Int),
      Restores idOf items ids (orderByIds idOf items ids)) ∧
    ∀ (documents : List Document) (ids : List Int), (documents.map Document.id).Nodup →
      ∃ hydrated : List Document,
        (hydrated.map Document.id).Sublist ids ∧
        hydrated.Perm (documents.filter fun document => document.id ∈ ids) ∧
        ∀ {σ : Type} (shop : Shop σ) (origin : Origin σ) (s : Session σ) (returned : List Document),
          shop.origin = some origin → returned.Perm documents →
          (origin.fetch ids s.guarded.world).1 = .ok returned →
          (shop.hydrate ids s).1 = .ok hydrated := by
  refine ⟨restores_orderByIds, fun documents ids hdistinct =>
    ⟨orderByIds Document.id documents ids, ?_, orderByIds_perm hdistinct ids, ?_⟩⟩
  · rw [(restores_orderByIds Document.id documents ids).map_idOf]
    exact List.filter_sublist.trans (eraseDups_sublist ids)
  · intro σ shop origin s returned horigin hperm hfetch
    rw [Shop.hydrate_of_some horigin, hfetch]
    exact congrArg Except.ok (orderByIds_congr hperm hdistinct ids)

/-- What a store has. -/
def onShelf : List Document :=
  [⟨3, "product", "Scarf"⟩, ⟨1, "product", "Hat"⟩, ⟨2, "product", "Glove"⟩, ⟨99, "product", "Shoe"⟩]

/-- A store that returns all it has, whatever it is asked for, and the last first. -/
def careless : Origin Unit where
  search _ := pure (.ok ⟨[], 0⟩)
  fetch _ := pure (.ok onShelf.reverse)

/-- A shop with the careless store, whose engine finds nothing. -/
def carelessShop : Shop Unit :=
  { Shop.answering fun _ => .empty with origin := some careless }

/-- A page that names a document twice and one that is gone. -/
theorem exists_hydrated_careless :
    (onShelf.map Document.id).Nodup ∧ onShelf.reverse.Perm onShelf ∧
      ∃ hydrated : List Document,
        (hydrated.map Document.id).Sublist [2, 3, 4, 1, 2] ∧
        hydrated.Perm (onShelf.filter fun document => document.id ∈ [2, 3, 4, 1, 2]) ∧
        (carelessShop.hydrate [2, 3, 4, 1, 2] .unused).1 = .ok hydrated := by
  have hdistinct : (onShelf.map Document.id).Nodup := by decide
  have hperm : onShelf.reverse.Perm onShelf := List.reverse_perm _
  obtain ⟨hydrated, hsublist, hsame, hshop⟩ :=
    restores_and_hydrates.2 onShelf [2, 3, 4, 1, 2] hdistinct
  exact ⟨hdistinct, hperm, hydrated, hsublist, hsame,
    hshop carelessShop careless .unused onShelf.reverse rfl hperm rfl⟩

end Storefront
