import Storefront.Json.Reader
import Storefront.Proofs.Json.Documents
import Storefront.Proofs.Map.Entries

/-!
# Fields that are read as they were written

A record is put together from fields of a few kinds: counts and identifiers, texts, numbers, lists,
values that may be absent, and maps. For each kind, what is written is exact (`Json.IsExact`), and
its reader undoes the writing.
-/

namespace Storefront

open Number

/-- A map is the map of its entries. -/
theorem SortedMap.ofList_entries {κ ν : Type} [Ord κ] [Std.TransOrd κ] [Std.LawfulEqOrd κ]
    [DecidableEq κ] (m : SortedMap κ ν) : ofList m.entries = m := by
  refine ext_get? fun k => Option.ext fun v => ?_
  have hlast : (ofList m.entries).get? k = (m.entries.reverse.find? fun e => e.1 = k).map (·.2) :=
    (get?_foldl_insert m.entries empty k).trans (Option.or_none ..)
  rw [hlast, ← mem_entries_iff, Option.map_eq_some_iff]
  constructor
  · rintro ⟨⟨k, v⟩, hfind, rfl⟩
    obtain ⟨hmem, hkey, -⟩ := find?_reverse_entries_iff.1 hfind
    rwa [← of_decide_eq_true hkey]
  · intro hmem
    refine ⟨(k, v), find?_reverse_entries_iff.2 ⟨hmem, decide_eq_true rfl, ?_⟩, rfl⟩
    rintro other - hlt
    refine decide_eq_false fun hkey => ?_
    simp [hkey] at hlt

namespace Json

/-! ### Numbers -/

/-- A signed number of 64 bits. -/
def IsId (n : Int) : Prop :=
  minId ≤ n ∧ n ≤ maxId

instance (n : Int) : Decidable (IsId n) :=
  inferInstanceAs (Decidable (minId ≤ n ∧ n ≤ maxId))

theorem fitsWord_of_isId {n : Int} (h : IsId n) : fitsWord n = true := by
  obtain ⟨hlow, hhigh⟩ := h
  have hcount : maxId ≤ (maxCount : Int) := by decide
  simp only [fitsWord, Bool.and_eq_true, decide_eq_true_eq]
  omega

theorem id?_whole {n : Int} (h : IsId n) : id? (.whole n) = some n :=
  if_pos h

theorem isExact_ofNat {n : Nat} (h : n ≤ maxCount) : (ofNat n).IsExact := by
  refine .whole ?_
  have hlow : minId ≤ 0 := by decide
  simp only [fitsWord, Bool.and_eq_true, decide_eq_true_eq]
  omega

theorem upTo?_ofNat {n greatest : Nat} (h : n ≤ greatest) : (ofNat n).upTo? greatest = some n := by
  have hbetween : between? 0 greatest (ofNat n) = some (n : Int) := if_pos (by omega)
  rw [upTo?, hbetween]
  rfl

/-- A number that is written as it is read back, or else as `null`. -/
theorem isExact_ofNumber {x : Binary64} (h : x.isFinite = true → x.survivesJson = true) :
    (ofNumber x).IsExact := by
  rw [ofNumber]
  split_ifs with hfinite
  · exact .fraction (h hfinite)
  · exact .null

theorem number?_ofNumber (x : Binary64) :
    (ofNumber x).number? = if x.isFinite then some x else none := by
  rw [ofNumber]
  split_ifs <;> rfl

/-! ### Lists -/

section Lists

variable {α : Type} {encode : α → Json} {read? : Json → Option α} {items : List α}

theorem mapM_map_eq_some {β : Type} {write : α → β} {read? : β → Option α}
    (h : ∀ a ∈ items, read? (write a) = some a) : (items.map write).mapM read? = some items := by
  induction items with
  | nil => rfl
  | cons a more ih =>
    obtain ⟨ha, hmore⟩ := List.forall_mem_cons.1 h
    rw [List.map_cons, List.mapM_cons, ha, ih hmore]
    rfl

theorem list?_list (h : ∀ a ∈ items, read? (encode a) = some a) :
    list? read? (.list (items.map encode)) = some items :=
  mapM_map_eq_some h

theorem isExact_list (h : ∀ a ∈ items, (encode a).IsExact) :
    (Json.list (items.map encode)).IsExact := by
  refine .list fun item hitem => ?_
  obtain ⟨a, ha, rfl⟩ := List.mem_map.1 hitem
  exact h a ha

end Lists

theorem isExact_ofIds {ids : List Int} (h : ∀ id ∈ ids, IsId id) : (ofIds ids).IsExact :=
  isExact_list fun id hid => .whole (fitsWord_of_isId (h id hid))

theorem list?_ofIds {ids : List Int} (h : ∀ id ∈ ids, IsId id) :
    (ofIds ids).list? id? = some ids :=
  list?_list fun id hid => id?_whole (h id hid)

theorem isExact_ofTexts (texts : List String) : (ofTexts texts).IsExact :=
  isExact_list fun _ _ => .text _

theorem list?_ofTexts (texts : List String) : (ofTexts texts).list? text? = some texts :=
  list?_list fun _ _ => rfl

/-! ### Values that may be absent -/

section Options

variable {α : Type} {encode : α → Json} {read? : Json → Option α} {value : Option α}

theorem isExact_ofOption (h : ∀ a ∈ value, (encode a).IsExact) :
    (ofOption encode value).IsExact := by
  cases value with
  | none => exact .null
  | some a => exact h a rfl

/-- What may be absent is read if it is not written as `null`. -/
theorem absentOr?_ofOption (hnull : ∀ a ∈ value, encode a ≠ .null)
    (h : ∀ a ∈ value, read? (encode a) = some a) :
    absentOr? read? (some (ofOption encode value)) = some value := by
  cases value with
  | none => rfl
  | some a =>
    have hread : nullable? read? (encode a) = (read? (encode a)).map some := by
      unfold nullable?
      split
      · next heq => exact absurd heq (hnull a rfl)
      · rfl
    change nullable? read? (encode a) = _
    rw [hread, h a rfl]
    rfl

end Options

/-! ### Objects -/

/-- A step of a reader that succeeds. -/
theorem bind_of_eq_some {α β : Type} {value? : Option α} {next : α → Option β} {a : α}
    {result : Option β} (h : value? = some a) (hnext : next a = result) :
    value? >>= next = result := by
  rw [h]
  exact hnext

/-- **The fields of a record** are exact if their values are, and their names are distinct. -/
theorem isExact_object {members : List (String × Json)} (h : ∀ member ∈ members, member.2.IsExact)
    (hdistinct : (members.map Prod.fst).Nodup) : (Json.object members).IsExact :=
  .object hdistinct h

/-- The members of a map are named by its keys. -/
theorem isExact_entries {κ α : Type} [Ord κ] [Std.LawfulEqOrd κ] {name : κ → String}
    {encode : α → Json} (hname : Function.Injective name) {map : SortedMap κ α}
    (h : ∀ entry ∈ map.entries, (encode entry.2).IsExact) :
    (Json.object (map.entries.map fun entry => (name entry.1, encode entry.2))).IsExact := by
  refine .object ?_ fun member hmember => ?_
  · rw [List.map_map]
    have hnames := map.nodup_keys.map hname
    rwa [List.map_map] at hnames
  · obtain ⟨entry, hentry, rfl⟩ := List.mem_map.1 hmember
    exact h entry hentry

end Json

/-- An integer is determined by its digits. -/
theorem Number.toString_int_injective : Function.Injective (toString : Int → String) := by
  intro m n h
  have hread := readWhole?_toString m
  rw [h, readWhole?_toString n] at hread
  exact (Option.some.inj hread).symm

end Storefront
