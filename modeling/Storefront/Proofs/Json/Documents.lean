import Storefront.Json.Reader
import Storefront.Json.Writer
import Storefront.Proofs.Json.Numbers

/-!
# Documents that are read as they were written

Whatever a text says, its quotes, backslashes and control characters are written as escapes that are
read as the same characters (`Json.textFrom?_quoted`). Lists and objects are read piece by piece,
and each piece ends before the comma or the bracket that follows it. So a document is read as it was
written (`Json.IsExact.ofText?_render`), provided that its whole numbers have 64 bits, that its
doubles survive, and that no object names a member twice (`Json.IsExact`).
-/

namespace Storefront.Json

open Number

/-! ### Texts -/

/-- A character below the blank is written by its two hexadecimal digits. -/
theorem escape?_control {n : Nat} (h : n < 0x20) (rest : List Char) :
    escape? ('u' :: '0' :: '0' :: hexDigit (n / 16) :: hexDigit (n % 16) :: rest) =
      some (Char.ofNat n, rest) := by
  have hall : ∀ n < 0x20, Text.hexValue? (hexDigit (n / 16)) = some (n / 16) ∧
      Text.hexValue? (hexDigit (n % 16)) = some (n % 16) := by decide
  obtain ⟨hhigh, hlow⟩ := hall n h
  have hzero : Text.hexValue? '0' = some 0 := by decide
  have hvalue : n / 16 * 16 + n % 16 = n := by omega
  have hunit : n < 0xD800 := by omega
  have hcode : fourHex? ('0' :: '0' :: hexDigit (n / 16) :: hexDigit (n % 16) :: rest) =
      some (n, rest) := by
    simp [fourHex?, hzero, hhigh, hlow, hvalue]
  change codeEscape? _ = _
  simp [codeEscape?, hcode, hunit]

/-- **A character that is written is read as itself**, whether it is escaped or not. -/
theorem textFrom?_escapedChar (fuel : Nat) (read : List Char) (c : Char) (rest : List Char) :
    textFrom? (fuel + 1) read (escapedChar c ++ rest) = textFrom? fuel (c :: read) rest := by
  unfold escapedChar
  split_ifs with hquote hback hbs htab hnl hff hcr hcontrol
  · rw [hquote]; rfl
  · rw [hback]; rfl
  · rw [hbs]; rfl
  · rw [htab]; rfl
  · rw [hnl]; rfl
  · rw [hff]; rfl
  · rw [hcr]; rfl
  · have hescape := escape?_control hcontrol rest
    rw [Char.ofNat_toNat] at hescape
    simp only [List.cons_append, List.nil_append, textFrom?, hescape]
  · simp [textFrom?, hcontrol]

/-- **A text is read as it was written**, up to its closing quote. -/
theorem textFrom?_escaped {fuel : Nat} {cs : List Char} (h : cs.length < fuel)
    (read rest : List Char) :
    textFrom? fuel read (cs.flatMap escapedChar ++ '"' :: rest) =
      some (String.ofList (read.reverse ++ cs), rest) := by
  induction cs generalizing fuel read with
  | nil =>
    obtain ⟨fuel, rfl⟩ : ∃ n, fuel = n + 1 := ⟨fuel - 1, by simp at h; omega⟩
    rw [List.append_nil]
    rfl
  | cons c cs ih =>
    obtain ⟨fuel, rfl⟩ : ∃ n, fuel = n + 1 := ⟨fuel - 1, by omega⟩
    rw [List.flatMap_cons, List.append_assoc, textFrom?_escapedChar,
      ih (by simpa using h), List.reverse_cons, List.append_assoc]
    rfl

theorem length_le_flatMap_escapedChar (cs : List Char) :
    cs.length ≤ (cs.flatMap escapedChar).length := by
  induction cs with
  | nil => exact Nat.le_refl _
  | cons c cs ih =>
    have hone : 1 ≤ (escapedChar c).length := by
      unfold escapedChar
      split_ifs <;> simp
    rw [List.flatMap_cons, List.length_append, List.length_cons]
    omega

theorem textFrom?_quoted {fuel : Nat} {s : String} (h : (quoted s).length ≤ fuel + 1)
    (rest : List Char) :
    ∃ cs, quoted s ++ rest = '"' :: cs ∧ textFrom? fuel [] cs = some (s, rest) := by
  have hlength := length_le_flatMap_escapedChar s.toList
  refine ⟨s.toList.flatMap escapedChar ++ '"' :: rest, by simp [quoted], ?_⟩
  rw [quoted, List.length_cons, List.length_append, List.length_singleton] at h
  rw [textFrom?_escaped (by omega), List.reverse_nil, List.nil_append, String.ofList_toList]

/-! ### Documents -/

/-- **A document that is read as it was written**: its whole numbers have 64 bits, its doubles
survive, and no object names a member twice. -/
inductive IsExact : Json → Prop
  | null : IsExact .null
  | bool (value : Bool) : IsExact (.bool value)
  | whole {value : Int} (fits : fitsWord value = true) : IsExact (.whole value)
  | fraction {value : Binary64} (survives : value.survivesJson = true) : IsExact (.fraction value)
  | text (value : String) : IsExact (.text value)
  | list {items : List Json} (exact : ∀ item ∈ items, IsExact item) : IsExact (.list items)
  | object {members : List (String × Json)} (distinct : (members.map Prod.fst).Nodup)
    (exact : ∀ member ∈ members, IsExact member.2) : IsExact (.object members)

/-- The characters that documents begin with. -/
def isFirstChar (c : Char) : Bool :=
  c.isDigit || ['-', 'n', 't', 'f', '"', '[', '\x7b'].contains c

theorem IsExact.exists_chars_eq_cons {json : Json} (h : json.IsExact) :
    ∃ c cs, json.chars = c :: cs ∧ isFirstChar c = true := by
  have hnumber {text : List Char} {value : Json} (h : leadingNumber? text = some (value, [])) :
      ∃ c cs, text = c :: cs ∧ isFirstChar c = true := by
    obtain ⟨c, cs, hcs, hfirst⟩ := exists_eq_cons_of_leadingNumber? h
    refine ⟨c, cs, hcs, ?_⟩
    rcases hfirst with rfl | hdigit
    · rfl
    · rw [isFirstChar, hdigit, Bool.true_or]
  cases h with
  | null => exact ⟨_, _, rfl, rfl⟩
  | bool value => cases value <;> exact ⟨_, _, rfl, rfl⟩
  | whole hfits => exact hnumber (leadingNumber?_toString hfits)
  | fraction hsurvives => exact hnumber (Binary64.leadingNumber?_toJsonText hsurvives)
  | text => exact ⟨_, _, rfl, rfl⟩
  | list => exact ⟨_, _, rfl, rfl⟩
  | object => exact ⟨_, _, rfl, rfl⟩

theorem skipBlanks_of_isFirstChar {c : Char} (h : isFirstChar c = true) (cs : List Char) :
    skipBlanks (c :: cs) = c :: cs := by
  have hblank : (c = ' ' || c = '\t' || c = '\n' || c = '\r') = false := by
    by_contra hblank
    simp only [Bool.not_eq_false, Bool.or_eq_true, decide_eq_true_eq] at hblank
    rcases hblank with ((rfl | rfl) | rfl) | rfl <;> cases h
  rw [skipBlanks, List.dropWhile_cons_of_neg (by simp [hblank])]

variable {rest : List Char}

theorem document?_number {fuel : Nat} {cs : List Char} {json : Json}
    (h : leadingNumber? cs = some (json, [])) (hrest : EndsNumber rest) :
    document? (fuel + 1) (cs ++ rest) = some (json, rest) := by
  obtain ⟨c, tail, rfl, hfirst⟩ := exists_eq_cons_of_leadingNumber? h
  have hchar : isFirstChar c = true := by
    rcases hfirst with rfl | hdigit
    · rfl
    · rw [isFirstChar, hdigit, Bool.true_or]
  have hread := leadingNumber?_append hrest h
  rw [document?, List.cons_append, skipBlanks_of_isFirstChar hchar]
  rw [List.cons_append] at hread
  generalize tail ++ rest = more at hread ⊢
  split
  -- the documents that are no numbers begin with other characters
  iterate 6
    next heq =>
      cases heq
      simp at hfirst
  · exact hread

theorem endsNumber_cons {c : Char} (h : c = ',' ∨ c = ']' ∨ c = '\x7d') :
    EndsNumber (c :: rest) := by
  intro d hd
  obtain rfl : c = d := Option.some.inj hd
  rcases h with rfl | rfl | rfl <;> decide

/-- A document is read as it was written in front of what follows, if there is fuel for each of its
characters. -/
def IsRead (json : Json) : Prop :=
  ∀ fuel rest, json.chars.length ≤ fuel → EndsNumber rest →
    document? fuel (json.chars ++ rest) = some (json, rest)

theorem itemChars_cons_cons (item next : Json) (more : List Json) :
    itemChars (item :: next :: more) = item.chars ++ ',' :: itemChars (next :: more) := by
  rw [itemChars]
  exact List.cons_ne_nil _ _

theorem memberChars_cons_cons (name : String) (value : Json) (next : String × Json)
    (more : List (String × Json)) :
    memberChars ((name, value) :: next :: more) =
      quoted name ++ ':' :: (value.chars ++ ',' :: memberChars (next :: more)) := by
  rw [memberChars]
  exact List.cons_ne_nil _ _

/-- **The items of a list** are read one after another. -/
theorem items?_itemChars {items : List Json} (hne : items ≠ [])
    (hread : ∀ item ∈ items, item.IsRead) (fuel : Nat) (hfuel : (itemChars items).length < fuel)
    (read : List Json) (rest : List Char) :
    items? fuel read (itemChars items ++ ']' :: rest) =
      some (.list (read.reverse ++ items), rest) := by
  induction items generalizing fuel read with
  | nil => exact absurd rfl hne
  | cons item more ih =>
    obtain ⟨fuel, rfl⟩ : ∃ n, fuel = n + 1 := ⟨fuel - 1, by omega⟩
    obtain ⟨hitem, hmore⟩ := List.forall_mem_cons.1 hread
    cases more with
    | nil =>
      rw [itemChars] at hfuel ⊢
      rw [items?, hitem fuel _ (by omega) (endsNumber_cons (by simp)), ← List.reverse_cons]
      rfl
    | cons next more =>
      rw [itemChars_cons_cons, List.length_append, List.length_cons] at hfuel
      have hrest := ih (List.cons_ne_nil _ _) hmore fuel (by omega) (item :: read)
      rw [List.reverse_cons, List.append_assoc] at hrest
      rw [itemChars_cons_cons, List.append_assoc, List.cons_append, items?,
        hitem fuel _ (by omega) (endsNumber_cons (by simp))]
      exact hrest

/-- The name of a member is read up to its colon. -/
theorem members?_quoted {fuel : Nat} {name : String} (h : (quoted name).length ≤ fuel + 1)
    (read : List (String × Json)) (cs : List Char) :
    members? (fuel + 1) read (quoted name ++ ':' :: cs) =
      match document? fuel cs with
      | none => none
      | some (value, rest) =>
        match skipBlanks rest with
        | ',' :: rest => members? fuel (putMember read name value) rest
        | '\x7d' :: rest => some (.object (putMember read name value), rest)
        | _ => none := by
  obtain ⟨tail, htail, htext⟩ := textFrom?_quoted h (':' :: cs)
  have hskip : skipBlanks ('"' :: tail) = '"' :: tail := rfl
  rw [htail, members?, hskip]
  simp only [htext]
  rfl

/-- A member of a new name goes to the end. -/
theorem putMember_of_not_mem {members : List (String × Json)} {name : String}
    (h : name ∉ members.map Prod.fst) (value : Json) :
    putMember members name value = members ++ [(name, value)] := by
  have hother : ∀ member ∈ members, decide (member.1 ≠ name) = true := fun member hmember =>
    decide_eq_true fun hname => h (List.mem_map.2 ⟨member, hmember, hname⟩)
  rw [putMember, List.filter_eq_self.2 hother]

/-- **The members of an object** are read one after another, if no name occurs twice. -/
theorem members?_memberChars {members : List (String × Json)} (hne : members ≠ [])
    (hread : ∀ member ∈ members, member.2.IsRead) (fuel : Nat)
    (hfuel : (memberChars members).length < fuel) (read : List (String × Json))
    (hdistinct : ((read ++ members).map Prod.fst).Nodup) (rest : List Char) :
    members? fuel read (memberChars members ++ '\x7d' :: rest) =
      some (.object (read ++ members), rest) := by
  induction members generalizing fuel read with
  | nil => exact absurd rfl hne
  | cons member more ih =>
    obtain ⟨name, value⟩ := member
    obtain ⟨fuel, rfl⟩ : ∃ n, fuel = n + 1 := ⟨fuel - 1, by omega⟩
    have hvalue : value.IsRead := hread (name, value) (List.mem_cons_self ..)
    have hnew : name ∉ read.map Prod.fst := by
      rw [List.map_append, List.map_cons] at hdistinct
      exact fun hname => (List.nodup_append.1 hdistinct).2.2 name hname name
        (List.mem_cons_self ..) rfl
    cases more with
    | nil =>
      rw [memberChars, List.length_append, List.length_cons] at hfuel
      rw [memberChars, List.append_assoc, List.cons_append, members?_quoted (by omega),
        hvalue fuel _ (by omega) (endsNumber_cons (by simp)), ← putMember_of_not_mem hnew]
      rfl
    | cons next more =>
      rw [memberChars_cons_cons, List.length_append, List.length_cons, List.length_append,
        List.length_cons] at hfuel
      have hrest := ih (List.cons_ne_nil _ _)
        (fun member hmember => hread member (List.mem_cons_of_mem _ hmember)) fuel (by omega)
        (read ++ [(name, value)]) (by simpa using hdistinct)
      rw [List.append_assoc, ← putMember_of_not_mem hnew] at hrest
      rw [memberChars_cons_cons, List.append_assoc, List.cons_append, members?_quoted (by omega),
        List.append_assoc, List.cons_append,
        hvalue fuel _ (by omega) (endsNumber_cons (by simp))]
      exact hrest

theorem document?_list {fuel : Nat} {c : Char} (h : isFirstChar c = true) (cs : List Char) :
    document? (fuel + 1) ('[' :: c :: cs) = items? fuel [] (c :: cs) := by
  have hskip : skipBlanks ('[' :: c :: cs) = '[' :: c :: cs := rfl
  rw [document?, hskip]
  simp only [skipBlanks_of_isFirstChar h]
  split
  · next heq =>
    cases heq
    cases h
  · rfl

theorem document?_object (fuel : Nat) (cs : List Char) :
    document? (fuel + 1) ('\x7b' :: '"' :: cs) = members? fuel [] ('"' :: cs) := rfl

theorem exists_itemChars_eq_cons {item : Json} (h : item.IsExact) (more : List Json) :
    ∃ c cs, itemChars (item :: more) = c :: cs ∧ isFirstChar c = true := by
  obtain ⟨c, cs, hcs, hc⟩ := h.exists_chars_eq_cons
  cases more with
  | nil => exact ⟨c, cs, by rw [itemChars, hcs], hc⟩
  | cons next more =>
    exact ⟨c, cs ++ ',' :: itemChars (next :: more),
      by rw [itemChars_cons_cons, hcs, List.cons_append], hc⟩

theorem exists_memberChars_eq_cons (member : String × Json) (more : List (String × Json)) :
    ∃ cs, memberChars (member :: more) = '"' :: cs := by
  cases more with
  | nil => exact ⟨_, rfl⟩
  | cons next more => exact ⟨_, memberChars_cons_cons member.1 member.2 next more⟩

/-- **A document is read as it was written.** -/
theorem IsExact.isRead {json : Json} (h : json.IsExact) : json.IsRead := by
  -- each document has a character, so there is fuel for one step
  have hstep {json : Json} (h : json.IsExact) {fuel : Nat} (hfuel : json.chars.length ≤ fuel) :
      ∃ n, fuel = n + 1 := by
    obtain ⟨c, cs, hcs, -⟩ := h.exists_chars_eq_cons
    rw [hcs, List.length_cons] at hfuel
    exact ⟨fuel - 1, by omega⟩
  induction h with
  | null =>
    intro fuel rest hfuel _
    obtain ⟨fuel, rfl⟩ := hstep .null hfuel
    rfl
  | bool value =>
    intro fuel rest hfuel _
    obtain ⟨fuel, rfl⟩ := hstep (.bool value) hfuel
    cases value <;> rfl
  | whole hfits =>
    intro fuel rest hfuel hrest
    obtain ⟨fuel, rfl⟩ := hstep (.whole hfits) hfuel
    exact document?_number (leadingNumber?_toString hfits) hrest
  | fraction hsurvives =>
    intro fuel rest hfuel hrest
    obtain ⟨fuel, rfl⟩ := hstep (.fraction hsurvives) hfuel
    exact document?_number (Binary64.leadingNumber?_toJsonText hsurvives) hrest
  | text value =>
    intro fuel rest hfuel _
    obtain ⟨fuel, rfl⟩ := hstep (.text value) hfuel
    obtain ⟨tail, htail, htext⟩ := textFrom?_quoted hfuel rest
    have hskip : skipBlanks ('"' :: tail) = '"' :: tail := rfl
    rw [chars, htail, document?, hskip]
    simp only [htext]
    rfl
  | @list items hexact ih =>
    intro fuel rest hfuel _
    obtain ⟨fuel, rfl⟩ := hstep (.list hexact) hfuel
    cases items with
    | nil => rfl
    | cons item more =>
      obtain ⟨c, cs, hcs, hc⟩ := exists_itemChars_eq_cons (hexact item (List.mem_cons_self ..)) more
      rw [chars, List.length_cons, List.length_append, List.length_singleton] at hfuel
      have hitems := items?_itemChars (List.cons_ne_nil _ _) ih fuel (by omega) [] rest
      rw [chars, List.cons_append, List.append_assoc, List.singleton_append]
      rw [hcs, List.cons_append] at hitems ⊢
      rw [document?_list hc, hitems]
      rfl
  | @object members hdistinct hexact ih =>
    intro fuel rest hfuel _
    obtain ⟨fuel, rfl⟩ := hstep (.object hdistinct hexact) hfuel
    cases members with
    | nil => rfl
    | cons member more =>
      obtain ⟨cs, hcs⟩ := exists_memberChars_eq_cons member more
      rw [chars, List.length_cons, List.length_append, List.length_singleton] at hfuel
      have hmembers := members?_memberChars (List.cons_ne_nil _ _) ih fuel (by omega) []
        hdistinct rest
      rw [chars, List.cons_append, List.append_assoc, List.singleton_append]
      rw [hcs, List.cons_append] at hmembers ⊢
      rw [document?_object, hmembers]
      rfl

/-- **The text of a document spells the document.** -/
theorem IsExact.ofText?_render {json : Json} (h : json.IsExact) :
    ofText? json.render = some json := by
  have hread := h.isRead (2 * json.chars.length + 2) [] (by omega) endsNumber_nil
  rw [List.append_nil] at hread
  simp only [ofText?, render, String.toList_ofList, hread]
  rfl

end Storefront.Json
