import CiWorkflow.KeyValue
import CiWorkflow.Proofs.Text.Trim
import Mathlib.Data.List.Forall2

/-! The grammar of items of the form `KEY=VALUE`. What is read is what the items spell, the first
item that spells nothing is the one that is told of, and pairs that were read are read again when
they are joined by the sign. -/

set_option autoImplicit false

namespace CiWorkflow.KeyValue

open Text

/-- The first sign stands behind the key and the white space around it, and all that follows it is
the value. -/
def Spells (item : String) (pair : String × String) : Prop :=
  IsBare pair.1.toList ∧ pair.1 ≠ "" ∧ '=' ∉ pair.1.toList ∧
    ∃ before after, (∀ b ∈ before ++ after, isBlank b = true) ∧
      item.toList = before ++ pair.1.toList ++ after ++ '=' :: pair.2.toList

/-- There is a sign, and something besides white space in front of the first one. -/
def IsPair (item : String) : Prop :=
  '=' ∈ item.toList ∧ ∃ c ∈ item.toList.takeWhile (· != '='), isBlank c = false

def joined (pair : String × String) : String := pair.1 ++ "=" ++ pair.2

section Cutting
variable {front : List Char}

theorem takeWhile_sign (h : '=' ∉ front) (value : List Char) :
    (front ++ '=' :: value).takeWhile (· != '=') = front := by
  have free : ∀ c ∈ front, (c != '=') = true := fun c hc => by
    simpa using fun e : c = '=' => h (e ▸ hc)
  rw [List.takeWhile_append_of_pos free]
  simp

theorem dropWhile_sign (h : '=' ∉ front) (value : List Char) :
    (front ++ '=' :: value).dropWhile (· != '=') = '=' :: value := by
  have free : ∀ c ∈ front, (c != '=') = true := fun c hc => by
    simpa using fun e : c = '=' => h (e ▸ hc)
  rw [List.dropWhile_append_of_pos free]
  simp

end Cutting

section Items
variable {item : String} {pair : String × String} {front value : List Char}

theorem readItem?_of_sign (h : '=' ∉ front) (whole : item.toList = front ++ '=' :: value) :
    readItem? item =
      if trim front = [] then none else some (String.ofList (trim front), String.ofList value) := by
  rw [readItem?, whole, takeWhile_sign h, dropWhile_sign h]
  simp

theorem readItem?_of_no_sign (h : '=' ∉ item.toList) : readItem? item = none := by
  have nothing : item.toList.dropWhile (· != '=') = [] := by
    rw [List.dropWhile_eq_nil_iff]
    exact fun c hc => by simpa using fun e : c = '=' => h (e ▸ hc)
  rw [readItem?, nothing]

theorem spells_of_sign (h : '=' ∉ front) (whole : item.toList = front ++ '=' :: value)
    (some : trim front ≠ []) : Spells item (String.ofList (trim front), String.ofList value) := by
  obtain ⟨before, after, around, blank⟩ := exists_blank_around front
  refine ⟨by simpa using isBare_trim front, by simpa using some, ?_, before, after, blank, ?_⟩
  · simpa using fun sign => h ((infix_trim front).subset sign)
  · rw [String.toList_ofList, String.toList_ofList, ← around, whole]

theorem readItem?_of_spells (h : Spells item pair) : readItem? item = some pair := by
  obtain ⟨bare, nonempty, free, before, after, blank, whole⟩ := h
  have noSign : '=' ∉ before ++ pair.1.toList ++ after := by
    have around : '=' ∉ before ++ after := fun sign => absurd (blank '=' sign) (by decide)
    simp only [List.mem_append, not_or] at around ⊢
    exact ⟨⟨around.1, free⟩, around.2⟩
  have key : trim (before ++ pair.1.toList ++ after) = pair.1.toList := bare.trim_around blank
  have some : pair.1.toList ≠ [] := by simpa using nonempty
  rw [readItem?_of_sign noSign whole, key, if_neg some, String.ofList_toList, String.ofList_toList]

theorem readItem?_eq_some_iff : readItem? item = some pair ↔ Spells item pair := by
  refine ⟨fun read => ?_, readItem?_of_spells⟩
  by_cases sign : '=' ∈ item.toList
  · obtain ⟨front, value, whole, free⟩ := List.eq_append_cons_of_mem sign
    rw [readItem?_of_sign free whole] at read
    split at read
    · cases read
    · rename_i some
      obtain rfl := Option.some.inj read
      exact spells_of_sign free whole some
  · rw [readItem?_of_no_sign sign] at read
    cases read

theorem isPair_of_sign (h : '=' ∉ front) (whole : item.toList = front ++ '=' :: value) :
    IsPair item ↔ trim front ≠ [] := by
  rw [IsPair, whole, takeWhile_sign h, ne_eq, trim_eq_nil_iff]
  simp

theorem readItem?_eq_none_iff : readItem? item = none ↔ ¬ IsPair item := by
  by_cases sign : '=' ∈ item.toList
  · obtain ⟨front, value, whole, free⟩ := List.eq_append_cons_of_mem sign
    rw [readItem?_of_sign free whole, isPair_of_sign free whole]
    split <;> simp_all
  · exact iff_of_true (readItem?_of_no_sign sign) fun pair => sign pair.1

theorem exists_spells_iff : (∃ pair, Spells item pair) ↔ IsPair item := by
  simp only [← readItem?_eq_some_iff, ← Option.isSome_iff_exists, ← Option.ne_none_iff_isSome,
    ne_eq, readItem?_eq_none_iff, not_not]

/-- A key that was read is read again, whatever value follows it. -/
theorem Spells.joined (h : Spells item pair) : Spells (joined pair) pair :=
  ⟨h.1, h.2.1, h.2.2.1, [], [], by simp, by simp [KeyValue.joined]⟩

end Items

section Lists
variable {items : List String} {pairs : List (String × String)}

theorem readItems_eq_ok_iff : readItems items = .ok pairs ↔ List.Forall₂ Spells items pairs := by
  induction items generalizing pairs with
  | nil => cases pairs <;> simp [readItems]
  | cons item rest ih =>
    rw [readItems]
    cases read : readItem? item with
    | none =>
      have bad : ∀ pair, ¬ Spells item pair := fun pair spells =>
        absurd (read.symm.trans (readItem?_of_spells spells)) nofun
      cases pairs <;> simp [bad]
    | some pair =>
      have spells (other : String × String) : Spells item other ↔ pair = other := by
        rw [← readItem?_eq_some_iff, read, Option.some.injEq]
      cases more : readItems rest with
      | error e =>
        cases pairs <;> simp [Except.map, ← ih, more]
      | ok found =>
        cases pairs <;> simp [Except.map, ← ih, more, spells]

theorem readItems_eq_error_iff {item : String} : readItems items = .error item ↔
    ∃ before after, items = before ++ item :: after ∧ (∀ i ∈ before, IsPair i) ∧ ¬ IsPair item := by
  induction items with
  | nil => simp [readItems]
  | cons first rest ih =>
    rw [readItems]
    cases read : readItem? first with
    | none =>
      have bad : ¬ IsPair first := readItem?_eq_none_iff.1 read
      simp only [Except.error.injEq]
      constructor
      · rintro rfl
        exact ⟨[], rest, rfl, by simp, bad⟩
      · rintro ⟨before, after, whole, good, -⟩
        cases before with
        | nil => exact (List.cons.inj whole).1
        | cons b before =>
          exact absurd (good first ((List.cons.inj whole).1 ▸ List.mem_cons_self)) bad
    | some pair =>
      have good : IsPair first := exists_spells_iff.1 ⟨pair, readItem?_eq_some_iff.1 read⟩
      have goesOn : (readItems rest).map (pair :: ·) = .error item ↔
          readItems rest = .error item := by
        cases readItems rest <;> simp [Except.map]
      simp only [goesOn, ih]
      constructor
      · rintro ⟨before, after, rfl, goods, bad⟩
        exact ⟨first :: before, after, rfl, List.forall_mem_cons.2 ⟨good, goods⟩, bad⟩
      · rintro ⟨before, after, whole, goods, bad⟩
        cases before with
        | nil => exact absurd ((List.cons.inj whole).1 ▸ good) bad
        | cons b before =>
          obtain ⟨rfl, rfl⟩ := List.cons.inj whole
          exact ⟨before, after, rfl, fun i hi => goods i (List.mem_cons_of_mem _ hi), bad⟩

theorem exists_readItems_iff : (∃ pairs, readItems items = .ok pairs) ↔
    ∀ item ∈ items, IsPair item := by
  constructor
  · rintro ⟨pairs, read⟩ item among
    have spelled := readItems_eq_ok_iff.1 read
    obtain ⟨i, inside, rfl⟩ := List.getElem_of_mem among
    have paired : i < pairs.length := spelled.length_eq ▸ inside
    exact exists_spells_iff.1 ⟨pairs[i], spelled.get inside paired⟩
  · intro good
    cases read : readItems items with
    | ok pairs => exact ⟨pairs, rfl⟩
    | error item =>
      obtain ⟨before, after, rfl, -, bad⟩ := readItems_eq_error_iff.1 read
      exact absurd (good item (by simp)) bad

theorem readItems_joined (h : readItems items = .ok pairs) :
    readItems (pairs.map joined) = .ok pairs := by
  rw [readItems_eq_ok_iff] at h ⊢
  rw [List.forall₂_map_left_iff]
  induction h with
  | nil => exact .nil
  | cons spells _ ih => exact .cons spells.joined ih

/-- Items are read just if each has a key in front of its first sign, and then each gives the pair
that it spells, in their order. If pairs are joined by the sign, they are read again. Otherwise the
first item without a key is told of, and nothing else is given. -/
theorem readItems_grammar (items : List String) :
    ((∃ pairs, readItems items = .ok pairs) ↔ ∀ item ∈ items, IsPair item) ∧
    (∀ pairs, readItems items = .ok pairs ↔ List.Forall₂ Spells items pairs) ∧
    (∀ pairs, readItems items = .ok pairs → readItems (pairs.map joined) = .ok pairs) ∧
    ∀ item, readItems items = .error item ↔ ∃ before after, items = before ++ item :: after ∧
      (∀ i ∈ before, IsPair i) ∧ ¬ IsPair item :=
  ⟨exists_readItems_iff, fun _ => readItems_eq_ok_iff, fun _ => readItems_joined,
    fun _ => readItems_eq_error_iff⟩

/-- Blanks around a key go, and further signs belong to the value. -/
example : readItems ["\u00a0A B\t= c=d ", "E="] = .ok [("A B", " c=d "), ("E", "")] := by
  decide +kernel

end Lists

end CiWorkflow.KeyValue
