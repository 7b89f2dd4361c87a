import CiWorkflow.Config.Field
import Mathlib.Data.List.Basic

set_option autoImplicit false

namespace CiWorkflow

namespace Field

def Apart (f g : Field) : Prop :=
  f.name ≠ g.name ∧ f.name ≠ g.camel ∧ f.camel ≠ g.name ∧ f.camel ≠ g.camel

instance (f g : Field) : Decidable (f.Apart g) := by unfold Apart; infer_instance

theorem Apart.spell_ne {f g : Field} (h : f.Apart g) (a b : Spelling) : f.spell a ≠ g.spell b := by
  obtain ⟨h₁, h₂, h₃, h₄⟩ := h
  cases a <;> cases b <;> assumption

theorem Apart.symm {f g : Field} (h : f.Apart g) : g.Apart f :=
  ⟨h.1.symm, h.2.2.1.symm, h.2.1.symm, h.2.2.2.symm⟩

def entriesOf (spelling : Spelling) (given : List (Field × Value)) : Entries :=
  given.map fun p => p.1.entry spelling p.2

variable {spelling : Spelling} {given : List (Field × Value)} {f : Field} {v : Value}

theorem lookup_entry (name : String) (rest : Entries) :
    Value.lookup name (f.entry spelling v :: rest) =
      if f.spell spelling = name then some v else Value.lookup name rest := by
  by_cases h : f.spell spelling = name <;> simp [entry, Value.lookup, h]

theorem lookup_eq_none {name : String} (h : ∀ p ∈ given, p.1.spell spelling ≠ name) :
    Value.lookup name (entriesOf spelling given) = none := by
  induction given with
  | nil => rfl
  | cons p rest ih =>
    have hp := h p (by simp)
    have hr := ih fun q hq => h q (by simp [hq])
    rw [entriesOf, List.map_cons, lookup_entry, if_neg hp]
    exact hr

theorem lookup_of_mem (apart : (given.map (·.1)).Pairwise Apart) (hm : (f, v) ∈ given) :
    Value.lookup (f.spell spelling) (entriesOf spelling given) = some v := by
  induction given with
  | nil => simp at hm
  | cons p rest ih =>
    obtain ⟨hp, hr⟩ := List.pairwise_cons.1 apart
    have hp (q) (hq : q ∈ rest) : p.1.Apart q.1 := hp q.1 (List.mem_map_of_mem hq)
    rw [entriesOf, List.map_cons, lookup_entry]
    rcases List.mem_cons.1 hm with rfl | hm
    · rw [if_pos rfl]
    · rw [if_neg ((hp _ hm).spell_ne spelling spelling)]
      exact ih hr hm

theorem lookup_camel_eq_none (apart : (given.map (·.1)).Pairwise Apart)
    (hm : (f, v) ∈ given) (differ : f.name ≠ f.camel) :
    Value.lookup f.camel (entriesOf .name given) = none := by
  induction given with
  | nil => simp at hm
  | cons p rest ih =>
    obtain ⟨hp, hr⟩ := List.pairwise_cons.1 apart
    have hp (q) (hq : q ∈ rest) : p.1.Apart q.1 := hp q.1 (List.mem_map_of_mem hq)
    rw [entriesOf, List.map_cons, lookup_entry]
    rcases List.mem_cons.1 hm with rfl | hm
    · rw [spell, if_neg differ]
      exact lookup_eq_none fun q hq => ((hp q hq).spell_ne .camel .name).symm
    · have other : p.1.spell .name ≠ f.camel := (hp _ hm).spell_ne .name .camel
      rw [if_neg other]
      exact ih hr hm

theorem given_of_mem (apart : (given.map (·.1)).Pairwise Apart) (hm : (f, v) ∈ given) :
    f.given (entriesOf spelling given) = some (f.spell spelling, v) := by
  have found : Value.lookup (f.spell spelling) (entriesOf spelling given) = some v :=
    lookup_of_mem apart hm
  cases spelling with
  | camel =>
    rw [spell] at found
    simp [Field.given, found, spell]
  | name =>
    rw [spell] at found
    by_cases same : f.name = f.camel
    · simp [Field.given, spell, same ▸ found, same]
    · simp [Field.given, spell, found, lookup_camel_eq_none apart hm same]

theorem check_of_mem {α : Type} {check : Value → Check α} {default : Check α} {a : α}
    (apart : (given.map (·.1)).Pairwise Apart) (hm : (f, v) ∈ given)
    (h : check v = .ok a) : f.check (entriesOf spelling given) default check = .ok a := by
  rw [Field.check, given_of_mem apart hm]
  simp only [h]
  rfl

theorem check_text {s : String} (apart : (given.map (·.1)).Pairwise Apart)
    (hm : (f, .text s) ∈ given) (default : Check String) :
    f.check (entriesOf spelling given) default checkText = .ok s := check_of_mem apart hm rfl

theorem check_warned {s : String} (apart : (given.map (·.1)).Pairwise Apart)
    (hm : (f, .text s) ∈ given) (default : Check String) (name : String) :
    f.check (entriesOf spelling given) default (checkWarnedText name) = .ok s :=
  check_of_mem apart hm rfl

theorem check_flag {b : Bool} (apart : (given.map (·.1)).Pairwise Apart)
    (hm : (f, .bool b) ∈ given) (default : Check Bool) :
    f.check (entriesOf spelling given) default checkFlag = .ok b := check_of_mem apart hm rfl

end Field

/-- Where each key is the one that counts for a field, no key is refused. -/
theorem checkKeys_of_given {fields : List Field} {data : Entries}
    (h : ∀ e ∈ data, ∃ f ∈ fields, ∃ p, f.given data = some p ∧ e.1 = .text p.1) :
    checkKeys fields data = .ok () := by
  have fine : data.filterMap (fun e => keyIssue
      (fields.filterMap fun f => (f.given data).map (·.1)) e.1) = [] := by
    refine List.filterMap_eq_nil_iff.2 fun e he => ?_
    obtain ⟨f, hf, p, given, key⟩ := h e he
    have known : p.1 ∈ fields.filterMap fun f => (f.given data).map (·.1) :=
      List.mem_filterMap.2 ⟨f, hf, by rw [given]; rfl⟩
    simp [key, keyIssue, known]
  simp only [checkKeys, fine]

theorem checkKeys_entriesOf {spelling : Spelling} {given : List (Field × Value)}
    (apart : (given.map (·.1)).Pairwise Field.Apart) :
    checkKeys (given.map (·.1)) (Field.entriesOf spelling given) = .ok () := by
  refine checkKeys_of_given fun e he => ?_
  obtain ⟨p, hp, rfl⟩ := List.mem_map.1 he
  exact ⟨p.1, List.mem_map_of_mem hp, _, Field.given_of_mem apart hp, rfl⟩

end CiWorkflow
