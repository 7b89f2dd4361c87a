import CiWorkflow.Proofs.Cli.Outcome
import CiWorkflow.Proofs.Text.Wrap
import Mathlib.Data.List.FinRange

/-! Which arguments the time of the commit replaces, and what the user is told of them. The entries
of the build step, the list of replaced arguments and the warning are made apart from each other,
and yet they agree place by place. -/

set_option autoImplicit false

namespace CiWorkflow.Container

open Workflow Cli Session

/-- A filtered list is what stands at the places that pass, in their order. -/
theorem filter_eq_map_places {α : Type} (xs : List α) (p : α → Bool) :
    xs.filter p = ((List.finRange xs.length).filter fun i => p xs[i]).map fun i => xs[i] := by
  have whole : (List.finRange xs.length).map (fun i => xs[i]) = xs := List.map_getElem_finRange xs
  conv_lhs => rw [← whole, List.filter_map]
  rfl

def ownText (a : BuildArg) : String :=
  a.key ++ "=" ++ if a.isDynamic then envRef a.key else a.value

theorem text_argEntry (a : BuildArg) : (argEntry a).text = ownText a := by
  cases h : a.isDynamic <;> simp [argEntry, ArgEntry.text, ownText, h]

def ownPlaces (c : Container) : List (Fin c.buildArgs.length) :=
  (List.finRange c.buildArgs.length).filter fun i => c.buildArgs[i] ∉ c.shadowedArgs

variable {c : Container}

theorem mem_shadowedArgs {a : BuildArg} : a ∈ c.shadowedArgs ↔
    a ∈ c.buildArgs ∧ c.rewriteTimestamp = true ∧ a.key = epochKey := by
  rw [shadowedArgs]
  split <;> simp_all

theorem mem_ownPlaces {i : Fin c.buildArgs.length} :
    i ∈ c.ownPlaces ↔ c.buildArgs[i] ∉ c.shadowedArgs := by
  simp [ownPlaces]

theorem argTexts_eq (c : Container) :
    c.argTexts = (if c.rewriteTimestamp then [epochKey ++ "=" ++ envRef epochKey] else []) ++
      c.ownPlaces.map fun i => ownText c.buildArgs[i] := by
  have own : c.buildArgs.filter (fun a => !c.shadowedArgs.contains a) =
      c.ownPlaces.map fun i => c.buildArgs[i] := by
    rw [filter_eq_map_places, ownPlaces]
    simp
  have lead : (if c.rewriteTimestamp then [(⟨epochKey, .variable⟩ : ArgEntry)] else []).map
      (·.text) = if c.rewriteTimestamp then [epochKey ++ "=" ++ envRef epochKey] else [] := by
    split <;> rfl
  rw [argTexts, argEntries, own, List.map_append, lead]
  simp [Function.comp_def, text_argEntry]

theorem pairwise_ownPlaces (c : Container) : c.ownPlaces.Pairwise (· < ·) := by
  have places : ((List.finRange c.buildArgs.length).map Fin.val).Pairwise (· < ·) := by
    rw [List.map_coe_finRange_eq_range]
    exact List.pairwise_lt_range
  exact (List.pairwise_map.1 places).filter _

theorem length_ownPlaces (c : Container) :
    c.ownPlaces.length + c.shadowedArgs.length = c.buildArgs.length := by
  have replaced : c.buildArgs.filter (c.shadowedArgs.contains ·) = c.shadowedArgs := by
    have byKey : c.buildArgs.filter (c.shadowedArgs.contains ·) =
        c.buildArgs.filter fun a => c.rewriteTimestamp && a.key == epochKey :=
      List.filter_congr fun a ha => contains_shadowedArgs ha
    rw [byKey, shadowedArgs]
    cases c.rewriteTimestamp <;> simp
  have own : c.ownPlaces.length =
      (c.buildArgs.filter fun a => !c.shadowedArgs.contains a).length := by
    rw [filter_eq_map_places, List.length_map, ownPlaces]
    simp
  have parts := List.length_eq_length_filter_add (l := c.buildArgs) (c.shadowedArgs.contains ·)
  rw [replaced] at parts
  omega

theorem exists_shadowed_iff :
    (∃ i : Fin c.buildArgs.length, i ∉ c.ownPlaces) ↔ c.shadowedArgs ≠ [] := by
  simp only [mem_ownPlaces, not_not]
  constructor
  · rintro ⟨i, replaced⟩ none
    simp [none] at replaced
  · intro some
    obtain ⟨a, replaced⟩ := List.exists_mem_of_ne_nil _ some
    obtain ⟨i, inside, rfl⟩ := List.getElem_of_mem (mem_shadowedArgs.1 replaced).1
    exact ⟨⟨i, inside⟩, replaced⟩

/-- What is said of replaced arguments, all of which have the same key. -/
def shadowText : String :=
  "Warning: timestamp rewriting overrides build argument(s): " ++ epochKey

theorem shadowNote?_eq (c : Container) :
    c.shadowNote? = if c.shadowedArgs = [] then none else some shadowText := by
  rw [shadowNote?]
  split
  next none => rw [if_pos none]
  next a rest replaced =>
    have among : a ∈ c.shadowedArgs := by
      rw [replaced]
      exact List.mem_cons_self
    rw [if_neg (by rw [replaced]; exact List.cons_ne_nil a rest), (mem_shadowedArgs.1 among).2.2]
    rfl

theorem shown_shadowText :
    Text.Markup.shown (tagged "yellow" shadowText).toList = .ok shadowText.toList := by
  have letters : shadowText.toList = "Warning".toList ++ (':' :: ' ' ::
      ("timestamp rewriting overrides build argument(s)".toList ++
        (':' :: ' ' :: epochKey.toList))) := by
    decide +kernel
  have noPicture : Text.Emoji.replace shadowText.toList = shadowText.toList := by
    have spaced {cs : List Char} (h : ':' ∉ cs) (rest : List Char) :
        Text.Emoji.replace (' ' :: (cs ++ rest)) = ' ' :: (cs ++ Text.Emoji.replace rest) := by
      have free : ':' ∉ ' ' :: cs := by simp [h]
      exact Text.Emoji.replace_append_of_no_colon free rest
    rw [letters, Text.Emoji.replace_append_of_no_colon (by decide),
      Text.Emoji.replace_colon_blank (by decide), spaced (by decide),
      Text.Emoji.replace_colon_blank (by decide), Text.Emoji.replace_of_no_colon (by decide)]
  rw [toList_tagged]
  exact Text.Markup.shown_of_tokens (Text.Markup.isPlainStyle_of_mem "yellow" (by decide))
    (by decide +kernel) noPicture (by decide +kernel)

theorem outcome_warnShadowed (c : Container) (p : Progress) : (warnShadowed c).outcome p =
    (.ok (), { p with messages := p.messages ++
      if c.shadowedArgs = [] then [] else [line p.columns shadowText.toList] }) := by
  rw [warnShadowed, shadowNote?_eq]
  by_cases none : c.shadowedArgs = []
  · rw [if_pos none, if_pos none, List.append_nil]
    rfl
  · rw [if_neg none, if_neg none]
    exact outcome_say_ok shown_shadowText p

/-- In lines that are wide enough the text of the warning is shown as it is. -/
theorem line_shadowText {columns : Nat} (fits : shadowText.toList.length ≤ columns) :
    line columns shadowText.toList = .text (shadowText ++ "\n") := by
  rw [line, Text.laidOut_narrow (by decide +kernel) fits, String.ofList_toList]

/-- The time of the commit leads if timestamps are rewritten. Then comes one entry for each argument
that is not replaced, in the order of the arguments and with all repetitions, and the user is warned
just if some place of the list has no entry. No entry of an argument takes the timestamp's key while
it leads. -/
theorem warned_of_replaced (c : Container) (p : Progress) :
    let own := c.ownPlaces
    (own.Pairwise (· < ·) ∧ ∀ i, i ∈ own ↔ c.buildArgs[i] ∉ c.shadowedArgs) ∧
    c.argTexts = (if c.rewriteTimestamp then [epochKey ++ "=" ++ envRef epochKey] else []) ++
      own.map (fun i => ownText c.buildArgs[i]) ∧
    (c.shadowedArgs.length ≤ c.buildArgs.length ∧
      c.argTexts.length = c.buildArgs.length - c.shadowedArgs.length +
        if c.rewriteTimestamp then 1 else 0) ∧
    (warnShadowed c).outcome p = (.ok (), { p with messages := p.messages ++
      if ∃ i, i ∉ own then [line p.columns shadowText.toList] else [] }) ∧
    (shadowText.toList.length ≤ p.columns →
      line p.columns shadowText.toList = .text (shadowText ++ "\n")) ∧
    (c.rewriteTimestamp = true → ∀ i ∈ own, c.buildArgs[i].key ≠ epochKey) := by
  intro own
  have texts : c.argTexts = _ := c.argTexts_eq
  have count := c.length_ownPlaces
  have kept : c.ownPlaces.length = c.buildArgs.length - c.shadowedArgs.length := by omega
  refine ⟨⟨c.pairwise_ownPlaces, fun i => mem_ownPlaces⟩, texts, ⟨by omega, ?_⟩, ?_,
    line_shadowText, ?_⟩
  · rw [texts, List.length_append, List.length_map, kept, Nat.add_comm]
    split <;> rfl
  · rw [outcome_warnShadowed]
    simp only [own, exists_shadowed_iff, ne_eq, ite_not]
  · intro rewrites i handed epoch
    exact mem_ownPlaces.1 handed
      (mem_shadowedArgs.2 ⟨List.getElem_mem i.isLt, rewrites, epoch⟩)

/-- Equal arguments are handed on each, or replaced each. -/
example : { initial with buildArgs := [⟨"1", "A", "x", false⟩, ⟨"2", epochKey, "0", false⟩,
      ⟨"1", "A", "x", false⟩, ⟨"2", epochKey, "0", false⟩] }.argTexts =
    [epochKey ++ "=" ++ envRef epochKey, "A=x", "A=x"] := by
  decide +kernel

end CiWorkflow.Container
