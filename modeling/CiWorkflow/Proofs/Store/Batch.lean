import CiWorkflow.Proofs.Config.LongNumbers
import CiWorkflow.Proofs.Store.Revalidation
import CiWorkflow.Proofs.Store.Ending

set_option autoImplicit false

namespace CiWorkflow

def Operation.setFields (changes : List (Field × Value)) : Operation :=
  .updateContainer (Field.entriesOf .name changes)

def Outcome.rejection? (o : Outcome) : Option Rejection :=
  match o.answer with
  | .error (.invalid _ rejection) => some rejection
  | _ => none

def Outcome.issues (o : Outcome) : List Issue := (o.rejection?.getD (.issues [])).issueList

namespace Store
variable {s : Store} {changes order : List (Field × Value)} {c : Container}

theorem ending_setFields {checked : Checked Container}
    (known : ∀ p ∈ changes, p.1 ∈ Container.fields)
    (h : s.container.update (Field.entriesOf .name changes) s.drawn = checked) :
    (s.attempt (.setFields changes)).ending = match checked.result with
      | .ok c => .changed (.container c) { s with container := c, drawn := checked.drawn }
      | .error rejection => .refused (.invalid Container.title rejection) := by
  have fine := refusal?_setFields known
  simp only [Operation.setFields, attempt, withNames, fine, changeContainer, Attempt.ofChecked, h]
  cases checked.result <;> rfl

/-- Whoever fails when told of a change, that does not make its values wrong. -/
theorem rejection?_of_changed {op : Operation} {answer : Answer} {s' : Store}
    (h : (s.attempt op).ending = .changed answer s') : (s.step op).rejection? = none := by
  cases failed : s'.told.failed <;> simp only [step, h, failed, Outcome.rejection?]

theorem rejection?_setFields (s : Store) (known : ∀ p ∈ changes, p.1 ∈ Container.fields) :
    let checked := s.container.update (Field.entriesOf .name changes) s.drawn
    (s.step (.setFields changes)).rejection? =
      if checked.isOk then none else some checked.rejection := by
  intro checked
  have ending := ending_setFields known (rfl : _ = checked)
  cases hr : checked.result with
  | error rejection =>
    rw [hr] at ending
    simp only [step, ending, Outcome.rejection?, Checked.isOk, Checked.rejection, hr, Except.isOk,
      Except.toBool, Bool.false_eq_true, if_false]
  | ok c =>
    rw [hr] at ending
    rw [rejection?_of_changed ending, if_pos (Checked.isOk_iff.2 ⟨c, hr⟩)]

theorem isSome_rejection?_setFields (s : Store) (known : ∀ p ∈ changes, p.1 ∈ Container.fields) :
    (s.step (.setFields changes)).rejection?.isSome = true ↔
      ¬(s.container.update (Field.entriesOf .name changes) s.drawn).isOk = true := by
  rw [s.rejection?_setFields known]
  split <;> simp_all

theorem exists_update_of_rejection?_eq_none (known : ∀ p ∈ changes, p.1 ∈ Container.fields)
    (h : (s.step (.setFields changes)).rejection? = none) :
    ∃ c, (s.container.update (Field.entriesOf .name changes) s.drawn).result = .ok c := by
  refine Checked.isOk_iff.1 (Classical.not_not.1 fun refused => ?_)
  have some := (s.isSome_rejection?_setFields known).2 refused
  rw [h] at some
  exact absurd some (by simp)

theorem getD_rejection?_setFields (s : Store) (known : ∀ p ∈ changes, p.1 ∈ Container.fields) :
    (s.step (.setFields changes)).rejection?.getD (.issues []) =
      (s.container.update (Field.entriesOf .name changes) s.drawn).rejection := by
  rw [s.rejection?_setFields known]
  split
  · rename_i fine
    rw [Option.getD_none, Checked.rejection_of_isOk fine]
  · rfl

/-- The rejections of the single updates make up the one of them all. -/
theorem getD_rejection?_inOrder (valid : s.container.Valid)
    (chosen : Field.Chosen Container.fields changes) :
    (s.step (.setFields changes)).rejection?.getD (.issues []) =
      .all ((Field.inOrder Container.fields changes).map fun p =>
        (s.step (.setFields [p])).rejection?.getD (.issues [])) := by
  have nodup := Container.valid_iff_nodup.1 valid
  rw [s.getD_rejection?_setFields chosen.known, Container.rejection_update_inOrder nodup chosen]
  refine congrArg Rejection.all (List.map_congr_left fun p hp => ?_)
  have known := (chosen.alone (Field.mem_of_mem_inOrder hp)).known
  exact (s.getD_rejection?_setFields known).symm

theorem getD_eq_longNumber_iff {r : Option Rejection} :
    r.getD (.issues []) = .longNumber ↔ r = some .longNumber := by
  cases r <;> simp

/-- Only a number that is too long for a text cuts the checking of new values short. -/
theorem rejection?_eq_longNumber_iff (s : Store) (chosen : Field.Chosen Container.fields changes) :
    (s.step (.setFields changes)).rejection? = some .longNumber ↔
      ∃ v ∈ Container.valuesForTexts (Field.entriesOf .name changes), v.isLong = true := by
  have cut := Container.isCut_update (c := s.container) chosen s.drawn
  rw [Checked.isCut_eq] at cut
  rw [← getD_eq_longNumber_iff, s.getD_rejection?_setFields chosen.known, ← List.any_eq_true, ← cut,
    beq_iff_eq]

/-- Without such a number the issues of the single updates make up those of them all. -/
theorem issues_inOrder (valid : s.container.Valid) (chosen : Field.Chosen Container.fields changes)
    (short : (s.step (.setFields changes)).rejection? ≠ some .longNumber) :
    (s.step (.setFields changes)).issues =
      (Field.inOrder Container.fields changes).flatMap fun p =>
        (s.step (.setFields [p])).issues := by
  have all := s.getD_rejection?_inOrder valid chosen
  cases found : (s.step (.setFields changes)).rejection?.getD (.issues []) with
  | longNumber => exact absurd (getD_eq_longNumber_iff.1 found) short
  | issues issues =>
    rw [found] at all
    rw [Outcome.issues, found, Rejection.issueList, Rejection.issueList_all all.symm,
      List.flatMap_map]
    rfl

theorem store_setFields (known : ∀ p ∈ changes, p.1 ∈ Container.fields)
    (ok : (s.container.update (Field.entriesOf .name changes) s.drawn).result = .ok c) :
    (s.step (.setFields changes)).store.container = c ∧
      (s.step (.setFields changes)).store.drawn =
        (s.container.update (Field.entriesOf .name changes) s.drawn).drawn := by
  simp only [step, ending_setFields known rfl, ok, and_self]

/-- Updates of one field at a time, in whatever order, lead where an update of all of them does. -/
theorem after_setFields (valid : s.container.Valid) (chosen : Field.Chosen Container.fields order)
    (ok : (s.container.update (Field.entriesOf .name order) s.drawn).result = .ok c) :
    let t := s.after (order.map fun p => .setFields [p])
    t.container = c ∧
    t.drawn = (s.container.update (Field.entriesOf .name order) s.drawn).drawn ∧
    ∀ before p later, order = before ++ p :: later →
      ((s.after (before.map fun p => .setFields [p])).step (.setFields [p])).rejection? = none := by
  induction order generalizing s with
  | nil =>
    have none : s.container.update (Field.entriesOf .name []) s.drawn =
        ⟨s.drawn, [], .ok s.container⟩ := Container.update_nil valid s.drawn
    rw [none] at ok ⊢
    exact ⟨Except.ok.inj ok, rfl, fun before p later split => absurd split (by simp)⟩
  | cons e rest ih =>
    obtain ⟨mid, first, others, drawn⟩ :=
      Container.update_cons (Container.valid_iff_nodup.1 valid) chosen ok
    have alone := (chosen.alone List.mem_cons_self).known
    have fine : (s.step (.setFields [e])).rejection? = none := by
      rw [s.rejection?_setFields alone]
      exact if_pos (Checked.isOk_iff.2 ⟨mid, first⟩)
    obtain ⟨container, count⟩ := store_setFields alone first
    have next : (s.step (.setFields [e])).store.container.Valid := valid_step valid _
    obtain ⟨last, counted, none⟩ := ih next chosen.tail (by rw [container, count]; exact others)
    refine ⟨last, ?_, fun before p later split => ?_⟩
    · rw [← drawn]
      exact counted.trans (by rw [container, count])
    · cases before with
      | nil =>
        obtain ⟨rfl, rfl⟩ := List.cons.inj split
        exact fine
      | cons e' before =>
        obtain ⟨rfl, more⟩ := List.cons.inj split
        exact none before p later more

end Store

end CiWorkflow
