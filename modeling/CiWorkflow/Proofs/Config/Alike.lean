import CiWorkflow.Proofs.Config.Issues
import Mathlib.Data.List.Forall2

/-! Checks that find the same except for how a field is spelled in the places of issues, and checks
that always find that there is something wrong with a key. -/

set_option autoImplicit false

namespace CiWorkflow

def Place.Alike (fields : List Field) (p q : Place) : Prop :=
  p = q ∨ ∃ f ∈ fields, ∃ a b, p = .key (f.spell a) ∧ q = .key (f.spell b)

/-- One and the same issue, apart from the spelling of fields in its place. -/
structure Issue.Alike (fields : List Field) (e e' : Issue) : Prop where
  cause : e.cause = e'.cause
  place : List.Forall₂ (Place.Alike fields) e.place e'.place

theorem Issue.alike_refl {fields : List Field} (e : Issue) : e.Alike fields e :=
  ⟨rfl, List.forall₂_same.2 fun _ _ => .inl rfl⟩

namespace Rejection

inductive Blames : Rejection → Prop where
  | key {found : List Issue} {e : Issue} (among : e ∈ found)
    (cause : e.cause = .extraKey ∨ e.cause = .keyNotText) : Blames (issues found)
  | longNumber : Blames longNumber

theorem not_blames_nil : ¬ (issues []).Blames := by
  rintro ⟨among, -⟩
  exact List.not_mem_nil among

theorem Blames.and_left {e : Rejection} (h : e.Blames) (e' : Rejection) : (e.and e').Blames := by
  cases h with
  | longNumber => exact .longNumber
  | key among cause =>
    cases e' with
    | issues found => exact .key (List.mem_append_left _ among) cause
    | longNumber => exact .longNumber

theorem Blames.and_right {e : Rejection} (h : e.Blames) (e' : Rejection) : (e'.and e).Blames := by
  cases e' with
  | longNumber => exact .longNumber
  | issues found =>
    cases h with
    | longNumber => exact .longNumber
    | key among cause => exact .key (List.mem_append_right _ among) cause

theorem Blames.under {e : Rejection} (h : e.Blames) (p : Place) : (e.under p).Blames := by
  cases h with
  | longNumber => exact .longNumber
  | key among cause => exact .key (List.mem_map.2 ⟨_, among, rfl⟩) cause

end Rejection

namespace Checked
variable {α : Type}

/-- The same result, or the same issues in the same order, or a number that is too long in both. -/
inductive SameResult (fields : List Field) : Except Rejection α → Except Rejection α → Prop where
  | ok (a : α) : SameResult fields (.ok a) (.ok a)
  | issues {found found' : List Issue} (h : List.Forall₂ (Issue.Alike fields) found found') :
    SameResult fields (.error (.issues found)) (.error (.issues found'))
  | longNumber : SameResult fields (.error .longNumber) (.error .longNumber)

/-- Nothing is different but the spelling of fields in the places of issues. -/
structure Alike (fields : List Field) (c c' : Checked α) : Prop where
  drawn : c.drawn = c'.drawn
  warnings : c.warnings = c'.warnings
  result : SameResult fields c.result c'.result

theorem SameResult.isCut {c c' : Checked α} {fields : List Field}
    (h : SameResult fields c.result c'.result) : c.isCut = c'.isCut := by
  rw [Checked.isCut, Checked.isCut]
  generalize c.result = r, c'.result = r' at h
  cases h <;> rfl

end Checked

namespace Check
variable {α β : Type} {fields : List Field}

def Alike (fields : List Field) (x y : Check α) : Prop := ∀ n, (x n).Alike fields (y n)

theorem alike_refl (x : Check α) : x.Alike fields x := by
  intro n
  refine ⟨rfl, rfl, ?_⟩
  rcases (x n).result with (found | _) | a
  · exact .issues (List.forall₂_same.2 fun e _ => e.alike_refl)
  · exact .longNumber
  · exact .ok a

theorem Alike.also {f g : Check (α → β)} {x y : Check α} (hf : f.Alike fields g)
    (hx : x.Alike fields y) : (f.also x).Alike fields (g.also y) := by
  intro n
  obtain ⟨drawn, warnings, result⟩ := hf n
  obtain ⟨drawn', warnings', result'⟩ := hx (f n).drawn
  cases cut : (f n).isCut with
  | true =>
    rw [also_of_isCut cut, also_of_isCut (result.isCut ▸ cut)]
    exact ⟨drawn, warnings, .longNumber⟩
  | false =>
    rw [also_of_not_isCut cut, also_of_not_isCut (result.isCut ▸ cut), ← drawn]
    refine ⟨drawn', by simp only [warnings, warnings'], ?_⟩
    dsimp only
    generalize (f n).result = r, (g n).result = s at result
    generalize (x (f n).drawn).result = r', (y (f n).drawn).result = s' at result'
    cases result with
    | ok h =>
      cases result' with
      | ok a => exact .ok (h a)
      | issues same => exact .issues same
      | longNumber => exact .longNumber
    | issues same =>
      cases result' with
      | ok a => exact .issues same
      | issues same' => exact .issues (List.rel_append same same')
      | longNumber => exact .longNumber
    | longNumber => cases result' <;> exact .longNumber

theorem Alike.map {x y : Check α} (h : x.Alike fields y) (f : α → β) :
    (x.map f).Alike fields (y.map f) := by
  intro n
  obtain ⟨drawn, warnings, result⟩ := h n
  refine ⟨drawn, warnings, ?_⟩
  simp only [Check.map]
  generalize (x n).result = r, (y n).result = s at result
  cases result with
  | ok a => exact .ok (f a)
  | issues same => exact .issues same
  | longNumber => exact .longNumber

theorem Alike.under {x y : Check α} (h : x.Alike fields y) {p q : Place}
    (place : p.Alike fields q) : (x.under p).Alike fields (y.under q) := by
  intro n
  obtain ⟨drawn, warnings, result⟩ := h n
  refine ⟨drawn, warnings, ?_⟩
  simp only [Check.under]
  generalize (x n).result = r, (y n).result = s at result
  cases result with
  | ok a => exact .ok a
  | issues same =>
    refine .issues (List.rel_map ?_ same)
    exact fun e e' alike => ⟨alike.cause, .cons place alike.place⟩
  | longNumber => exact .longNumber

theorem Alike.all {xs ys : List (Check α)} (h : List.Forall₂ (Alike fields) xs ys) :
    (all xs).Alike fields (all ys) := by
  induction h with
  | nil => exact alike_refl _
  | cons head _ ih => exact (head.map _).also ih

/-- The check always finds that there is something wrong with a key, unless a number that is too
long keeps it from looking at the keys. -/
def Blames (x : Check α) : Prop := ∀ n, ∃ e, (x n).result = .error e ∧ e.Blames

theorem blames_iff {x : Check α} : x.Blames ↔ ∀ n, (x n).rejection.Blames := by
  refine forall_congr' fun n => ⟨?_, fun blames => ?_⟩
  · rintro ⟨e, rejected, blames⟩
    simpa only [Checked.rejection, rejected] using blames
  · refine ⟨_, Checked.result_of_not_isOk (Bool.not_eq_true _ |>.mp fun ok => ?_), blames⟩
    exact Rejection.not_blames_nil (Checked.rejection_of_isOk ok ▸ blames)

theorem Blames.not_isOk {x : Check α} (h : x.Blames) (n : Nat) : (x n).isOk ≠ true := by
  obtain ⟨e, rejected, -⟩ := h n
  intro ok
  obtain ⟨_, ok⟩ := Checked.isOk_iff.1 ok
  cases rejected.symm.trans ok

theorem Blames.also_left {f : Check (α → β)} (h : f.Blames) (x : Check α) : (f.also x).Blames := by
  refine blames_iff.2 fun n => ?_
  rw [rejection_also]
  exact (blames_iff.1 h n).and_left _

theorem Blames.also_right {x : Check α} (h : x.Blames) (f : Check (α → β)) : (f.also x).Blames := by
  refine blames_iff.2 fun n => ?_
  rw [rejection_also]
  exact (blames_iff.1 h _).and_right _

theorem Blames.map {x : Check α} (h : x.Blames) (f : α → β) : (x.map f).Blames := by
  refine blames_iff.2 fun n => ?_
  rw [rejection_map]
  exact blames_iff.1 h n

theorem Blames.under {x : Check α} (h : x.Blames) (p : Place) : (x.under p).Blames := by
  refine blames_iff.2 fun n => ?_
  rw [rejection_under]
  exact (blames_iff.1 h n).under p

theorem Blames.all {xs : List (Check α)} {x : Check α} (h : x.Blames) (among : x ∈ xs) :
    (all xs).Blames := by
  induction xs with
  | nil => exact absurd among List.not_mem_nil
  | cons y rest ih =>
    rcases List.mem_cons.1 among with rfl | among
    · exact (h.map _).also_left _
    · exact (ih among).also_right _

end Check

theorem alike_checkItems {α : Type} {fields : List Field} {check : Value → Check α}
    {same : Value → Value → Prop} {vs ws : List Value} (h : List.Forall₂ same vs ws)
    (values : ∀ v ∈ vs, ∀ w, same v w → (check v).Alike fields (check w)) :
    (checkItems check vs).Alike fields (checkItems check ws) := by
  refine Check.Alike.all ?_
  generalize 0 = start
  induction h generalizing start with
  | nil => exact .nil
  | @cons v w vs ws head _ ih =>
    have first := (values v List.mem_cons_self w head).under (p := .index start) (.inl rfl)
    exact .cons first (ih (fun v hv => values v (List.mem_cons_of_mem _ hv)) (start + 1))

theorem Check.Blames.checkItems {α : Type} {check : Value → Check α} {items : List Value}
    {v : Value} (h : (check v).Blames) (item : v ∈ items) : (checkItems check items).Blames := by
  obtain ⟨i, here⟩ := List.mem_iff_getElem?.1 item
  have among : ((check v).under (.index i)) ∈
      items.zipIdx.map fun p => (check p.1).under (.index p.2) :=
    List.mem_map.2 ⟨(v, i), List.mem_zipIdx_iff_getElem?.2 here, rfl⟩
  exact (h.under _).all among

end CiWorkflow
