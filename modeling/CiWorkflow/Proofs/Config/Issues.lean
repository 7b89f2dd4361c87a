import CiWorkflow.Proofs.Config.Validity

set_option autoImplicit false

namespace CiWorkflow

namespace Rejection

@[simp] theorem nil_and (e : Rejection) : (issues []).and e = e := by cases e <;> rfl

@[simp] theorem and_nil (e : Rejection) : e.and (issues []) = e := by
  cases e with
  | issues found => simp [Rejection.and]
  | longNumber => rfl

@[simp] theorem longNumber_and (e : Rejection) : longNumber.and e = longNumber := rfl

@[simp] theorem and_longNumber (e : Rejection) : e.and longNumber = longNumber := by
  cases e <;> rfl

theorem and_assoc (a b c : Rejection) : (a.and b).and c = a.and (b.and c) := by
  cases a <;> cases b <;> cases c <;> simp [Rejection.and]

def all : List Rejection → Rejection
  | [] => issues []
  | e :: rest => e.and (all rest)

theorem all_append (es es' : List Rejection) : all (es ++ es') = (all es).and (all es') := by
  induction es with
  | nil => simp [all]
  | cons e rest ih => rw [List.cons_append, all, all, ih, and_assoc]

def issueList : Rejection → List Issue
  | issues found => found
  | longNumber => []

theorem all_eq_longNumber_iff {es : List Rejection} : all es = longNumber ↔ longNumber ∈ es := by
  induction es with
  | nil => simp [all]
  | cons e rest ih =>
    rw [all, List.mem_cons, ← ih]
    cases e with
    | longNumber => simp
    | issues found => cases h : all rest <;> simp [Rejection.and]

theorem issueList_all {es : List Rejection} {found : List Issue} (h : all es = issues found) :
    found = es.flatMap issueList := by
  induction es generalizing found with
  | nil => exact (issues.inj h).symm
  | cons e rest ih =>
    cases e with
    | longNumber => cases h
    | issues here =>
      cases later : all rest with
      | longNumber => rw [all, later] at h; cases h
      | issues others =>
        rw [all, later] at h
        rw [List.flatMap_cons, ← ih later]
        exact (issues.inj h).symm

end Rejection

namespace Checked
variable {α : Type}

def rejection (c : Checked α) : Rejection :=
  match c.result with
  | .ok _ => .issues []
  | .error e => e

def isOk (c : Checked α) : Bool := c.result.isOk

theorem isOk_iff {c : Checked α} : c.isOk = true ↔ ∃ a, c.result = .ok a := by
  cases h : c.result <;> simp [isOk, h, Except.isOk, Except.toBool]

theorem rejection_of_isOk {c : Checked α} (h : c.isOk = true) : c.rejection = .issues [] := by
  obtain ⟨a, ha⟩ := isOk_iff.1 h
  simp only [rejection, ha]

theorem result_of_not_isOk {c : Checked α} (h : c.isOk = false) :
    c.result = .error c.rejection := by
  cases hr : c.result with
  | ok a => simp [isOk, hr, Except.isOk, Except.toBool] at h
  | error es => simp only [rejection, hr]

theorem isCut_iff {c : Checked α} : c.isCut = true ↔ c.result = .error .longNumber := by
  rw [isCut]
  split <;> simp_all

theorem isCut_of_isOk {c : Checked α} (h : c.isOk = true) : c.isCut = false := by
  obtain ⟨a, ha⟩ := isOk_iff.1 h
  rw [isCut, ha]

end Checked

namespace Check
variable {α β : Type}

def forget (x : Check α) : Check Unit := x.map fun _ => ()

theorem also_of_isCut {f : Check (α → β)} {n : Nat} (h : (f n).isCut = true) (x : Check α) :
    f.also x n = ⟨(f n).drawn, (f n).warnings, .error .longNumber⟩ := by
  simp only [also, if_pos h]

theorem also_of_not_isCut {f : Check (α → β)} {n : Nat} (h : (f n).isCut = false) (x : Check α) :
    f.also x n = ⟨(x (f n).drawn).drawn, (f n).warnings ++ (x (f n).drawn).warnings,
      join (f n).result (x (f n).drawn).result⟩ := by
  simp only [also, h, Bool.false_eq_true, if_false]

section
variable (n : Nat)

@[simp] theorem rejection_ok (a : α) : (ok a n).rejection = .issues [] := rfl

@[simp] theorem isOk_ok (a : α) : (ok a n).isOk = true := rfl

@[simp] theorem drawn_ok (a : α) : (ok a n).drawn = n := rfl

@[simp] theorem isCut_ok (a : α) : (ok a n).isCut = false := rfl

@[simp] theorem rejection_map (f : α → β) (x : Check α) :
    (x.map f n).rejection = (x n).rejection := by
  cases h : (x n).result <;> simp [map, Checked.rejection, h, Except.map]

@[simp] theorem isOk_map (f : α → β) (x : Check α) : (x.map f n).isOk = (x n).isOk := by
  cases h : (x n).result <;> simp [map, Checked.isOk, h, Except.map, Except.isOk, Except.toBool]

@[simp] theorem rejection_under (p : Place) (x : Check α) :
    (x.under p n).rejection = (x n).rejection.under p := by
  cases h : (x n).result <;> simp [under, Checked.rejection, h, Except.mapError, Rejection.under]

@[simp] theorem isOk_under (p : Place) (x : Check α) : (x.under p n).isOk = (x n).isOk := by
  cases h : (x n).result <;>
    simp [under, Checked.isOk, h, Except.mapError, Except.isOk, Except.toBool]

/-- Issues add up. Where the first check was cut short, nothing that the second one might find
counts. -/
@[simp] theorem rejection_also (f : Check (α → β)) (x : Check α) :
    (f.also x n).rejection = (f n).rejection.and (x (f n).drawn).rejection := by
  cases cut : (f n).isCut with
  | true =>
    rw [also_of_isCut cut]
    simp only [Checked.rejection, Checked.isCut_iff.1 cut, Rejection.longNumber_and]
  | false =>
    rw [also_of_not_isCut cut]
    cases hf : (f n).result <;> cases hx : (x (f n).drawn).result <;>
      simp [Checked.rejection, hf, hx, join]

@[simp] theorem isOk_also (f : Check (α → β)) (x : Check α) :
    (f.also x n).isOk = ((f n).isOk && (x (f n).drawn).isOk) := by
  cases cut : (f n).isCut with
  | true =>
    rw [also_of_isCut cut]
    simp [Checked.isOk, Checked.isCut_iff.1 cut, Except.isOk, Except.toBool]
  | false =>
    rw [also_of_not_isCut cut]
    cases hf : (f n).result <;> cases hx : (x (f n).drawn).result <;>
      simp [Checked.isOk, hf, hx, join, Except.isOk, Except.toBool]

theorem drawn_also (f : Check (α → β)) (x : Check α) :
    (f.also x n).drawn =
      if (f n).isCut then (f n).drawn else (x (f n).drawn).drawn := by
  cases cut : (f n).isCut with
  | true => rw [also_of_isCut cut, if_pos rfl]
  | false =>
    rw [also_of_not_isCut cut]
    simp only [Bool.false_eq_true, if_false]

theorem drawn_also_of_isOk {f : Check (α → β)} {x : Check α} (h : (f.also x n).isOk = true) :
    (f.also x n).drawn = (x (f n).drawn).drawn := by
  rw [isOk_also, Bool.and_eq_true] at h
  rw [also_of_not_isCut (Checked.isCut_of_isOk h.1)]

@[simp] theorem rejection_forget (x : Check α) : (x.forget n).rejection = (x n).rejection :=
  rejection_map n _ x

@[simp] theorem isOk_forget (x : Check α) : (x.forget n).isOk = (x n).isOk := isOk_map n _ x

end

theorem also_ok_unit (x : Check α) : (x.map fun a _ => a).also (ok ()) = x := by
  funext n
  cases h : x n with
  | mk drawn warnings result =>
    rcases result with (found | _) | a <;>
      simp [also, map, ok, h, join, Except.map, Checked.isCut]

/-- A check that draws no id, and does not depend on how many were drawn. -/
def Still (x : Check α) : Prop := ∀ n, x n = { x 0 with drawn := n }

theorem Still.drawn {x : Check α} (h : x.Still) (n : Nat) : (x n).drawn = n := by rw [h]

theorem Still.result {x : Check α} (h : x.Still) (n m : Nat) : (x n).result = (x m).result := by
  rw [h n, h m]

theorem still_ok (a : α) : (ok a).Still := fun _ => rfl

theorem still_fail (e : Rejection) : (fail e : Check α).Still := fun _ => rfl

theorem still_issue (cause : Cause) : (issue cause : Check α).Still := still_fail _

theorem Still.map {x : Check α} (h : x.Still) (f : α → β) : (x.map f).Still := by
  intro n
  simp only [Check.map, h n]

theorem Still.also {f : Check (α → β)} {x : Check α} (hf : f.Still) (hx : x.Still) :
    (f.also x).Still := by
  intro n
  have cut : (f n).isCut = (f 0).isCut := by rw [hf n]; rfl
  cases h : (f 0).isCut with
  | true => rw [also_of_isCut (cut.trans h), also_of_isCut h, hf n]
  | false => rw [also_of_not_isCut (cut.trans h), also_of_not_isCut h, hf n, hx n, hx (f 0).drawn]

theorem Still.under {x : Check α} (h : x.Still) (p : Place) : (x.under p).Still := by
  intro n
  simp only [Check.under, h n]

theorem Still.warn {x : Check α} (h : x.Still) (ws : List Warning) : (x.warn ws).Still := by
  intro n
  simp only [Check.warn, h n]

theorem Still.all {xs : List (Check α)} (h : ∀ x ∈ xs, x.Still) : (all xs).Still := by
  induction xs with
  | nil => exact still_ok []
  | cons x xs ih =>
    obtain ⟨hx, hxs⟩ := List.forall_mem_cons.1 h
    exact (hx.map List.cons).also (ih hxs)

def Silent (x : Check α) : Prop := ∀ n, x n = ⟨n, [], (x 0).result⟩

theorem Silent.still {x : Check α} (h : x.Silent) : x.Still := fun n => by rw [h n, h 0]

theorem Silent.warnings {x : Check α} (h : x.Silent) (n : Nat) : (x n).warnings = [] := by rw [h n]

theorem silent_ok (a : α) : (ok a).Silent := fun _ => rfl

theorem silent_fail (e : Rejection) : (fail e : Check α).Silent := fun _ => rfl

theorem silent_issue (cause : Cause) : (issue cause : Check α).Silent := silent_fail _

end Check

section Values
open Check

theorem silent_checkText (v : Value) : (checkText v).Silent := by
  cases v with
  | text | float => exact silent_ok _
  | int n =>
    rw [checkText]
    split
    · exact silent_fail _
    · exact silent_ok _
  | bytes bs =>
    rw [checkText]
    split
    · exact silent_ok _
    · exact silent_issue _
  | _ => exact silent_issue _

theorem still_checkText (v : Value) : (checkText v).Still := (silent_checkText v).still

theorem still_checkWarnedText (field : String) (v : Value) : (checkWarnedText field v).Still := by
  unfold checkWarnedText
  split
  · exact (still_checkText _).warn _
  · exact still_checkText v

theorem silent_checkFlagWord (cs : List Char) : (checkFlagWord cs).Silent := by
  simp only [checkFlagWord]
  split
  · exact silent_ok true
  · split
    · exact silent_ok false
    · exact silent_issue _

theorem silent_checkFlagNumber (n : Int) : (checkFlagNumber n).Silent := by
  rw [checkFlagNumber]
  split
  · exact silent_ok false
  · split
    · exact silent_ok true
    · split <;> exact silent_issue _

theorem silent_checkFlag (v : Value) : (checkFlag v).Silent := by
  cases v with
  | bool b => exact silent_ok b
  | int n => exact silent_checkFlagNumber n
  | float x =>
    rw [checkFlag]
    split
    · exact silent_checkFlagNumber _
    · exact silent_issue _
  | text s => exact silent_checkFlagWord _
  | bytes bs => exact silent_checkFlagWord _
  | _ => exact silent_issue _

theorem still_checkFlag (v : Value) : (checkFlag v).Still := (silent_checkFlag v).still

theorem silent_checkOutputText (s : String) : (checkOutputText s).Silent := by
  rw [checkOutputText]
  split
  · exact silent_ok _
  · exact silent_issue _

theorem silent_checkOutput (v : Value) : (checkOutput v).Silent := by
  cases v with
  | text s => exact silent_checkOutputText s
  | bytes bs =>
    rw [checkOutput]
    split
    · exact silent_checkOutputText _
    · exact silent_issue _
  | _ => exact silent_issue _

theorem still_checkOutput (v : Value) : (checkOutput v).Still := (silent_checkOutput v).still

theorem still_checkList {α : Type} {check : Value → Check α} (h : ∀ v, (check v).Still)
    (v : Value) : (checkList check v).Still := by
  have items (xs : List Value) : (checkItems check xs).Still := by
    refine Still.all fun x hx => ?_
    obtain ⟨p, -, rfl⟩ := List.mem_map.1 hx
    exact (h p.1).under _
  cases v with
  | list xs | tuple xs | set xs => exact items xs
  | _ => exact still_issue _

theorem still_checkPlatforms (v : Value) : (checkPlatforms v).Still :=
  (still_checkList still_checkText v).map _

/-- Each key that gives no field, in the spelling that counts, is one issue. -/
theorem rejection_checkKeys (fields : List Field) (data : Entries) (n : Nat) :
    (checkKeys fields data n).rejection = .issues (data.filterMap fun e =>
      keyIssue (fields.filterMap fun f => (f.given data).map (·.1)) e.1) := by
  simp only [checkKeys]
  generalize data.filterMap (fun e => keyIssue _ e.1) = issues
  cases issues <;> rfl

theorem silent_checkKeys (fields : List Field) (data : Entries) :
    (checkKeys fields data).Silent := by
  simp only [checkKeys]
  split
  · exact silent_ok ()
  · exact silent_fail _

theorem still_checkKeys (fields : List Field) (data : Entries) : (checkKeys fields data).Still :=
  (silent_checkKeys fields data).still

end Values

theorem Field.still_check {α : Type} {default : Check α} {check : Value → Check α}
    (hd : default.Still) (hc : ∀ v, (check v).Still) (f : Field) (data : Entries) :
    (f.check data default check).Still := by
  rw [Field.check]
  split
  · exact (hc _).under _
  · exact hd

theorem Pages.still_ofEntries (data : Entries) : (ofEntries data).Still := by
  have text (f : Field) (s : String) : (f.check data (.ok s) checkText).Still :=
    f.still_check (Check.still_ok s) still_checkText data
  have warned (f : Field) (s name : String) :
      (f.check data (.ok s) (checkWarnedText name)).Still :=
    f.still_check (Check.still_ok s) (still_checkWarnedText name) data
  have flag (f : Field) (b : Bool) : (f.check data (.ok b) checkFlag).Still :=
    f.still_check (Check.still_ok b) still_checkFlag data
  have checked := ((Check.still_ok mk).also (text branchField initial.branch)
    |>.also (warned nodeVersionField initial.nodeVersion "node_version")
    |>.also (text installField initial.installCommand)
    |>.also (text buildField initial.buildCommand)
    |>.also (text outputDirField initial.outputDir)
    |>.also (flag cacheField initial.useCache))
  exact (checked.map _).also (still_checkKeys fields data)

end CiWorkflow
