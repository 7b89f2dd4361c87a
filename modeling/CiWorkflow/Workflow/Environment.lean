import CiWorkflow.Workflow.Build

/-! What a run of the workflow hands to the build. Steps assign variables and entries assign
arguments, one after the other, and of several assignments to a name the last one counts. -/

set_option autoImplicit false

namespace CiWorkflow

namespace Workflow

/-- What a name stands for in a run: a text as it is, or what the shell makes of one. -/
inductive Held where
  | text (value : String)
  | evaluated (expression : String)
  deriving DecidableEq, Repr

abbrev Bindings := String → Option Held

namespace Bindings

def empty : Bindings := fun _ => none

def assign (name : String) (held : Option Held) (b : Bindings) : Bindings :=
  fun n => if n = name then held else b n

section Assignments
variable {α : Type} (name : α → String) (held : α → Option Held)

def assignAll (xs : List α) (b : Bindings) : Bindings :=
  xs.foldl (fun b x => b.assign (name x) (held x)) b

/-- The last assignment to a name counts, and a name that is not assigned keeps what it had. -/
theorem assignAll_apply (xs : List α) (b : Bindings) (n : String) :
    assignAll name held xs b n =
      ((xs.filter (name · == n)).getLast?.map held).getD (b n) := by
  induction xs generalizing b with
  | nil => rfl
  | cons x xs ih =>
    have step : assignAll name held (x :: xs) b =
        assignAll name held xs (b.assign (name x) (held x)) := rfl
    rw [step, ih]
    by_cases h : name x = n
    · subst h
      rw [List.filter_cons_of_pos (by simp), List.getLast?_cons]
      cases (xs.filter (name · == name x)).getLast? <;> simp [assign]
    · rw [List.filter_cons_of_neg (by simpa using h)]
      simp [assign, Ne.symm h]

end Assignments

end Bindings

end Workflow

open Workflow

namespace BuildArg

def held (a : BuildArg) : Held := if a.isDynamic then .evaluated a.value else .text a.value

end BuildArg

namespace Container

/-- The variables that the build step finds, where `start` held before the first export. -/
def environment (c : Container) (start : Bindings) : Bindings :=
  Bindings.assignAll Export.key (fun e => some (.evaluated e.value)) c.exports start

def ArgEntry.held (found : Bindings) (e : ArgEntry) : Option Held :=
  match e.source with
  | .literal value => some (.text value)
  | .variable => found e.key

def handedArgs (c : Container) (start : Bindings) : Bindings :=
  Bindings.assignAll ArgEntry.key (ArgEntry.held (c.environment start)) c.argEntries .empty

end Container

end CiWorkflow
