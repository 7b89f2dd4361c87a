import CiWorkflow.Workflow.Environment
import Mathlib.Data.List.Infix

set_option autoImplicit false

namespace CiWorkflow

namespace Workflow

def isNameChar (c : Char) : Bool := c.isAlphanum || c == '_' || c == '-'

def opening : List Char := ['$', '{', '{']
def scope : List Char := ['e', 'n', 'v', '.']
def closing : List Char := ['}', '}']

/-- The variable of a reference with which a text begins, and what follows the reference. -/
def reference? (cs : List Char) : Option (String × List Char) := do
  let inner ← opening.isPrefixOf? cs
  let named ← scope.isPrefixOf? (inner.dropWhile (· == ' '))
  let after ← closing.isPrefixOf? ((named.dropWhile isNameChar).dropWhile (· == ' '))
  pure (String.ofList (named.takeWhile isNameChar), after)

theorem isPrefixOf?_eq_some_iff {α : Type} [BEq α] [LawfulBEq α] {front whole rest : List α} :
    front.isPrefixOf? whole = some rest ↔ whole = front ++ rest := by
  induction front generalizing whole with
  | nil => exact Option.some_inj
  | cons a front ih =>
    cases whole with
    | nil => simp [List.isPrefixOf?]
    | cons b whole =>
      by_cases same : a = b
      · simp [List.isPrefixOf?, same, ih]
      · simp [List.isPrefixOf?, same, Ne.symm same]

theorem exists_of_reference? {cs after : List Char} {name : String}
    (h : reference? cs = some (name, after)) :
    ∃ inner, cs = '$' :: inner ∧ after.length ≤ inner.length := by
  simp only [reference?, Option.bind_eq_bind, Option.bind_eq_some_iff, Option.pure_def,
    Option.some.injEq, Prod.mk.injEq] at h
  obtain ⟨inner, opens, named, names, after', closes, -, rfl⟩ := h
  rw [isPrefixOf?_eq_some_iff] at opens names closes
  have h₁ := (List.dropWhile_suffix (l := inner) (· == ' ')).length_le
  have h₂ := (List.dropWhile_suffix (l := named) isNameChar).length_le
  have h₃ := (List.dropWhile_suffix (l := named.dropWhile isNameChar) (· == ' ')).length_le
  rw [names, List.length_append] at h₁
  rw [closes, List.length_append] at h₃
  refine ⟨'{' :: '{' :: inner, opens, ?_⟩
  simp only [List.length_cons]
  omega

/-- The text with each reference replaced by the value of its variable. -/
def resolve (value : String → String) (cs : List Char) : List Char :=
  match cs with
  | [] => []
  | c :: rest =>
    match _found : reference? (c :: rest) with
    | some (name, after) => (value name).toList ++ resolve value after
    | none => c :: resolve value rest
termination_by cs.length
decreasing_by
  · obtain ⟨inner, whole, shorter⟩ := exists_of_reference? ‹_›
    rw [whole, List.length_cons]
    exact Nat.lt_succ_of_le shorter
  · exact Nat.lt_succ_self _

section
variable {value : String → String} {c : Char} {cs after : List Char} {name : String}

theorem resolve_of_reference? (h : reference? cs = some (name, after)) :
    resolve value cs = (value name).toList ++ resolve value after := by
  obtain ⟨inner, rfl, -⟩ := exists_of_reference? h
  rw [resolve]
  split
  · rename_i name' after' found
    obtain ⟨rfl, rfl⟩ := Prod.mk.inj (Option.some.inj (found.symm.trans h))
    rfl
  · rename_i found
    exact absurd (found.symm.trans h) (by simp)

theorem resolve_cons (h : reference? (c :: cs) = none) :
    resolve value (c :: cs) = c :: resolve value cs := by
  rw [resolve]
  split
  · rename_i found
    exact absurd (found.symm.trans h) (by simp)
  · rfl

theorem reference?_of_ne (h : c ≠ '$') : reference? (c :: cs) = none := by
  refine Option.eq_none_iff_forall_ne_some.2 fun p found => ?_
  obtain ⟨inner, whole, -⟩ := exists_of_reference? found
  exact h (List.cons.inj whole).1

theorem resolve_append {front : List Char} (h : ∀ c ∈ front, c ≠ '$') (cs : List Char) :
    resolve value (front ++ cs) = front ++ resolve value cs := by
  induction front with
  | nil => rfl
  | cons c front ih =>
    obtain ⟨here, later⟩ := List.forall_mem_cons.1 h
    rw [List.cons_append, resolve_cons (reference?_of_ne here), ih later, List.cons_append]

theorem resolve_of_plain (h : ∀ rest ∈ cs.tails, reference? rest = none) :
    resolve value cs = cs := by
  induction cs with
  | nil => rw [resolve]
  | cons c cs ih =>
    rw [List.tails, List.forall_mem_cons] at h
    rw [resolve_cons h.1, ih h.2]

theorem reference?_envRef (named : name.toList.all isNameChar = true) (cs : List Char) :
    reference? ((envRef name).toList ++ cs) = some (name, cs) := by
  have all : ∀ c ∈ name.toList, isNameChar c = true := List.all_eq_true.1 named
  have chars : (envRef name).toList ++ cs =
      opening ++ ' ' :: (scope ++ (name.toList ++ ' ' :: (closing ++ cs))) := by
    simp [envRef, expr, opening, scope, closing]
  have take : (name.toList ++ ' ' :: (closing ++ cs)).takeWhile isNameChar = name.toList := by
    rw [List.takeWhile_append_of_pos all]
    simp [isNameChar]
  have drop : ((name.toList ++ ' ' :: (closing ++ cs)).dropWhile isNameChar).dropWhile (· == ' ') =
      closing ++ cs := by
    rw [List.dropWhile_append_of_pos all]
    simp [isNameChar, closing]
  have inner : (' ' :: (scope ++ (name.toList ++ ' ' :: (closing ++ cs)))).dropWhile (· == ' ') =
      scope ++ (name.toList ++ ' ' :: (closing ++ cs)) := by
    simp [scope]
  have reads (front rest : List Char) : front.isPrefixOf? (front ++ rest) = some rest :=
    isPrefixOf?_eq_some_iff.2 rfl
  simp only [reference?, chars, reads, Option.bind_eq_bind, Option.bind_some, inner, drop, take,
    String.ofList_toList, Option.pure_def]

end

def resolved (value : String → String) (s : String) : String :=
  String.ofList (resolve value s.toList)

theorem resolved_envRef_append {name : String} (named : name.toList.all isNameChar = true)
    (value : String → String) (s : String) :
    resolved value (envRef name ++ s) = value name ++ resolved value s := by
  rw [resolved, String.toList_append, resolve_of_reference? (reference?_envRef named _),
    String.ofList_append, String.ofList_toList]
  rfl

theorem resolved_envRef {name : String} (named : name.toList.all isNameChar = true)
    (value : String → String) : resolved value (envRef name) = value name := by
  have alone := resolved_envRef_append named value ""
  simpa [resolved, resolve] using alone

theorem resolved_append {front : String} (h : ∀ c ∈ front.toList, c ≠ '$')
    (value : String → String) (s : String) :
    resolved value (front ++ s) = front ++ resolved value s := by
  rw [resolved, String.toList_append, resolve_append h, String.ofList_append, String.ofList_toList]
  rfl

theorem resolved_of_plain {s : String} (h : ∀ rest ∈ s.toList.tails, reference? rest = none)
    (value : String → String) : resolved value s = s := by
  rw [resolved, resolve_of_plain h, String.ofList_toList]

end Workflow

open Workflow

namespace Workflow.Step

def input? (s : Step) (key : String) : Option String :=
  s.inputs.findSome? fun
    | .pair k v => if k = key then some v else none
    | .block _ _ => none

end Workflow.Step

structure Target where
  registry : String
  tags : String
  deriving DecidableEq, Repr

namespace Container

def headerVariables (c : Container) : List (String × String) :=
  [("REGISTRY", c.registry), ("IMAGE_NAME", c.imageName)]

/-- What the variables hold before the first export. -/
def declared (c : Container) : Bindings :=
  Bindings.assignAll Prod.fst (fun v => some (.text v.2)) c.headerVariables .empty

/-- The text that a reference to a variable is resolved to after the exports, by what the shell
makes of each command. Nothing stands for a variable that is not there. -/
def valueOf (c : Container) (shell : String → String) (name : String) : String :=
  match c.environment c.declared name with
  | some (.text value) => value
  | some (.evaluated expression) => shell expression
  | none => ""

def target? (c : Container) (shell : String → String) : Option Target := do
  let login ← c.steps.find? (·.action = .uses "docker/login-action@v3")
  let build ← c.steps.find? (·.action = .uses "docker/build-push-action@v5")
  let registry ← login.input? "registry"
  let tags ← build.input? "tags"
  pure ⟨resolved (c.valueOf shell) registry, resolved (c.valueOf shell) tags⟩

def configured (c : Container) (tags : String) : Target :=
  ⟨c.registry, c.registry ++ "/" ++ c.imageName ++ ":" ++ tags⟩

end Container

end CiWorkflow
