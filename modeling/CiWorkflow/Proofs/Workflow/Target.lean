import CiWorkflow.Proofs.Workflow.Handed
import CiWorkflow.Workflow.Reference

/-! Where an image is pushed. The login and the tags refer to variables of the header, and exports
may put something else in their place before they are used. -/

set_option autoImplicit false

namespace CiWorkflow

open Workflow

namespace Container

/-- What a variable of the header comes to: the last dynamic argument of its name replaces it. -/
def replaced (c : Container) (shell : String → String) (key own : String) : String :=
  ((c.dynamicArgsOf key).getLast?.map fun a => shell a.value).getD own

section
variable (c : Container) (shell : String → String)

theorem valueOf_of_declared {key own : String} (other : key ≠ epochKey)
    (h : c.declared key = some (.text own)) : c.valueOf shell key = c.replaced shell key own := by
  rw [valueOf, environment_apply, replaced]
  cases (c.dynamicArgsOf key).getLast? with
  | some a => rfl
  | none => simp [other, h]

theorem valueOf_registry : c.valueOf shell "REGISTRY" = c.replaced shell "REGISTRY" c.registry :=
  c.valueOf_of_declared shell (by decide) rfl

theorem valueOf_imageName :
    c.valueOf shell "IMAGE_NAME" = c.replaced shell "IMAGE_NAME" c.imageName :=
  c.valueOf_of_declared shell (by decide) rfl

theorem find?_exportSteps (name : String) :
    c.exportSteps.find? (·.action = .uses name) = none := by
  refine List.find?_eq_none.2 fun s hs => ?_
  obtain ⟨e, -, rfl⟩ := List.mem_map.1 hs
  simp [Export.step, Step.run]

variable {c}

theorem target?_eq (push : c.output = .registry) :
    c.target? shell = some
      ⟨resolved (c.valueOf shell) (envRef "REGISTRY"),
        resolved (c.valueOf shell) (c.tagRef .registry)⟩ := by
  have login : c.steps.find? (·.action = .uses "docker/login-action@v3") = some loginStep := by
    rw [steps, List.append_assoc, List.append_assoc, List.append_assoc, List.find?_append,
      find?_exportSteps, push]
    rfl
  have build : c.steps.find? (·.action = .uses "docker/build-push-action@v5") =
      some (c.buildStep .registry) := by
    rw [steps, List.append_assoc, List.append_assoc, List.append_assoc, List.find?_append,
      find?_exportSteps, push]
    rfl
  rw [target?, login, build]
  rfl

theorem target?_of_registry (push : c.output = .registry) :
    c.target? shell = some ⟨c.replaced shell "REGISTRY" c.registry,
      c.replaced shell "REGISTRY" c.registry ++ "/" ++ c.replaced shell "IMAGE_NAME" c.imageName
        ++ ":" ++ resolved (c.valueOf shell) c.tags⟩ := by
  have registry : "REGISTRY".toList.all isNameChar = true := by decide +kernel
  have imageName : "IMAGE_NAME".toList.all isNameChar = true := by decide +kernel
  have slash : ∀ c ∈ "/".toList, c ≠ '$' := by simp
  have colon : ∀ c ∈ ":".toList, c ≠ '$' := by simp
  rw [target?_eq shell push, resolved_envRef registry, tagRef, String.append_assoc,
    String.append_assoc, String.append_assoc, resolved_envRef_append registry,
    resolved_append slash, resolved_envRef_append imageName, resolved_append colon,
    valueOf_registry, valueOf_imageName]
  simp only [String.append_assoc]

/-- A run pushes to the configured target exactly if the exports put nothing else in place of the
registry and the name of the image. -/
theorem target?_eq_configured_iff {shell : String → String} (push : c.output = .registry) :
    c.target? shell = some (c.configured (resolved (c.valueOf shell) c.tags)) ↔
      c.replaced shell "REGISTRY" c.registry = c.registry ∧
        c.replaced shell "IMAGE_NAME" c.imageName = c.imageName := by
  rw [target?_of_registry shell push, configured, Option.some.injEq, Target.mk.injEq]
  constructor
  · rintro ⟨registry, tags⟩
    rw [registry] at tags
    refine ⟨registry, ?_⟩
    simpa [String.append_assoc] using tags
  · rintro ⟨registry, image⟩
    exact ⟨registry, by rw [registry, image]⟩

theorem forall_replaced_eq_iff {key own : String} :
    (∀ shell, c.replaced shell key own = own) ↔
      ∀ a ∈ c.buildArgs, a.isDynamic = true → a.key ≠ key := by
  have none : c.dynamicArgsOf key = [] ↔ ∀ a ∈ c.buildArgs, a.isDynamic = true → a.key ≠ key := by
    simp only [dynamicArgsOf, dynamicArgs, List.filter_eq_nil_iff, List.mem_filter, beq_iff_eq,
      and_imp, ne_eq]
  rw [← none]
  constructor
  · intro kept
    cases last : (c.dynamicArgsOf key).getLast? with
    | none => exact List.getLast?_eq_none_iff.1 last
    | some a =>
      -- The shell may come to any text, also to a longer one.
      have longer := congrArg String.length (kept fun _ => own ++ "x")
      simp [replaced, last] at longer
  · intro nil shell
    rw [replaced, nil]
    rfl

end

/-- The login and the tags are resolved to what the exports make of the registry and of the name of
the image. They are the configured ones in all runs exactly if no dynamic argument has the name of
one of the two variables. -/
theorem pushes_to_configured_iff {c : Container} (push : c.output = .registry) :
    ("env:" :: c.headerVariables.map fun v => "  " ++ v.1 ++ ": " ++ v.2) <:+: c.header ∧
    c.exports.map (·.step) <+: c.steps ∧
    (∀ shell, c.target? shell = some ⟨c.replaced shell "REGISTRY" c.registry,
      c.replaced shell "REGISTRY" c.registry ++ "/" ++ c.replaced shell "IMAGE_NAME" c.imageName
        ++ ":" ++ resolved (c.valueOf shell) c.tags⟩) ∧
    ((∀ shell, c.target? shell = some (c.configured (resolved (c.valueOf shell) c.tags))) ↔
      ∀ a ∈ c.buildArgs, a.isDynamic = true → a.key ≠ "REGISTRY" ∧ a.key ≠ "IMAGE_NAME") ∧
    ((∀ rest ∈ c.tags.toList.tails, reference? rest = none) →
      ∀ shell, resolved (c.valueOf shell) c.tags = c.tags) := by
  refine ⟨⟨c.header.take 7, c.header.drop 10, rfl⟩, ?_, fun shell => target?_of_registry shell push,
    ?_, fun plain shell => ?_⟩
  · rw [steps, List.append_assoc, List.append_assoc, List.append_assoc]
    exact List.prefix_append _ _
  · simp only [target?_eq_configured_iff push, forall_and, forall_replaced_eq_iff]
  · exact resolved_of_plain plain _

/-- Other dynamic arguments leave the target as it is. -/
theorem pushes_to_configured_iff_sample :
    sample.output = .registry ∧ ∀ shell,
      sample.target? shell = some ⟨"docker.io", "docker.io/my-org/my-app:latest"⟩ := by
  obtain ⟨-, -, -, ⟨-, kept⟩, plain⟩ := pushes_to_configured_iff (c := sample) rfl
  have tags (shell : String → String) : resolved (sample.valueOf shell) sample.tags = sample.tags :=
    plain (by decide) shell
  refine ⟨rfl, fun shell => ?_⟩
  rw [kept (by decide) shell, tags]
  rfl

/-- A dynamic argument that is named like the registry takes the login and the push elsewhere. -/
theorem not_pushed_to_configured :
    let c : Container := { initial with buildArgs := [⟨"1", "REGISTRY", "ghcr.io", true⟩] }
    c.target? id = some ⟨"ghcr.io", "ghcr.io/my-org/my-app:latest"⟩ ∧
      c.target? id ≠ some (c.configured c.tags) := by
  intro c
  have tags : resolved (c.valueOf id) c.tags = c.tags := resolved_of_plain (by decide) _
  have target : c.target? id = some ⟨"ghcr.io", "ghcr.io/my-org/my-app:latest"⟩ := by
    rw [target?_of_registry id rfl, tags]
    rfl
  exact ⟨target, by rw [target]; decide⟩

end Container

end CiWorkflow
