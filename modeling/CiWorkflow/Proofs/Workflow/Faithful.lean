import CiWorkflow.Proofs.Workflow.Lines
import CiWorkflow.Workflow.Build

/-! The workflow of a container build shows what it is made of: as long as no text has a line
break, two configurations have one workflow just if they agree on everything that is rendered. -/

set_option autoImplicit false

namespace CiWorkflow

open Workflow

namespace Container

structure OneLined (c : Container) : Prop where
  registry : OneLine c.registry
  imageName : OneLine c.imageName
  tags : OneLine c.tags
  dockerfilePath : OneLine c.dockerfilePath
  platforms : ∀ p ∈ c.platforms, OneLine p
  buildArgs : ∀ a ∈ c.buildArgs, OneLine a.key ∧ OneLine a.value

structure Agree (c c' : Container) : Prop where
  output : c.output = c'.output
  registry : c.registry = c'.registry
  imageName : c.imageName = c'.imageName
  tags : c.tags = c'.tags
  dockerfilePath : c.dockerfilePath = c'.dockerfilePath
  platforms : ",".intercalate c.platforms = ",".intercalate c'.platforms
  provenance : c.provenance = c'.provenance
  dynamicArgs : (c.dynamicArgs.map fun a => (a.key, a.value)) =
    c'.dynamicArgs.map fun a => (a.key, a.value)
  needsEpoch : c.needsEpoch = c'.needsEpoch
  argTexts : c.argTexts = c'.argTexts

def pairExport (p : String × String) : Export :=
  ⟨"Set dynamic build arg " ++ p.1, p.1, p.2⟩

theorem exports_eq (c : Container) : c.exports =
    (c.dynamicArgs.map fun a => (a.key, a.value)).map pairExport ++
      (if c.needsEpoch then [epochExport] else []) := by
  rw [exports, List.map_map]
  rfl

theorem Agree.workflow_eq {c c' : Container} (h : c.Agree c') : c.workflow = c'.workflow := by
  have exports : c.exportSteps = c'.exportSteps := by
    rw [exportSteps, exportSteps, exports_eq, exports_eq, h.dynamicArgs, h.needsEpoch]
  have tags (o : Output) : c.tagRef o = c'.tagRef o := by
    cases o <;> simp only [tagRef, h.tags, h.imageName]
  have build (o : Output) : c.buildStep o = c'.buildStep o := by
    simp only [buildStep, h.dockerfilePath, h.platforms, tags, h.provenance, h.argTexts]
  have header : c.header = c'.header := by rw [header, header, h.registry, h.imageName]
  simp only [workflow, steps, header, exports, build, h.output]

theorem Export.step_lines (e : Export) : e.step.lines = [
    "      - name: " ++ e.name,
    "        run: " ++ ("echo \"" ++ e.key ++ "=" ++ e.value ++ "\" >> $GITHUB_ENV")] := rfl

theorem buildStep_lines (c : Container) (o : Output) : (c.buildStep o).lines =
    [ "      - name: " ++ ("Build and " ++ o.verb),
      "        uses: docker/build-push-action@v5",
      "        with:",
      "          context: .",
      "          file: " ++ c.dockerfilePath,
      "          platforms: " ++ ",".intercalate c.platforms,
      "          tags: " ++ c.tagRef o,
      "          " ++ o.clause.1 ++ ": " ++ o.clause.2,
      "          provenance: " ++ if c.provenance then "true" else "false"] ++
    (Step.inputLines (.block "build-args" c.argTexts) ++
      ["          cache-from: type=gha", "          cache-to: type=gha,mode=max"]) := rfl

theorem oneLine_export {e : Export} (name : OneLine e.name) (key : OneLine e.key)
    (value : OneLine e.value) : e.step.OneLined :=
  oneLine_run name ((((OneLine.append (.lit rfl) key).append (.lit rfl)).append value).append
    (.lit rfl))

theorem oneLine_checkoutStep : checkoutStep.OneLined := by
  refine oneLine_uses (.lit rfl) (.lit rfl) ?_
  simp only [List.forall_mem_cons, Input.OneLined]
  exact ⟨⟨.lit rfl, .lit rfl⟩, by simp⟩

theorem oneLine_toolSteps : ∀ s ∈ toolSteps, s.OneLined := by
  simp only [toolSteps, List.forall_mem_cons]
  exact ⟨oneLine_uses (.lit rfl) (.lit rfl) (by simp),
    oneLine_uses (.lit rfl) (.lit rfl) (by simp), by simp⟩

theorem oneLine_loginStep : loginStep.OneLined := by
  refine ⟨OneLine.append (s := "Log into registry ") (.lit rfl) (oneLine_envRef (.lit rfl)),
    nofun, fun t ht => ?_, ?_, ?_⟩
  · obtain rfl : Output.notPullRequest = t := Option.some.inj ht
    exact .lit rfl
  · change OneLine "docker/login-action@v3"
    exact .lit rfl
  · change ∀ i ∈ [_, _, _], Input.OneLined i
    simp only [List.forall_mem_cons, Input.OneLined]
    exact ⟨⟨.lit rfl, oneLine_envRef (.lit rfl)⟩,
      ⟨.lit rfl, oneLine_expr (.lit rfl)⟩,
      ⟨.lit rfl, oneLine_expr (.lit rfl)⟩, by simp⟩

theorem oneLine_uploadStep : uploadStep.OneLined := by
  refine oneLine_uses (.lit rfl) (.lit rfl) ?_
  simp only [List.forall_mem_cons, Input.OneLined, Output.archive]
  exact ⟨⟨.lit rfl, .lit rfl⟩, ⟨.lit rfl, .lit rfl⟩,
    ⟨.lit rfl, .lit rfl⟩, by simp⟩

theorem oneLine_clause (o : Output) : OneLine o.clause.1 ∧ OneLine o.clause.2 := by
  cases o <;> simp only [Output.clause, Output.notPullRequest, Output.archive]
  · exact ⟨.lit rfl, oneLine_expr (.lit rfl)⟩
  · exact ⟨.lit rfl, OneLine.append (.lit rfl) (.lit rfl)⟩

namespace OneLined
variable {c : Container} (h : c.OneLined)
include h

theorem argTexts : ∀ t ∈ c.argTexts, OneLine t := by
  intro t ht
  obtain ⟨e, he, rfl⟩ := List.mem_map.1 ht
  rw [argEntries_eq, List.mem_append] at he
  rcases he with he | he
  · obtain rfl : e = ⟨epochKey, .variable⟩ := by
      split at he
      · exact List.mem_singleton.1 he
      · simp at he
    simp only [ArgEntry.text, epochKey]
    exact (OneLine.append (.lit rfl) (.lit rfl)).append (oneLine_envRef (.lit rfl))
  · obtain ⟨a, ha, rfl⟩ := List.mem_map.1 he
    obtain ⟨key, value⟩ := h.buildArgs a (List.mem_filter.1 ha).1
    refine (key.append (.lit rfl)).append ?_
    cases hd : a.isDynamic <;> simp only [argEntry, hd]
    · exact value
    · exact oneLine_envRef key

theorem exports {e : Export} (he : e ∈ c.exports) : e.step.OneLined := by
  rw [Container.exports, List.mem_append] at he
  rcases he with he | he
  · obtain ⟨a, ha, rfl⟩ := List.mem_map.1 he
    rw [dynamicArgs, List.mem_filter] at ha
    obtain ⟨key, value⟩ := h.buildArgs a ha.1
    exact oneLine_export (OneLine.append (.lit rfl) key) key value
  · obtain rfl : e = epochExport := by
      split at he
      · exact List.mem_singleton.1 he
      · simp at he
    exact oneLine_export (.lit rfl) (.lit rfl) (.lit rfl)

theorem header : ∀ l ∈ c.header, OneLine l := by
  have registry := OneLine.append (s := "  REGISTRY: ") (.lit rfl) h.registry
  have image := OneLine.append (s := "  IMAGE_NAME: ") (.lit rfl) h.imageName
  have runs := OneLine.append (s := "    runs-on: ") (t := "ubuntu-latest") (.lit rfl)
    (.lit rfl)
  simp only [Container.header, runner, List.forall_mem_append, List.forall_mem_cons]
  refine ⟨?_, oneLine_checkoutStep.lines⟩
  exact ⟨.lit rfl, .lit rfl, .lit rfl, .lit rfl, .lit rfl,
    .lit rfl, .lit rfl, .lit rfl, registry, image, .lit rfl,
    .lit rfl, .lit rfl, runs, .lit rfl, .lit rfl, .lit rfl,
    .lit rfl, .lit rfl, by simp⟩

theorem tagRef (o : Output) : OneLine (c.tagRef o) := by
  cases o <;> simp only [Container.tagRef]
  · exact (((oneLine_envRef (.lit rfl)).append (.lit rfl)).append
      (oneLine_envRef (.lit rfl))).append (.lit rfl) |>.append h.tags
  · exact (h.imageName.append (.lit rfl)).append h.tags

theorem buildStep (o : Output) : (c.buildStep o).OneLined := by
  have verb : OneLine o.verb := by cases o <;> exact .lit rfl
  have provenance : OneLine (if c.provenance then "true" else "false") := by
    split <;> exact .lit rfl
  refine oneLine_uses (OneLine.append (.lit rfl) verb) (.lit rfl) ?_
  simp only [List.forall_mem_cons, Input.OneLined]
  exact ⟨⟨.lit rfl, .lit rfl⟩, ⟨.lit rfl, h.dockerfilePath⟩,
    ⟨.lit rfl, oneLine_intercalate (.lit rfl) h.platforms⟩, ⟨.lit rfl, h.tagRef o⟩,
    oneLine_clause o, ⟨.lit rfl, provenance⟩, ⟨.lit rfl, h.argTexts⟩,
    ⟨.lit rfl, .lit rfl⟩, ⟨.lit rfl, .lit rfl⟩, by simp⟩

theorem steps {s : Step} (hs : s ∈ c.steps) : s.OneLined := by
  simp only [Container.steps, List.mem_append, List.mem_singleton] at hs
  rcases hs with (((hs | hs) | hs) | rfl) | hs
  · obtain ⟨e, he, rfl⟩ := List.mem_map.1 hs
    exact h.exports he
  · exact oneLine_toolSteps s hs
  · rw [loginSteps] at hs
    split at hs
    · exact List.mem_singleton.1 hs ▸ oneLine_loginStep
    · simp at hs
  · exact h.buildStep _
  · rw [uploadSteps] at hs
    split at hs
    · exact List.mem_singleton.1 hs ▸ oneLine_uploadStep
    · simp at hs

theorem lines : ∀ l ∈ c.header ++ Step.blocks c.steps, OneLine l := by
  intro l hl
  rcases List.mem_append.1 hl with hl | hl
  · exact h.header l hl
  · obtain ⟨s, hs, hl⟩ := List.mem_flatMap.1 hl
    rcases List.mem_cons.1 hl with rfl | hl
    · exact .lit rfl
    · exact (h.steps hs).lines l hl

end OneLined

/-- A list of images of one kind, and perhaps one thing of another kind at its end. -/
theorem map_append_ite_inj {α β : Type} {f : α → β} {e : β} (inj : ∀ x y, f x = f y → x = y)
    (other : ∀ x, f x ≠ e) {xs ys : List α} {a b : Bool}
    (h : xs.map f ++ (if a then [e] else []) = ys.map f ++ (if b then [e] else [])) :
    xs = ys ∧ a = b := by
  induction xs generalizing ys with
  | nil =>
    cases ys with
    | nil => cases a <;> cases b <;> simp at h <;> simp
    | cons y ys =>
      cases a
      · simp at h
      · exact absurd (List.cons.inj h).1.symm (other y)
  | cons x xs ih =>
    cases ys with
    | nil =>
      cases b
      · simp at h
      · exact absurd (List.cons.inj h).1 (other x)
    | cons y ys =>
      obtain ⟨first, rest⟩ := List.cons.inj h
      obtain ⟨rfl, same⟩ := ih rest
      exact ⟨by rw [inj x y first], same⟩

theorem pairExport_lines (key value : String) : (pairExport (key, value)).step.lines = [
    "      - name: " ++ ("Set dynamic build arg " ++ key),
    "        run: " ++ ("echo \"" ++ key ++ "=" ++ value ++ "\" >> $GITHUB_ENV")] := rfl

theorem epochExport_lines : epochExport.step.lines = [
    "      - name: " ++ "Set source date epoch",
    "        run: " ++ ("echo \"" ++ epochKey ++ "=" ++ epochCommand ++ "\" >> $GITHUB_ENV")] := rfl

theorem pairExport_lines_inj (p q : String × String)
    (h : (pairExport p).step.lines = (pairExport q).step.lines) : p = q := by
  obtain ⟨key, value⟩ := p
  obtain ⟨key', value'⟩ := q
  rw [pairExport_lines, pairExport_lines] at h
  obtain ⟨name, rest⟩ := List.cons.inj h
  obtain rfl := (String.append_right_inj _).1 ((String.append_right_inj _).1 name)
  have command := (String.append_right_inj _).1 (List.cons.inj rest).1
  rw [(String.append_right_inj _).1 ((String.append_left_inj _).1 command)]

theorem pairExport_lines_ne (p : String × String) :
    (pairExport p).step.lines ≠ epochExport.step.lines := by
  intro h
  obtain ⟨key, value⟩ := p
  rw [pairExport_lines, epochExport_lines] at h
  have name := (String.append_right_inj _).1 (List.cons.inj h).1
  have fifth := congrArg (fun s => s.toList[4]?) name
  simp at fifth

def qemuLines : List String :=
  ["      - name: Set up QEMU", "        uses: docker/setup-qemu-action@v3"]

theorem qemuLines_not_mem (c : Container) : qemuLines ∉ c.exportSteps.map Step.lines := by
  intro h
  obtain ⟨s, hs, lines⟩ := List.mem_map.1 h
  obtain ⟨e, -, rfl⟩ := List.mem_map.1 hs
  simp only [Export.step_lines, qemuLines, List.cons.injEq, and_true] at lines
  have ninth := congrArg (fun s => s.toList[8]?) lines.2
  simp at ninth

def closing (c : Container) : List Step :=
  loginSteps c.output ++ [c.buildStep c.output] ++ uploadSteps c.output

theorem steps_lines (c : Container) : c.steps.map Step.lines =
    c.exportSteps.map Step.lines ++ qemuLines ::
      ["      - name: Set up Docker Buildx", "        uses: docker/setup-buildx-action@v3"] ::
        c.closing.map Step.lines := by
  simp only [steps, closing, List.map_append, List.append_assoc]
  rfl

theorem buildStep_inj {c c' : Container} {o : Output} (image : c.imageName = c'.imageName)
    (h : (c.buildStep o).lines = (c'.buildStep o).lines) :
    c.dockerfilePath = c'.dockerfilePath ∧
      ",".intercalate c.platforms = ",".intercalate c'.platforms ∧ c.tags = c'.tags ∧
      c.provenance = c'.provenance ∧ c.argTexts = c'.argTexts := by
  rw [buildStep_lines, buildStep_lines] at h
  obtain ⟨fixed, rest⟩ := List.append_inj h rfl
  obtain ⟨args, -⟩ := List.append_inj' rest rfl
  simp only [List.cons.injEq, String.append_right_inj, and_true, true_and] at fixed
  obtain ⟨file, platforms, tags, provenance⟩ := fixed
  refine ⟨file, platforms, ?_, ?_, Step.inputLines_block_inj args⟩
  · cases o with
    | registry => simpa only [tagRef, String.append_right_inj] using tags
    | ociLocal => simpa only [tagRef, image, String.append_right_inj] using tags
  · cases hp : c.provenance <;> cases hp' : c'.provenance <;> simp [hp, hp'] at provenance <;> rfl

/-- Which output it is shows in the first of these steps: one logs in, the other one builds. -/
theorem closing_inj {c c' : Container} (h : c.closing.map Step.lines = c'.closing.map Step.lines) :
    c.output = c'.output ∧
      (c.buildStep c.output).lines = (c'.buildStep c.output).lines := by
  have login (d : Container) (o : Output) : loginStep.lines ≠ (d.buildStep o).lines := by
    intro same
    have name : "Log into registry " ++ envRef "REGISTRY" = "Build and " ++ o.verb :=
      (String.append_right_inj _).1 (List.cons.inj same).1
    have first := congrArg (fun s => s.toList[0]?) name
    simp at first
  cases ho : c.output <;> cases ho' : c'.output <;>
    simp only [closing, ho, ho', loginSteps, uploadSteps, Output.logsIn, Output.uploads,
      if_true, Bool.false_eq_true, if_false, List.nil_append, List.append_nil, List.map_cons,
      List.map_nil, List.cons_append, List.cons.injEq, and_true, true_and] at h
  · exact ⟨rfl, h⟩
  · exact absurd h.1 (login _ _)
  · exact absurd h.1.symm (login _ _)
  · exact ⟨rfl, h⟩

theorem agree_of_workflow_eq {c c' : Container} (h : c.OneLined) (h' : c'.OneLined)
    (same : c.workflow = c'.workflow) : c.Agree c' := by
  obtain ⟨header, blocks⟩ := List.append_inj (unlines_inj h.lines h'.lines same) rfl
  have steps := Step.blocks_inj blocks
  rw [steps_lines, steps_lines] at steps
  obtain ⟨exports, rest⟩ := append_cons_inj c.qemuLines_not_mem c'.qemuLines_not_mem steps
  obtain ⟨output, build⟩ := closing_inj (List.cons.inj rest).2
  simp only [Container.header, List.cons_append, List.cons.injEq, String.append_right_inj,
    true_and, and_true] at header
  obtain ⟨registry, image⟩ := header
  obtain ⟨file, platforms, tags, provenance, args⟩ := buildStep_inj image build
  have lines (d : Container) : d.exportSteps.map Step.lines =
      (d.dynamicArgs.map fun a => (a.key, a.value)).map (fun p => (pairExport p).step.lines) ++
        if d.needsEpoch then [epochExport.step.lines] else [] := by
    rw [exportSteps, exports_eq]
    cases d.needsEpoch <;> simp [Function.comp_def]
  rw [lines, lines] at exports
  obtain ⟨dynamic, epoch⟩ := map_append_ite_inj pairExport_lines_inj pairExport_lines_ne exports
  exact ⟨output, registry, image, tags, file, platforms, provenance, dynamic, epoch, args⟩

def withIds (c : Container) (ids : BuildArg → String) : Container :=
  { c with buildArgs := c.buildArgs.map fun a => { a with id := ids a } }

theorem agree_withIds (c : Container) (ids : BuildArg → String) : (c.withIds ids).Agree c where
  output := rfl
  registry := rfl
  imageName := rfl
  tags := rfl
  dockerfilePath := rfl
  platforms := rfl
  provenance := rfl
  dynamicArgs := by
    simp only [dynamicArgs, withIds, List.filter_map, List.map_map]
    rfl
  needsEpoch := by
    simp only [needsEpoch, dynamicArgs, withIds, List.filter_map, List.any_map]
    rfl
  argTexts := by
    simp only [argTexts, argEntries_eq, withIds, List.filter_map, List.map_append, List.map_map]
    rfl

theorem exists_workflow_platforms (c : Container) : ∃ front back : String, ∀ ps : List String,
    ({ c with platforms := ps } : Container).workflow = front ++ ",".intercalate ps ++ back := by
  let build := c.buildStep c.output
  let before := c.header ++ Step.blocks (c.exportSteps ++ toolSteps ++ loginSteps c.output) ++
    "" :: build.lines.take 5
  let behind := build.lines.drop 6 ++ Step.blocks (uploadSteps c.output)
  refine ⟨unlines before ++ "          platforms: ", "\n" ++ unlines behind, fun ps => ?_⟩
  let changed : Container := { c with platforms := ps }
  have block : Step.blocks [changed.buildStep c.output] = ("" :: build.lines.take 5) ++
      ("          platforms: " ++ ",".intercalate ps) :: build.lines.drop 6 := List.append_nil _
  have lines : changed.header ++ Step.blocks changed.steps =
      before ++ ("          platforms: " ++ ",".intercalate ps) :: behind := by
    have steps : changed.steps = c.exportSteps ++ toolSteps ++ loginSteps c.output ++
      [changed.buildStep c.output] ++ uploadSteps c.output := rfl
    rw [steps, Step.blocks_append, Step.blocks_append, block]
    simp only [before, behind, List.append_assoc, List.cons_append]
    rfl
  rw [workflow, lines, unlines_append]
  simp only [unlines, List.map_cons, String.join_cons, String.append_assoc]

theorem workflow_platforms_eq_iff (c : Container) (ps : List String) :
    ({ c with platforms := ps } : Container).workflow = c.workflow ↔
      ",".intercalate ps = ",".intercalate c.platforms := by
  obtain ⟨front, back, workflow⟩ := c.exists_workflow_platforms
  have own : c.workflow = front ++ ",".intercalate c.platforms ++ back := workflow c.platforms
  rw [workflow, own, String.append_left_inj, String.append_right_inj]

theorem workflow_eq_iff_agree :
    (∀ c c' : Container, c.OneLined → c'.OneLined → (c.workflow = c'.workflow ↔ c.Agree c')) ∧
    ∀ (c : Container) (ids : BuildArg → String), (c.withIds ids).workflow = c.workflow :=
  ⟨fun _ _ h h' => ⟨agree_of_workflow_eq h h', Agree.workflow_eq⟩,
    fun c ids => (agree_withIds c ids).workflow_eq⟩

/-- A fixed value that looks like a reference is not taken for a dynamic argument. -/
theorem workflow_ne_of_reference :
    let fixed : Container := { initial with buildArgs := [⟨"1", "A", envRef "A", false⟩] }
    let dynamic : Container := { initial with buildArgs := [⟨"1", "A", "date", true⟩] }
    fixed.OneLined ∧ dynamic.OneLined ∧ fixed.argTexts = dynamic.argTexts ∧
      fixed.workflow ≠ dynamic.workflow := by
  intro fixed dynamic
  have platforms : ∀ p ∈ initial.platforms, OneLine p := by
    simp only [initial, List.forall_mem_cons]
    exact ⟨.lit rfl, .lit rfl, by simp⟩
  have oneLined (a : BuildArg) (key : OneLine a.key) (value : OneLine a.value) :
      ({ initial with buildArgs := [a] } : Container).OneLined :=
    ⟨.lit rfl, .lit rfl, .lit rfl, .lit rfl, platforms,
      by simp [key, value]⟩
  have fixedLines : fixed.OneLined :=
    oneLined ⟨"1", "A", envRef "A", false⟩ (.lit rfl) (oneLine_envRef (.lit rfl))
  have dynamicLines : dynamic.OneLined :=
    oneLined ⟨"1", "A", "date", true⟩ (.lit rfl) (.lit rfl)
  refine ⟨fixedLines, dynamicLines, rfl, fun same => ?_⟩
  have agree := (workflow_eq_iff_agree.1 fixed dynamic fixedLines dynamicLines).1 same
  exact absurd agree.dynamicArgs (by decide)

end Container

end CiWorkflow
