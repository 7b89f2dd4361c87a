import CiWorkflow.Proofs.Cli.OneShot
import CiWorkflow.Proofs.Cli.Pieces
import CiWorkflow.Proofs.Files

set_option autoImplicit false

namespace CiWorkflow.Cli

open Session

theorem buildDocument_congr [Half] (w : World) {a b : Arguments} (h : SameOrder a.given b.given) :
    buildDocument w a = buildDocument w b := by
  have values : a.values = b.values := funext (Arguments.values_congr h)
  have value? : a.value? = b.value? := funext (Arguments.value?_congr h)
  have switch? : a.switch? = b.switch? := funext (Arguments.switch?_congr h)
  have has : a.has = b.has := funext (Arguments.has_congr h)
  have asked : asked w a = asked w b := by
    funext s
    rw [Cli.asked, Cli.asked, has]
  have changes : Docker.changes a = Docker.changes b := by
    simp only [Docker.changes, values, value?, switch?, has]
  have pairs : Docker.pairs a = Docker.pairs b := by
    funext o
    rw [Docker.pairs, Docker.pairs, values]
  simp only [buildDocument, value?, changes, pairs, asked]

theorem work_docker_congr (w : World) {a b : Arguments} (h : SameOrder a.given b.given) :
    work w a .docker = work w b .docker := by
  have made : (fun _ : Half => buildDocument w a) = fun _ : Half => buildDocument w b :=
    funext fun _ => buildDocument_congr w h
  rw [work, work, made, handOut, handOut, Arguments.value?_congr h]

namespace Docker
variable {isDirectory : String → Bool} {a : Arguments} {arguments : List String}

structure Accepted (isDirectory : String → Bool) (arguments : List String) (a : Arguments) :
    Prop where
  read : Arguments.read true command.options arguments = .ok a
  others : a.others = []
  help : a.has helpOption = false
  check : command.check isDirectory a = .ok ()

theorem others_of_check (h : command.check isDirectory a = .ok ()) : a.others = [] := by
  rw [Command.check] at h
  split at h
  · cases h
  · cases others : a.others with
    | nil => rfl
    | cons other rest =>
      rw [others] at h
      cases h

theorem request_eq_work_iff :
    command.request isDirectory arguments = .ok (.work a) ↔ Accepted isDirectory arguments a := by
  constructor
  · intro h
    cases read : Arguments.read true command.options arguments with
    | error e =>
      rw [Command.request, read] at h
      cases h
    | ok b =>
      rw [Command.request_of_read read] at h
      split at h
      · cases h
      · rename_i help
        cases check : command.check isDirectory b with
        | error e => rw [check] at h; cases h
        | ok u =>
          rw [check] at h
          obtain rfl := Command.Request.work.inj (Except.ok.inj h)
          exact ⟨read, others_of_check check, by simpa using help, check⟩
  · intro h
    rw [Command.request_of_read h.read, h.help, h.check]
    rfl

/-- Options in another order, of which each is given as before, are accepted too. -/
theorem Accepted.rearranged {pieces : List Piece} (h : Accepted isDirectory arguments a)
    (same : SameOrder a.given (pieces.map Piece.given)) {arguments' : List String}
    (spells : Spells command.options arguments' pieces) :
    Accepted isDirectory arguments' ⟨pieces.map Piece.given, []⟩ where
  read := spells.read
  others := rfl
  help := (Arguments.has_congr same helpOption).symm.trans h.help
  check := Arguments.check_congr same h.others h.check

theorem runTask_of_accepted {w : World} (h : Accepted w.files.isDirectory arguments a) :
    runTask w .docker arguments = work w a .docker := by
  have request := request_eq_work_iff.2 h
  simp only [runTask, Task.command, request]

/-- Of the options that are read without questions each can be told. -/
theorem Accepted.spells (h : Accepted isDirectory arguments a)
    (quiet : a.has interactive = false) :
    ∃ pieces, Spells command.options arguments pieces ∧ pieces.map Piece.given = a.given := by
  have letters : ∀ o ∈ command.options, o.short.isSome = true →
      o.takesValue = true ∨ o.name = interactive.name := by decide
  have others : ∀ g ∈ a.given, g.option.name ≠ interactive.name := by
    simpa [Arguments.has] using quiet
  have read : Arguments.read true command.options arguments = .ok ⟨a.given, []⟩ := by
    rw [h.read, ← h.others]
  exact exists_spells letters read others

theorem Accepted.obstacle?_eq_none (h : Accepted isDirectory arguments a)
    (quiet : a.has interactive = false) {o : Opt} (ho : o ∈ command.options)
    (given : a.values o ≠ []) : a.obstacle? isDirectory o = none := by
  obtain ⟨pieces, spells, same⟩ := h.spells quiet
  have distinct : (command.options.map (·.name)).Nodup := by decide
  -- A value was given, to an option of the same name, and no other option has this name.
  obtain ⟨v, hv⟩ := List.exists_mem_of_ne_nil _ given
  obtain ⟨g, hg, value⟩ := List.mem_filterMap.1 hv
  have name : g.option.name = o.name := by
    split at value
    · split at value
      · rename_i name
        exact beq_iff_eq.1 name
      · cases value
    · cases value
  have known : g.option ∈ command.options := by
    obtain ⟨piece, among, rfl⟩ := List.mem_map.1 (same ▸ hg)
    exact (spells.written piece among).among
  have option : g.option = o := List.inj_on_of_nodup_map distinct known ho name
  have check := h.check
  rw [Command.check] at check
  split at check
  · cases check
  · rename_i fine
    exact option ▸ List.findSome?_eq_none_iff.1 fine g hg

theorem Accepted.pairs (h : Accepted isDirectory arguments a) (quiet : a.has interactive = false)
    {o : Opt} (ho : o ∈ command.options) {form : String} (kind : o.kind = .pair form) :
    KeyValue.readItems (a.values o) = .ok (pairs a o) := by
  rw [Docker.pairs]
  cases read : KeyValue.readItems (a.values o) with
  | ok ps => rfl
  | error item =>
    have given : a.values o ≠ [] := by
      intro none
      rw [none] at read
      cases read
    have fine := h.obstacle?_eq_none quiet ho given
    simp only [Arguments.obstacle?, kind, read] at fine
    cases fine

theorem Accepted.chosen (h : Accepted isDirectory arguments a) (quiet : a.has interactive = false)
    {o : Opt} (ho : o ∈ command.options) {names : List String} (kind : o.kind = .choice names)
    {v : String} (given : a.value? o = some v) : (chosen? names v).isSome = true := by
  have some : a.values o ≠ [] := by
    intro none
    rw [Arguments.value?, none] at given
    cases given
  have fine := h.obstacle?_eq_none quiet ho some
  simp only [Arguments.obstacle?, kind, given, Option.bind_some] at fine
  split at fine
  · assumption
  · cases fine

theorem Accepted.output (h : Accepted isDirectory arguments a) (quiet : a.has interactive = false)
    {v : String} (given : a.value? outputType = some v) : (Output.ofName? v).isSome = true := by
  have chosen := h.chosen quiet (o := outputType) (by simp [command]) rfl given
  have named := congrArg Option.isSome (chosen?_outputNames v)
  rwa [Option.isSome_map, Option.isSome_map, chosen, eq_comm] at named

theorem emit_ne_refusal (document : Document) (output : Option String) (p : Progress)
    (e : Refusal) : ((emit document output).outcome p).1 ≠ .error (.crash (.refusal e)) := by
  cases output with
  | none =>
    cases torn : document.plainly.tear? with
    | none =>
      rw [outcome_emit_printed torn]
      nofun
    | some tear =>
      rw [outcome_emit_unprinted torn]
      nofun
  | some path =>
    cases written : p.files.write (Path.ofText path) document.content with
    | mk result files =>
      cases result with
      | error fault =>
        rw [outcome_emit_unwritten written]
        nofun
      | ok u =>
        cases torn : document.tear? with
        | some tear =>
          rw [outcome_emit_emptied torn written]
          nofun
        | none =>
          rw [outcome_emit_written torn written]
          cases told : Text.Markup.shown (tagged "green" (wrote (Path.ofText path))).toList with
          | error fault =>
            rw [outcome_say_error told]
            nofun
          | ok cs =>
            rw [outcome_say_ok told]
            nofun

section
variable {w : World} {p : Progress} {base : Container}

/-- The workflow stays the same with other characters for the halves of surrogate pairs, so that
there are none in it. -/
def IsWhole (files : Files) (a : Arguments) (text : String) : Prop :=
  ∀ other, @Configures .other files (a.value? config) other → (oneShot a other).workflow = text

theorem otherText_of_isWhole (h : Configures p.files (a.value? config) base)
    (quiet : a.has interactive = false) (whole : IsWhole p.files a (oneShot a base).workflow) :
    otherText (fun _ : Half => buildDocument w a) p (oneShot a base).workflow =
      (oneShot a base).workflow := by
  have same (other) (h : @Configures .other p.files (a.value? config) other) :
      otherText (fun _ : Half => buildDocument w a) p (oneShot a base).workflow =
        (oneShot a base).workflow := by
    obtain ⟨told, made⟩ := @gives_buildDocument a other p .other w h quiet
    simp only [otherText, made, whole other h]
  generalize named : a.value? config = file at h
  cases h with
  | sample => exact same .sample (by rw [named]; exact @Configures.sample .other _)
  | @loaded text content c found read =>
    cases again : (@Container.load .other (Path.ofText text).text content 0).result with
    | ok other =>
      exact same other (by rw [named]; exact @Configures.loaded .other _ _ _ _ found again)
    | error failure =>
      -- What cannot be loaded is not made anew.
      have ends : EndsUnloaded p (@Container.load .other (Path.ofText text).text content 0)
          ((@buildDocument .other w a).outcome p) := by
        simp only [buildDocument, named]
        exact (endsUnloaded_configured _ _ found).bind _
      obtain ⟨stop, ended⟩ := ends.exists_error again
      simp only [otherText, ended]

theorem isWhole_of_unnamed (files : Files) (unnamed : a.value? config = none) :
    IsWhole files a (oneShot a .sample).workflow := by
  intro other h
  rw [unnamed] at h
  cases h
  rfl

/-- A run that asks no questions makes the workflow of its one configuration. -/
theorem outcome_docker (h : Configures p.files (a.value? config) base)
    (quiet : a.has interactive = false) : ∃ told, (work w a .docker).outcome p =
      (emit ⟨(oneShot a base).workflow,
        otherText (fun _ : Half => buildDocument w a) p (oneShot a base).workflow⟩
          (a.value? documentOption)).outcome (p.tell told) := by
  obtain ⟨told, made⟩ := gives_buildDocument w h quiet
  have document := outcome_documentOf (fun _ : Half => buildDocument w a) made
  exact ⟨told, outcome_bind document⟩

theorem run_emits_whole {all : List String} {verbose : Bool} {text : String} {told : List Message}
    {output : Option String}
    (runs : run w all =
      Run.ofOutcome ((emit (.whole text) output).outcome ((started w verbose).tell told))) :
    (output = none → (run w all).code = 0 ∧ (run w all).progress.printed = Text.plainly text ∧
      (run w all).progress.files = w.files) ∧
    ∀ path, output = some path →
      let attempt := w.files.write (Path.ofText path) text
      (run w all).progress.printed = "" ∧ (run w all).progress.files = attempt.2 ∧
      (attempt.1 = .ok () →
        (run w all).progress.files.find (Path.ofText path) = .ok (.bytes text.toUTF8)) ∧
      ∀ e, attempt.1 = .error e → (run w all).crash = some (.file e) := by
  constructor
  · rintro rfl
    have unbroken : (Document.whole text).plainly.tear? = none := by
      rw [Document.plainly_whole, Document.tear?_whole]
    rw [outcome_emit_printed unbroken] at runs
    rw [runs]
    exact ⟨rfl, String.empty_append, rfl⟩
  · rintro path rfl attempt
    obtain ⟨printed, files, unwritten⟩ := emit_whole text path ((started w verbose).tell told)
    rw [runs, Run.progress_ofOutcome]
    refine ⟨printed, files, fun ok => ?_, fun e failed => Run.crash_of_error (unwritten e failed)⟩
    have written : w.files.write (Path.ofText path) text = (.ok (), attempt.2) := Prod.ext ok rfl
    rw [files]
    exact (Files.find_of_write written).1

/-- A run that asks no questions hands out the workflow of the one configuration that its options
stand for, of which no value is left out, and it is never refused. What it prints is the workflow
without the control sequences of a terminal, and what it writes is the workflow itself. The order of
different options does not count. -/
theorem emits_oneShot {all : List String} {verbose : Bool}
    (invoked : Invoked all verbose .docker arguments)
    (accepted : command.request w.files.isDirectory arguments = .ok (.work a))
    (quiet : a.has interactive = false) (h : Configures w.files (a.value? config) base) :
    let r := run w all
    let text := (oneShot a base).workflow
    (IsWhole w.files a text →
      (a.value? documentOption = none →
        r.code = 0 ∧ r.progress.printed = Text.plainly text ∧ r.progress.files = w.files) ∧
      ∀ path, a.value? documentOption = some path →
        let attempt := w.files.write (Path.ofText path) text
        r.progress.printed = "" ∧ r.progress.files = attempt.2 ∧
        (attempt.1 = .ok () →
          r.progress.files.find (Path.ofText path) = .ok (.bytes text.toUTF8)) ∧
        ∀ e, attempt.1 = .error e → r.crash = some (.file e)) ∧
    (Text.escapeChar ∉ text.toList → Text.plainly text = text) ∧
    (∀ o ∈ [buildArg, dynamicArg], KeyValue.readItems (a.values o) = .ok (pairs a o)) ∧
    (∀ v, a.value? outputType = some v → (Output.ofName? v).isSome = true) ∧
    (∀ e, r.crash ≠ some (.refusal e)) ∧
    (∃ pieces, Spells command.options arguments pieces) ∧
    ∀ pieces order all', Spells command.options arguments pieces → order.Perm pieces →
      SameOrder (pieces.map Piece.given) (order.map Piece.given) →
      Invoked all' verbose .docker (wordsOf order) → run w all' = r := by
  intro r text
  have accepted := request_eq_work_iff.1 accepted
  have runs := invoked.run_eq w
  rw [runTask_of_accepted accepted] at runs
  obtain ⟨told, ended⟩ := outcome_docker (p := started w verbose) h quiet
  refine ⟨fun whole => ?_, Text.plainly_of_no_escape, ?_, fun v => accepted.output quiet, ?_, ?_,
    ?_⟩
  · rw [otherText_of_isWhole h quiet whole] at ended
    exact run_emits_whole (runs.trans (congrArg Run.ofOutcome ended))
  · intro o ho
    rcases List.mem_pair.1 ho with rfl | rfl
    · exact accepted.pairs quiet (by simp [command]) rfl
    · exact accepted.pairs quiet (by simp [command]) rfl
  · intro e crash
    simp only [r, runs] at crash
    have refused := Run.crash_ofOutcome crash
    rw [ended] at refused
    exact emit_ne_refusal _ _ _ e refused
  · obtain ⟨pieces, spells, -⟩ := accepted.spells quiet
    exact ⟨pieces, spells⟩
  · intro pieces order all' spells perm same invoked'
    have read := spells.read
    rw [accepted.read] at read
    obtain rfl := Except.ok.inj read
    have written (piece) (hp : piece ∈ order) := spells.written piece (perm.subset hp)
    have again : Spells command.options (wordsOf order) order :=
      ⟨written, [], .inl rfl, (List.append_nil _).symm⟩
    have runs' := invoked'.run_eq w
    rw [runTask_of_accepted (accepted.rearranged same again)] at runs'
    have congr : work w ⟨pieces.map Piece.given, []⟩ .docker =
        work w ⟨order.map Piece.given, []⟩ .docker := work_docker_congr w same
    rw [← congr] at runs'
    exact runs'.trans runs.symm

end

theorem invoked (rest : List String) : Invoked ("docker" :: rest) false .docker rest :=
  ⟨⟨[], "docker" :: rest⟩, rfl, rfl, rfl, rfl⟩

/-- Options of every kind, some of them given again, the pairs with more than one equals sign; and
the same in another order. -/
theorem emits_oneShot_repeated :
    let w : World := ⟨⟨[]⟩, [], none, .response 200 "", 80, by decide⟩
    let tagged : List Piece := [
      ⟨["--tags=v1"], ⟨tags, .value "v1"⟩⟩, ⟨["--tags", "v2"], ⟨tags, .value "v2"⟩⟩]
    let targets : List Piece := [
      ⟨["--platform", "b"], ⟨platform, .value "b"⟩⟩, ⟨["--platform=a"], ⟨platform, .value "a"⟩⟩,
      ⟨["--platform", "b"], ⟨platform, .value "b"⟩⟩]
    let others : List Piece := [
      ⟨["--clear-build-args"], ⟨clearBuildArgs, .on⟩⟩,
      ⟨["--dynamic-arg", "D = date"], ⟨dynamicArg, .value "D = date"⟩⟩,
      ⟨["--build-arg=K=1=2"], ⟨buildArg, .value "K=1=2"⟩⟩,
      ⟨["--no-rewrite-timestamp"], ⟨rewriteTimestamp, .off⟩⟩,
      ⟨["--output-type", "Oci_Local"], ⟨outputType, .value "Oci_Local"⟩⟩]
    let one : Container := { Container.sample with
      tags := "v2"
      platforms := ["b", "a"]
      output := .ociLocal
      rewriteTimestamp := false
      buildArgs := [⟨"", "K", "1=2", false⟩, ⟨"", "D", " date", true⟩] }
    let r := run w ("docker" :: wordsOf (tagged ++ targets ++ others))
    r.code = 0 ∧ r.progress.printed = Text.plainly one.workflow ∧
      run w ("docker" :: wordsOf (others ++ targets ++ tagged)) = r := by
  intro w tagged targets others one
  have accepted : command.request w.files.isDirectory (wordsOf (tagged ++ targets ++ others)) =
      .ok (.work ⟨(tagged ++ targets ++ others).map Piece.given, []⟩) := by
    decide +kernel
  have whole : oneShot ⟨(tagged ++ targets ++ others).map Piece.given, []⟩ .sample = one := by
    decide +kernel
  have written : ∀ piece ∈ tagged ++ targets ++ others, piece.Written command.options := by
    simp only [tagged, targets, others, List.cons_append, List.nil_append, List.forall_mem_cons]
    exact ⟨.alone rfl (by decide) rfl, .spaced rfl (by decide) rfl, .spaced rfl (by decide) rfl,
      .alone rfl (by decide) rfl, .spaced rfl (by decide) rfl, .alone rfl (by decide) rfl,
      .spaced rfl (by decide) rfl, .alone rfl (by decide) rfl, .alone rfl (by decide) rfl,
      .spaced rfl (by decide) rfl, fun _ h => absurd h List.not_mem_nil⟩
  have spells : Spells command.options (wordsOf (tagged ++ targets ++ others))
      (tagged ++ targets ++ others) := ⟨written, [], .inl rfl, (List.append_nil _).symm⟩
  have perm : (others ++ targets ++ tagged).Perm (tagged ++ targets ++ others) := by
    rw [List.append_assoc tagged]
    exact List.perm_append_comm.trans (List.perm_append_comm.append_left tagged)
  have same : SameOrder ((tagged ++ targets ++ others).map Piece.given)
      ((others ++ targets ++ tagged).map Piece.given) := by
    intro name
    by_cases ht : name = "--tags"
    · subst ht
      decide +kernel
    · by_cases hp : name = "--platform"
      · subst hp
        decide +kernel
      · have tagged : (tagged.map Piece.given).filter (fun g => g.option.name == name) = [] := by
          simp [tagged, tags, Opt.text, Ne.symm ht]
        have targets : (targets.map Piece.given).filter (fun g => g.option.name == name) = [] := by
          simp [targets, platform, Opt.text, Ne.symm hp]
        simp only [List.map_append, List.filter_append, tagged, targets, List.append_nil,
          List.nil_append]
  have unnamed : (⟨(tagged ++ targets ++ others).map Piece.given, []⟩ : Arguments).value? config =
      none := by decide +kernel
  have base : Configures w.files ((⟨(tagged ++ targets ++ others).map Piece.given, []⟩ :
      Arguments).value? config) .sample := unnamed ▸ .sample
  obtain ⟨emitted, -, -, -, -, -, rearranged⟩ :=
    emits_oneShot (invoked _) accepted (by decide +kernel) base
  obtain ⟨code, printed, -⟩ :=
    (emitted (isWhole_of_unnamed w.files unnamed)).1 (by decide +kernel)
  rw [whole] at printed
  exact ⟨code, printed, rearranged _ _ _ spells perm same (invoked _)⟩

theorem plainly_workflow_ne {c : Container} (coloured : c.imageName = "\x1b[31m") :
    Text.plainly c.workflow ≠ c.workflow := by
  have named : "  IMAGE_NAME: " ++ c.imageName ∈ c.header ++ Workflow.Step.blocks c.steps := by
    simp [Container.header]
  obtain ⟨pre, post, split⟩ := Workflow.exists_split_unlines named
  rw [coloured, String.toList_append, List.append_assoc, ← List.append_assoc] at split
  have suffix : "\x1b[31m".toList ++ '\n' :: post <:+ c.workflow.toList := ⟨_, split.symm⟩
  exact Text.plainly_ne suffix (Option.some_ne_none _)

/-- What would colour a terminal is not printed. -/
theorem not_printed_coloured :
    let w : World := ⟨⟨[]⟩, [], none, .response 200 "", 80, by decide⟩
    let a : Arguments := ⟨[⟨imageName, .value "\x1b[31m"⟩], []⟩
    let words := ["--image-name", "\x1b[31m"]
    command.request w.files.isDirectory words = .ok (.work a) ∧ a.has interactive = false ∧
      Configures w.files (a.value? config) .sample ∧
      (run w ("docker" :: words)).progress.printed ≠ (oneShot a .sample).workflow := by
  intro w a words
  have accepted : command.request w.files.isDirectory words = .ok (.work a) := by decide +kernel
  have quiet : a.has interactive = false := by decide +kernel
  have unnamed : a.value? config = none := by decide +kernel
  have base : Configures w.files (a.value? config) .sample := unnamed ▸ .sample
  refine ⟨accepted, quiet, base, ?_⟩
  have runs := (invoked words).run_eq w
  rw [runTask_of_accepted (request_eq_work_iff.1 accepted)] at runs
  obtain ⟨told, ended⟩ := outcome_docker (p := started w false) base quiet
  rw [otherText_of_isWhole base quiet (isWhole_of_unnamed w.files unnamed)] at ended
  obtain ⟨-, printed, -⟩ :=
    (run_emits_whole (runs.trans (congrArg Run.ofOutcome ended))).1 (by decide +kernel)
  rw [printed]
  exact plainly_workflow_ne (by decide +kernel)

end Docker

end CiWorkflow.Cli
