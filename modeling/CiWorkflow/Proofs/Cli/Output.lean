import CiWorkflow.Proofs.Cli.Document
import CiWorkflow.Proofs.Files
import CiWorkflow.Proofs.Text.Wrap

/-! Where a run is told to put its document. It is written as a whole or not at all, but the message
about it comes after that, and reads the path as a text with tags. -/

set_option autoImplicit false

namespace CiWorkflow.Cli

open Session

structure Puts (w : World) (arguments : List String) (x : Session Document) (p : Progress)
    (text : String) : Prop where
  run_eq : run w arguments =
    Run.ofOutcome ((x >>= fun d => emit d (some text)).outcome p)
  harmless : x.Harmless
  files : p.files = w.files
  columns : p.columns = w.columns

/-- A run either ends well, with its document in the file, or it fails and no file is new or
changed. -/
def Run.WholeOrNothing (r : Run) (files : Files) (path : Path) (made : Except Stop Document) :
    Prop :=
  (r.code = 0 ∧ ∃ d, made = .ok d ∧ r.progress.files.find path = .ok (.bytes d.text.toUTF8)) ∨
    (r.code ≠ 0 ∧ files.Same r.progress.files)

/-- After its file the run comes to nothing: the document is torn, or the message about the path
has a fault in its tags. -/
def Document.Spoilt (d : Document) (path : Path) : Prop :=
  (∃ tear, d.tear? = some tear) ∨
    ∃ f, Text.Markup.shown (tagged "green" (wrote path)).toList = .error f

section
variable {w : World} {arguments rest : List String} {verbose : Bool} {t : Task} {a : Arguments}

theorem Invoked.puts {make : Half → Session String} {text : String}
    (h : Invoked arguments verbose t rest)
    (request : t.command.request w.files.isDirectory rest = .ok (.work a))
    (made : document? w a t = some make) (output : a.value? documentOption = some text) :
    Puts w arguments (documentOf make) (started w verbose) text where
  run_eq := by
    rw [h.run_eq w, runTask, request, ← output]
    simp only [work_eq made, handOut]
  harmless := harmless_document made
  files := rfl
  columns := rfl

end

theorem Document.content_of_whole {d : Document} (whole : d.tear? = none) :
    d.content = d.text := by
  rw [content, whole]
  rfl

section
variable {w : World} {arguments : List String} {x : Session Document} {p : Progress}
  {text : String} {d : Document} {files : Files}

theorem Puts.run_of_error (h : Puts w arguments x p text) {stop : Stop}
    (failed : (x.outcome p).1 = .error stop) :
    (run w arguments).code ≠ 0 ∧ (run w arguments).progress.files = w.files := by
  obtain ⟨same, -, -, code⟩ := h.harmless p
  have ended : x.outcome p = (.error stop, (x.outcome p).2) := Prod.ext failed rfl
  rw [h.run_eq, outcome_bind_error ended, Run.progress_ofOutcome]
  refine ⟨Run.code_ofOutcome_ne (fun zero => code ?_) _, same.trans h.files⟩
  rw [failed, zero]

theorem Puts.run_of_ok (h : Puts w arguments x p text) (made : (x.outcome p).1 = .ok d) :
    run w arguments = Run.ofOutcome ((emit d (some text)).outcome (x.outcome p).2) := by
  have ended : x.outcome p = (.ok d, (x.outcome p).2) := Prod.ext made rfl
  rw [h.run_eq, outcome_bind ended]

theorem Puts.write_eq (h : Puts w arguments x p text) (content : String) :
    (x.outcome p).2.files.write (Path.ofText text) content =
      w.files.write (Path.ofText text) content := by
  rw [(h.harmless p).1, h.files]

theorem Puts.run_of_unwritten (h : Puts w arguments x p text) (made : (x.outcome p).1 = .ok d)
    {e : FileError}
    (unwritten : w.files.write (Path.ofText text) d.content = (.error e, files)) :
    run w arguments = ⟨1, some (.file e), { (x.outcome p).2 with files := files }⟩ := by
  rw [h.run_of_ok made, outcome_emit_unwritten ((h.write_eq _).trans unwritten)]
  rfl

theorem Puts.run_of_torn (h : Puts w arguments x p text) (made : (x.outcome p).1 = .ok d)
    (written : w.files.write (Path.ofText text) d.content = (.ok (), files))
    {tear : Text.Tear} (torn : d.tear? = some tear) :
    run w arguments = ⟨1, some (.torn tear), { (x.outcome p).2 with files := files }⟩ := by
  rw [h.run_of_ok made, outcome_emit_emptied torn ((h.write_eq _).trans written)]
  rfl

theorem Puts.run_of_shown (h : Puts w arguments x p text) (made : (x.outcome p).1 = .ok d)
    (written : w.files.write (Path.ofText text) d.content = (.ok (), files))
    (whole : d.tear? = none) {cs : List Char}
    (told : Text.Markup.shown (tagged "green" (wrote (Path.ofText text))).toList = .ok cs) :
    run w arguments = ⟨0, none, { (x.outcome p).2 with
      files := files, messages := (x.outcome p).2.messages ++ [line w.columns cs] }⟩ := by
  rw [h.run_of_ok made, outcome_emit_written whole ((h.write_eq _).trans written),
    outcome_say_ok told, ← h.columns, ← (h.harmless p).2.1]
  rfl

theorem Puts.run_of_fault (h : Puts w arguments x p text) (made : (x.outcome p).1 = .ok d)
    (written : w.files.write (Path.ofText text) d.content = (.ok (), files))
    (whole : d.tear? = none) {f : Text.Markup.Fault}
    (told : Text.Markup.shown (tagged "green" (wrote (Path.ofText text))).toList = .error f) :
    run w arguments = ⟨1, some (.markup f), { (x.outcome p).2 with files := files }⟩ := by
  rw [h.run_of_ok made, outcome_emit_written whole ((h.write_eq _).trans written),
    outcome_say_error told]
  rfl

/-- The law holds unless a file is new or changed by a run that comes to nothing after it. -/
theorem Puts.wholeOrNothing_iff (h : Puts w arguments x p text) :
    (run w arguments).WholeOrNothing w.files (Path.ofText text) (x.outcome p).1 ↔
      ∀ d files, (x.outcome p).1 = .ok d →
        w.files.write (Path.ofText text) d.content = (.ok (), files) →
        d.Spoilt (Path.ofText text) → w.files.Same files := by
  cases made : (x.outcome p).1 with
  | error stop =>
    obtain ⟨code, files⟩ := h.run_of_error made
    refine iff_of_true (.inr ⟨code, ?_⟩) fun d files made => nomatch made
    rw [files]
    exact .refl w.files
  | ok d =>
    -- Nothing but this document is made, and nothing but these files come of it.
    have only (P : Document → Files → Prop) {files : Files}
        (written : w.files.write (Path.ofText text) d.content = (.ok (), files)) :
        (∀ d' files', Except.ok d = (.ok d' : Except Stop Document) →
          w.files.write (Path.ofText text) d'.content = (.ok (), files') → P d' files') ↔
          P d files := by
      refine ⟨fun all => all d files rfl written, fun law d' files' made written' => ?_⟩
      obtain rfl := Except.ok.inj made
      obtain rfl := congrArg Prod.snd (written.symm.trans written')
      exact law
    cases written : w.files.write (Path.ofText text) d.content with
    | mk result files =>
      cases result with
      | error e =>
        have same := Files.same_of_write written
        rw [h.run_of_unwritten made written]
        refine iff_of_true (.inr ⟨Nat.one_ne_zero, same⟩) fun d' files' made written' => ?_
        obtain rfl := Except.ok.inj made
        exact nomatch written.symm.trans written'
      | ok u =>
        rw [only _ written]
        cases torn : d.tear? with
        | some tear =>
          rw [h.run_of_torn made written torn]
          exact ⟨fun law _ => (law.resolve_left fun zero => Nat.one_ne_zero zero.1).2,
            fun same => .inr ⟨Nat.one_ne_zero, same (.inl ⟨tear, torn⟩)⟩⟩
        | none =>
          cases told : Text.Markup.shown (tagged "green" (wrote (Path.ofText text))).toList with
          | error f =>
            rw [h.run_of_fault made written torn told]
            exact ⟨fun law _ => (law.resolve_left fun zero => Nat.one_ne_zero zero.1).2,
              fun same => .inr ⟨Nat.one_ne_zero, same (.inr ⟨f, told⟩)⟩⟩
          | ok cs =>
            rw [h.run_of_shown made written torn told]
            have found := (Files.find_of_write written).1
            rw [Document.content_of_whole torn] at found
            refine iff_of_true (.inl ⟨rfl, d, rfl, found⟩) fun spoilt => ?_
            rcases spoilt with ⟨tear, torn'⟩ | ⟨f, fault⟩
            · exact nomatch torn.symm.trans torn'
            · exact nomatch told.symm.trans fault

theorem prefix_messages_emit (d : Document) (text : String) (p : Progress) :
    p.messages <+: ((emit d (some text)).outcome p).2.messages := by
  cases written : p.files.write (Path.ofText text) d.content with
  | mk result files =>
    cases result with
    | error e =>
      simp only [outcome_emit_unwritten written, List.prefix_rfl]
    | ok u =>
      cases torn : d.tear? with
      | some tear =>
        simp only [outcome_emit_emptied torn written, List.prefix_rfl]
      | none =>
        rw [outcome_emit_written torn written]
        exact (harmless_say _ { p with files := files }).2.2.1

/-- Whether the document is handed out or not, what was told while it was made stays told. -/
theorem Puts.prefix_messages (h : Puts w arguments x p text) :
    (x.outcome p).2.messages <+: (run w arguments).progress.messages := by
  cases made : (x.outcome p).1 with
  | error stop =>
    have ended : x.outcome p = (.error stop, (x.outcome p).2) := Prod.ext made rfl
    simp only [h.run_eq, outcome_bind_error ended, Run.progress_ofOutcome, List.prefix_rfl]
  | ok d =>
    rw [h.run_of_ok made, Run.progress_ofOutcome]
    exact prefix_messages_emit d text _

end

/-- A command whose only option names a file begins its work, also if there is no such file. -/
theorem Command.request_of_file {c : Command} {o : Opt} {isDirectory : String → Bool}
    {text : String} {arguments others : List String}
    (read : Arguments.read true c.options arguments = .ok ⟨[⟨o, .value text⟩], others⟩)
    (kind : o.kind = .file) (other : o.name ≠ helpOption.name)
    (operand : c.checkOperand others = .ok ())
    (noNul : text.toList.contains '\x00' = false) (noDirectory : isDirectory text = false) :
    c.request isDirectory arguments = .ok (.work ⟨[⟨o, .value text⟩], others⟩) := by
  let a : Arguments := ⟨[⟨o, .value text⟩], others⟩
  have value : a.value? o = some text := by simp [a, Arguments.value?, Arguments.values]
  have help : a.has helpOption = false := by simpa [a, Arguments.has] using other
  have fine : a.obstacle? isDirectory o = none := by
    simp only [Arguments.obstacle?, kind, value, Option.bind_some, noNul, noDirectory,
      Bool.false_eq_true, if_false]
  have check : c.check isDirectory a = .ok () := by
    have given : a.given = [⟨o, .value text⟩] := rfl
    rw [check, given, List.findSome?_cons, fine, List.findSome?_nil]
    exact congrArg (Except.mapError Obstacle.usage) operand
  rw [request_of_read read, help, check]
  rfl

namespace Site

def outputOnly (text : String) : Arguments := ⟨[⟨documentOption, .value text⟩], []⟩

theorem invoked (text : String) :
    Invoked ["pages", "-o", text] false .pages ["-o", text] where
  read := ⟨⟨[], ["pages", "-o", text]⟩, rfl, rfl, rfl, rfl⟩

theorem request_outputOnly {isDirectory : String → Bool} {text : String}
    (noNul : text.toList.contains '\x00' = false) (noDirectory : isDirectory text = false) :
    command.request isDirectory ["-o", text] = .ok (.work (outputOnly text)) :=
  Command.request_of_file rfl rfl (by decide) rfl noNul noDirectory

theorem exists_document (text : String) (p : Progress) : ∃ document,
    (documentOf fun _ : Half => pagesDocument (outputOnly text)).outcome p =
      (.ok (.whole document), p) := ⟨_, rfl⟩

end Site

theorem ofText_tagged : Path.ofText "a[/red]" = ⟨"", ["a[", "red]"]⟩ := by
  have whole : "a[/red]".splitOn "/" = ["a[", "red]"] := by
    have sep : ("/" == "") = false := by decide
    rw [String.splitOn, sep, if_neg (by decide)]
    iterate 2 rw [String.splitOnAux, if_neg (by decide +kernel), if_neg (by decide +kernel)]
    rw [String.splitOnAux, if_neg (by decide +kernel), if_pos (by decide +kernel),
      if_pos (by decide +kernel)]
    iterate 4 rw [String.splitOnAux, if_neg (by decide +kernel), if_neg (by decide +kernel)]
    rw [String.splitOnAux, if_pos (by decide +kernel)]
    decide +kernel
  rw [Path.ofText, whole]
  decide +kernel

theorem exists_fault_tagged : ∃ f,
    Text.Markup.shown (tagged "green" (wrote ⟨"", ["a[", "red]"]⟩)).toList = .error f := by
  have cut : Text.Markup.mergeText (Text.Markup.tokens
      (tagged "green" (wrote ⟨"", ["a[", "red]"]⟩)).toList) =
      [.tag 0 "green".toList, .text "Wrote a".toList, .tag 0 ('/' :: "red".toList),
        .tag 0 "/green".toList] := by decide +kernel
  have green := Text.Markup.isPlainStyle_of_mem "green" (by decide)
  have red := Text.Markup.isPlainStyle_of_mem "red" (by decide)
  obtain ⟨first, opens, -, opened, -⟩ := Text.Markup.addTag_open green
  obtain ⟨f, fails⟩ := Text.Markup.addTag_other red (by decide)
    (s := first.add 7 (Text.Markup.plainChars "Wrote a".toList)) opened
  have length : "Wrote a".toList.length = 7 := rfl
  refine ⟨f, ?_⟩
  rw [Text.Markup.shown, cut]
  simp only [List.foldlM_cons, Text.Markup.Shown.step, opens, bind, Except.bind, pure, Except.pure]
  rw [length, fails]

structure IsPlain (columns : Nat) (text : String) : Prop where
  untagged : Text.Markup.Untagged text.toList
  narrow : Text.IsNarrow text.toList
  fits : text.toList.length ≤ columns

theorem IsPlain.line_eq {columns : Nat} {text : String} (h : IsPlain columns text) :
    line columns text.toList = .text (text ++ "\n") := by
  rw [line, Text.laidOut_narrow h.narrow h.fits, String.ofList_toList]

section
variable {arguments rest : List String} {verbose : Bool} {t : Task}

end

end CiWorkflow.Cli
