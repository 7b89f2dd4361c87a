import CiWorkflow.Cli.Run
import CiWorkflow.Proofs.Text.Markup

set_option autoImplicit false

namespace CiWorkflow.Cli

namespace Document

/-- A document without halves of surrogate pairs. -/
def whole (text : String) : Document := ⟨text, text⟩

theorem tear?_whole (text : String) : (whole text).tear? = none := Text.tear?_self _

theorem plainly_whole (text : String) : (whole text).plainly = whole (Text.plainly text) := rfl

theorem content_whole (text : String) : (whole text).content = text := by
  rw [content, tear?_whole]
  rfl

end Document

namespace Session
variable {α β : Type} {x : Session α} {k : α → Session β} {p p' : Progress}

theorem outcome_bind {a : α} (h : x.outcome p = (.ok a, p')) :
    (x >>= k).outcome p = (k a).outcome p' := by
  simp only [outcome, ExceptT.run_bind, StateT.run_bind] at h ⊢
  rw [h]
  rfl

theorem outcome_bind_error {stop : Stop} (h : x.outcome p = (.error stop, p')) :
    (x >>= k).outcome p = (.error stop, p') := by
  simp only [outcome, ExceptT.run_bind, StateT.run_bind] at h ⊢
  rw [h]
  rfl

theorem outcome_ofExcept_ok {ε : Type} (crash : ε → Crash) (a : α) (p : Progress) :
    (ofExcept crash (.ok a)).outcome p = (.ok a, p) := rfl

theorem outcome_ofExcept_error {ε : Type} (crash : ε → Crash) (e : ε) (p : Progress) :
    (ofExcept crash (.error e) : Session α).outcome p = (.error (.crash (crash e)), p) := rfl

def heard (verbose : Bool) (entries : List LogEntry) : List Message :=
  (entries.filter fun e => verbose || e.level != .debug).map .entry

theorem outcome_each (v : Bool) (entries : List LogEntry) (p : Progress) :
    outcome (do for e in entries do if v || e.level != .debug then message (.entry e)) p =
      (.ok (), { p with messages := p.messages ++ heard v entries }) := by
  induction entries generalizing p with
  | nil => simp [heard, outcome]; rfl
  | cons e rest ih =>
    cases told : v || e.level != .debug with
    | true =>
      simp only [List.forIn_cons, told, if_true]
      refine (ih { p with messages := p.messages ++ [.entry e] }).trans ?_
      simp [heard, told]
    | false =>
      simp only [List.forIn_cons, told]
      refine (ih p).trans ?_
      simp only [heard, List.filter_cons, told]
      rfl

theorem outcome_log (entries : List LogEntry) (p : Progress) : (log entries).outcome p =
    (.ok (), { p with messages := p.messages ++ heard p.verbose entries }) :=
  (outcome_bind (a := p) rfl).trans (outcome_each p.verbose entries p)

theorem outcome_shown {s : String} {cs : List Char} (h : Text.Markup.shown s.toList = .ok cs)
    (p : Progress) :
    (shown s).outcome p = (.ok (String.ofList (Text.laidOut p.columns cs)), p) := by
  rw [shown, h]
  rfl

theorem toList_tagged (style text : String) : (tagged style text).toList =
    Text.Markup.bracketed style.toList ++
      (text.toList ++ Text.Markup.bracketed ('/' :: style.toList)) := by
  simp [tagged, Text.Markup.bracketed]

theorem exists_shown_styled {style : String} (plain : Text.Markup.IsPlainStyle style)
    (text : String) : ∃ cs, Text.Markup.shown (styled style text).toList = .ok cs := by
  have escaped := Text.Markup.exists_shown_escape plain text.toList
  rwa [styled, toList_tagged, String.toList_ofList]

theorem exists_shown_tagged {style text : String} (plain : Text.Markup.IsPlainStyle style)
    (h : Text.Markup.escape text.toList = text.toList) :
    ∃ cs, Text.Markup.shown (tagged style text).toList = .ok cs := by
  have shown := exists_shown_styled plain text
  rwa [styled, h, String.ofList_toList] at shown

theorem shown_tagged {style text : String} (plain : Text.Markup.IsPlainStyle style)
    (h : Text.Markup.Untagged text.toList) :
    Text.Markup.shown (tagged style text).toList = .ok text.toList := by
  rw [toList_tagged, Text.Markup.shown_untagged plain h]

/-- A message, from its text without tags. -/
def line (columns : Nat) (cs : List Char) : Message :=
  .text (String.ofList (Text.laidOut columns cs) ++ "\n")

theorem outcome_say_ok {s : String} {cs : List Char} (h : Text.Markup.shown s.toList = .ok cs)
    (p : Progress) :
    (say s).outcome p = (.ok (), { p with messages := p.messages ++ [line p.columns cs] }) :=
  outcome_bind (outcome_shown h p)

theorem outcome_say_error {s : String} {f : Text.Markup.Fault}
    (h : Text.Markup.shown s.toList = .error f) (p : Progress) :
    (say s).outcome p = (.error (.crash (.markup f)), p) := by
  refine outcome_bind_error ?_
  rw [shown, h]
  rfl

section Document
variable (make : Half → Session String) {text : String} {d : Document}

theorem outcome_documentOf (h : (make .standIn).outcome p = (.ok text, p')) :
    (documentOf make).outcome p = (.ok ⟨text, otherText make p text⟩, p') := by
  have started : (get : Session Progress).outcome p = (.ok p, p) := rfl
  rw [documentOf, outcome_bind started, outcome_bind h]
  rfl

theorem outcome_documentOf_error {stop : Stop}
    (h : (make .standIn).outcome p = (.error stop, p')) :
    (documentOf make).outcome p = (.error stop, p') := by
  have started : (get : Session Progress).outcome p = (.ok p, p) := rfl
  rw [documentOf, outcome_bind started, outcome_bind_error h]

theorem progress_documentOf (p : Progress) :
    ((documentOf make).outcome p).2 = ((make .standIn).outcome p).2 := by
  cases ended : (make .standIn).outcome p with
  | mk result p' =>
    cases result with
    | ok text => rw [outcome_documentOf make ended]
    | error stop => rw [outcome_documentOf_error make ended]

theorem outcome_refuseTorn_whole (whole : d.tear? = none) (p : Progress) :
    (refuseTorn d).outcome p = (.ok (), p) := by
  rw [refuseTorn, whole]
  rfl

theorem outcome_refuseTorn_torn {tear : Text.Tear} (torn : d.tear? = some tear) (p : Progress) :
    (refuseTorn d).outcome p = (.error (.crash (.torn tear)), p) := by
  rw [refuseTorn, torn]
  rfl

theorem outcome_emit_printed (whole : d.plainly.tear? = none) (p : Progress) :
    (emit d none).outcome p = (.ok (), { p with printed := p.printed ++ Text.plainly d.text }) :=
  outcome_bind (outcome_refuseTorn_whole whole p)

theorem outcome_emit_unprinted {tear : Text.Tear} (torn : d.plainly.tear? = some tear)
    (p : Progress) : (emit d none).outcome p = (.error (.crash (.torn tear)), p) :=
  outcome_bind_error (outcome_refuseTorn_torn torn p)

variable {path : String} {files : Files}

theorem outcome_emit_file {written : Except FileError Unit}
    (h : p.files.write (Path.ofText path) d.content = (written, files)) :
    (emit d (some path)).outcome p = (do
      ofExcept .file written
      refuseTorn d
      say (tagged "green" (wrote (Path.ofText path)))).outcome { p with files := files } := by
  have started : (get : Session Progress).outcome p = (.ok p, p) := rfl
  have kept : (modify fun p : Progress => { p with files := files } : Session Unit).outcome p =
      (.ok (), { p with files := files }) := rfl
  rw [emit, outcome_bind started, h]
  exact outcome_bind kept

theorem outcome_emit_unwritten {e : FileError}
    (h : p.files.write (Path.ofText path) d.content = (.error e, files)) :
    (emit d (some path)).outcome p = (.error (.crash (.file e)), { p with files := files }) := by
  rw [outcome_emit_file h, outcome_bind_error (outcome_ofExcept_error _ _ _)]

theorem outcome_emit_emptied {tear : Text.Tear} (torn : d.tear? = some tear)
    (h : p.files.write (Path.ofText path) d.content = (.ok (), files)) :
    (emit d (some path)).outcome p =
      (.error (.crash (.torn tear)), { p with files := files }) := by
  rw [outcome_emit_file h, outcome_bind (outcome_ofExcept_ok _ _ _),
    outcome_bind_error (outcome_refuseTorn_torn torn _)]

theorem outcome_emit_written (whole : d.tear? = none)
    (h : p.files.write (Path.ofText path) d.content = (.ok (), files)) :
    (emit d (some path)).outcome p =
      (say (tagged "green" (wrote (Path.ofText path)))).outcome { p with files := files } := by
  rw [outcome_emit_file h, outcome_bind (outcome_ofExcept_ok _ _ _),
    outcome_bind (outcome_refuseTorn_whole whole _)]

/-- A whole document is written as it is, if it can be written, and it is not printed. -/
theorem emit_whole (text path : String) (p : Progress) :
    let attempt := p.files.write (Path.ofText path) text
    let ended := (emit (.whole text) (some path)).outcome p
    ended.2.printed = p.printed ∧ ended.2.files = attempt.2 ∧
      ∀ e, attempt.1 = .error e → ended.1 = .error (.crash (.file e)) := by
  intro attempt ended
  have written : p.files.write (Path.ofText path) (Document.whole text).content =
      (attempt.1, attempt.2) := by rw [Document.content_whole]
  cases result : attempt.1 with
  | error e =>
    rw [result] at written
    have failed := outcome_emit_unwritten written
    rw [show ended = _ from failed]
    exact ⟨rfl, rfl, fun _ same => Except.error.inj same ▸ rfl⟩
  | ok u =>
    rw [result] at written
    have kept := outcome_emit_written (Document.tear?_whole text) written
    rw [show ended = _ from kept]
    cases told : Text.Markup.shown (tagged "green" (wrote (Path.ofText path))).toList with
    | ok cs =>
      rw [outcome_say_ok told]
      exact ⟨rfl, rfl, nofun⟩
    | error f =>
      rw [outcome_say_error told]
      exact ⟨rfl, rfl, nofun⟩

end Document

end Session

open Session

/-- The arguments of the program name a task. The others are left to it. -/
structure Invoked (arguments : List String) (verbose : Bool) (t : Task) (rest : List String) :
    Prop where
  intro ::
  read : ∃ g, Arguments.read false wholeProgram.options arguments = .ok g ∧
    g.has helpOption = false ∧ g.has verboseOption = verbose ∧ g.others = t.command.name :: rest

def Run.ofOutcome : Except Stop Unit × Progress → Run
  | (.ok (), p) => ⟨0, none, p⟩
  | (.error (.exit code), p) => ⟨code, none, p⟩
  | (.error (.crash e), p) => ⟨1, some e, p⟩

section
variable {w : World} {arguments rest : List String} {verbose : Bool} {t : Task}

theorem Run.progress_ofOutcome (ended : Except Stop Unit × Progress) :
    (ofOutcome ended).progress = ended.2 := by
  obtain ⟨result, p⟩ := ended
  cases result with
  | ok _ => rfl
  | error stop => cases stop <;> rfl

theorem Run.code_ofOutcome_ne {stop : Stop} (h : stop ≠ .exit 0) (p : Progress) :
    (ofOutcome (.error stop, p)).code ≠ 0 := by
  cases stop with
  | exit code => exact fun zero => h (congrArg Stop.exit zero)
  | crash e => exact Nat.one_ne_zero

theorem Run.crash_of_error {ended : Except Stop Unit × Progress} {e : Crash}
    (h : ended.1 = .error (.crash e)) : (ofOutcome ended).crash = some e := by
  obtain ⟨result, p⟩ := ended
  obtain rfl : result = _ := h
  rfl

theorem Run.crash_ofOutcome {ended : Except Stop Unit × Progress} {e : Crash}
    (h : (ofOutcome ended).crash = some e) : ended.1 = .error (.crash e) := by
  obtain ⟨result, p⟩ := ended
  cases result with
  | ok _ => cases h
  | error stop =>
    cases stop with
    | exit code => cases h
    | crash e => exact Option.some.inj h ▸ rfl

theorem run_eq (w : World) (arguments : List String) :
    run w arguments = Run.ofOutcome ((session w arguments).outcome (started w false)) := by
  rw [run]
  generalize (session w arguments).outcome _ = ended
  obtain ⟨result, p⟩ := ended
  cases result with
  | ok _ => rfl
  | error stop => cases stop <;> rfl

theorem ofName?_name (t : Task) : Task.ofName? t.command.name = some t := by
  cases t <;> decide

theorem Invoked.run_eq (h : Invoked arguments verbose t rest) (w : World) :
    run w arguments = Run.ofOutcome ((runTask w t rest).outcome (started w verbose)) := by
  obtain ⟨g, read, help, told, others⟩ := h
  have some : arguments ≠ [] := by
    rintro rfl
    obtain rfl : _ = g := Except.ok.inj read
    cases others
  have noted : (modify fun p : Progress => { p with verbose := g.has verboseOption } :
      Session Unit).outcome (started w false) = (.ok (), started w verbose) := by
    rw [told]
    rfl
  have nonempty : arguments.isEmpty = false := by simpa using some
  rw [Cli.run_eq, session, nonempty, read]
  simp only [Bool.false_eq_true, if_false]
  rw [runArguments, help]
  simp only [Bool.false_eq_true, if_false]
  rw [outcome_bind noted, others]
  simp only [ofName?_name]

theorem Invoked.run_of_error {e : Obstacle} (h : Invoked arguments verbose t rest)
    (refused : t.command.request w.files.isDirectory rest = .error e) :
    (run w arguments).code ≠ 0 ∧ (run w arguments).progress.files = w.files := by
  rw [h.run_eq w, runTask, refused]
  cases e with
  | usage e => exact ⟨Nat.succ_ne_zero 1, rfl⟩
  | nulInPath => exact ⟨Nat.one_ne_zero, rfl⟩

end

end CiWorkflow.Cli
