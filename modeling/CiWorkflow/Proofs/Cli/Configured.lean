import CiWorkflow.Cli.Run
import CiWorkflow.Proofs.Cli.Outcome
import CiWorkflow.Proofs.Config.Loading
import CiWorkflow.Proofs.Config.RoundTrip

set_option autoImplicit false

namespace CiWorkflow.Cli

open Session

/-- The message gives this text as that of an error, in lines of so many columns. -/
def Message.Shows (columns : Nat) (text : String) (m : Message) : Prop :=
  ∃ cs, Text.Markup.shown (styled "red" text).toList = .ok cs ∧
    (m = line columns cs ∨ m = .unfinished (String.ofList (Text.laidOut columns cs)))

theorem outcome_tellRefused (e : LoadError) (p : Progress) : ∃ m : Message,
    m.Shows p.columns ("Error: " ++ e.message) ∧
      (tellRefused e).outcome p = (.ok (), { p with messages := p.messages ++ [m] }) := by
  have red := Text.Markup.isPlainStyle_of_mem "red" (by decide)
  obtain ⟨cs, h⟩ := exists_shown_styled red ("Error: " ++ e.message)
  have plain := outcome_say_ok h p
  have unfinished : (sayUnfinished "red" ("Error: " ++ e.message)).outcome p = (.ok (), { p with
      messages := p.messages ++ [.unfinished (String.ofList (Text.laidOut p.columns cs))] }) :=
    outcome_bind (outcome_shown h p)
  cases e with
  | notFound | notMapping => exact ⟨_, ⟨cs, h, .inl rfl⟩, plain⟩
  | unreadable | malformed | invalid => exact ⟨_, ⟨cs, h, .inr rfl⟩, unfinished⟩

/-- A run that needs a configuration ends if it was not loaded: after a refusal with its message and
the exit code 1, otherwise with no message about it. -/
def EndsUnloaded {α β : Type} (p : Progress) (l : Loaded α) (outcome : Except Stop β × Progress) :
    Prop :=
  let told := { p with messages := p.messages ++ heard p.verbose l.log }
  match l.result with
  | .ok _ => True
  | .error (.refused e) => ∃ m : Message, m.Shows p.columns ("Error: " ++ e.message) ∧
      outcome = (.error (.exit 1), { told with messages := told.messages ++ [m] })
  | .error (.scalar f) => outcome = (.error (.crash (.scalar f)), told)
  | .error .longNumber => outcome = (.error (.crash .longNumber), told)

section Configured
variable {α β γ : Type} {p : Progress} {text : String} {content : FileContent}

theorem endsUnloaded_configured (load : String → FileContent → Nat → Loaded α) (default : α)
    (found : p.files.find (Path.ofText text) = .ok content) :
    EndsUnloaded p (load (Path.ofText text).text content 0)
      ((configured load default (some text)).outcome p) := by
  have opened : (ofExcept Crash.file (p.files.find (Path.ofText text))).outcome p =
      (.ok content, p) := by
    rw [found]
    rfl
  have started : (get : Session Progress).outcome p = (.ok p, p) := rfl
  rw [configured]
  dsimp only
  rw [outcome_bind started, outcome_bind opened]
  generalize load (Path.ofText text).text content 0 = l
  rw [outcome_bind (outcome_log l.log p), EndsUnloaded]
  cases hl : l.result with
  | ok config => trivial
  | error failure =>
    cases failure with
    | scalar | longNumber => rfl
    | refused e =>
      obtain ⟨m, shows, told⟩ := outcome_tellRefused e
        { p with messages := p.messages ++ heard p.verbose l.log }
      exact ⟨m, shows, outcome_bind told⟩

theorem EndsUnloaded.bind {l : Loaded α} {x : Session γ} (h : EndsUnloaded p l (x.outcome p))
    (k : γ → Session β) : EndsUnloaded p l ((x >>= k).outcome p) := by
  rw [EndsUnloaded] at h ⊢
  cases hl : l.result with
  | ok config => trivial
  | error failure =>
    rw [hl] at h
    cases failure with
    | scalar | longNumber => exact outcome_bind_error h
    | refused e =>
      obtain ⟨m, shows, ended⟩ := h
      exact ⟨m, shows, outcome_bind_error ended⟩

theorem EndsUnloaded.exists_error {l : Loaded α} {ended : Except Stop β × Progress}
    (h : EndsUnloaded p l ended) {failure : LoadFailure} (failed : l.result = .error failure) :
    ∃ stop, ended.1 = .error stop := by
  rw [EndsUnloaded, failed] at h
  cases failure with
  | refused e =>
    obtain ⟨m, -, rfl⟩ := h
    exact ⟨_, rfl⟩
  | scalar | longNumber => exact ⟨_, congrArg Prod.fst h⟩

theorem EndsUnloaded.handOut {l : Loaded α} {make : Half → Session String}
    (h : EndsUnloaded p l ((make .standIn).outcome p)) (a : Arguments) :
    EndsUnloaded p l ((handOut a make).outcome p) := by
  have started : (get : Session Progress).outcome p = (.ok p, p) := rfl
  have made : EndsUnloaded p l ((documentOf make).outcome p) := by
    rw [documentOf, outcome_bind started]
    exact h.bind _
  exact made.bind _

end Configured

theorem ofText_name : Path.ofText "ci.yml" = ⟨"", ["ci.yml"]⟩ := by
  have whole : "ci.yml".splitOn "/" = ["ci.yml"] := by
    have sep : ("/" == "") = false := by decide
    rw [String.splitOn, sep]
    iterate 7 rw [String.splitOnAux]
    decide +kernel
  rw [Path.ofText, whole]
  decide +kernel

end CiWorkflow.Cli
