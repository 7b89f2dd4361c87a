import CiWorkflow.Proofs.Cli.Configured

/-! The document that a run makes, before it hands it out. Until the document is there no file is
touched, and no run ends that far as if it had gone well. -/

set_option autoImplicit false

namespace CiWorkflow.Cli

open Session

namespace Session
variable {α β : Type} {x : Session α} {k : α → Session β} {p p' : Progress}

/-- A session that leaves the files as they are and takes no message back, and that does not end
the run as a success. -/
def Harmless (x : Session α) : Prop :=
  ∀ p, (x.outcome p).2.files = p.files ∧ (x.outcome p).2.columns = p.columns ∧
    p.messages <+: (x.outcome p).2.messages ∧ (x.outcome p).1 ≠ .error (.exit 0)

theorem harmless_pure (a : α) : (pure a : Session α).Harmless :=
  fun _ => ⟨rfl, rfl, List.prefix_rfl, nofun⟩

theorem harmless_crash (e : Crash) : (throw (.crash e) : Session α).Harmless :=
  fun _ => ⟨rfl, rfl, List.prefix_rfl, nofun⟩

theorem harmless_exit {code : Nat} (h : code ≠ 0) : (exit code : Session α).Harmless :=
  fun _ => ⟨rfl, rfl, List.prefix_rfl, fun ended => h (Stop.exit.inj (Except.error.inj ended))⟩

theorem harmless_modify {f : Progress → Progress} (files : ∀ p, (f p).files = p.files)
    (columns : ∀ p, (f p).columns = p.columns) (messages : ∀ p, p.messages <+: (f p).messages) :
    (modify f : Session Unit).Harmless :=
  fun p => ⟨files p, columns p, messages p, nofun⟩

theorem Harmless.bind (hx : x.Harmless) (hk : ∀ a, (k a).Harmless) : (x >>= k).Harmless := by
  intro p
  obtain ⟨files, columns, messages, code⟩ := hx p
  cases ended : x.outcome p with
  | mk result p' =>
    rw [ended] at files columns messages code
    cases result with
    | ok a =>
      rw [outcome_bind ended]
      obtain ⟨files', columns', messages', code'⟩ := hk a p'
      exact ⟨files'.trans files, columns'.trans columns, messages.trans messages', code'⟩
    | error stop =>
      rw [outcome_bind_error ended]
      exact ⟨files, columns, messages,
        fun exit => code (congrArg Except.error (Except.error.inj exit))⟩

theorem harmless_get_bind {k : Progress → Session β} (h : ∀ p, (k p).Harmless) :
    (get >>= k : Session β).Harmless := fun p => h p p

theorem harmless_ofExcept {ε : Type} (crash : ε → Crash) (result : Except ε α) :
    (ofExcept crash result).Harmless := by
  cases result with
  | ok a => exact harmless_pure a
  | error e => exact harmless_crash _

theorem harmless_message (m : Message) : (message m).Harmless :=
  harmless_modify (fun _ => rfl) (fun _ => rfl) fun _ => List.prefix_append _ _

theorem harmless_shown (s : String) : (shown s).Harmless :=
  (harmless_ofExcept _ _).bind fun _ => harmless_get_bind fun _ => harmless_pure _

theorem harmless_say (s : String) : (say s).Harmless :=
  (harmless_shown s).bind fun _ => harmless_message _

theorem harmless_sayUnfinished (style s : String) : (sayUnfinished style s).Harmless :=
  (harmless_shown _).bind fun _ => harmless_message _

theorem harmless_log (entries : List LogEntry) : (log entries).Harmless := by
  intro p
  rw [outcome_log]
  exact ⟨rfl, rfl, List.prefix_append _ _, nofun⟩

theorem harmless_foldlM {σ : Type} {f : σ → α → Session σ} (h : ∀ s a, (f s a).Harmless)
    (as : List α) (s : σ) : (as.foldlM f s).Harmless := by
  induction as generalizing s with
  | nil => exact harmless_pure s
  | cons a rest ih =>
    rw [List.foldlM_cons]
    exact (h s a).bind fun s => ih s

end Session

theorem harmless_tellRefused (e : LoadError) : (tellRefused e).Harmless := by
  cases e with
  | notFound | notMapping => exact harmless_say _
  | unreadable | malformed | invalid => exact harmless_sayUnfinished _ _

theorem harmless_configured {α : Type} (load : String → FileContent → Nat → Loaded α) (default : α)
    (file : Option String) : (configured load default file).Harmless := by
  cases file with
  | none => exact harmless_pure _
  | some text =>
    refine harmless_get_bind fun p => (harmless_ofExcept _ _).bind fun content => ?_
    refine (harmless_log _).bind fun _ => ?_
    split
    · exact harmless_pure _
    · exact harmless_crash _
    · exact harmless_crash _
    · exact (harmless_tellRefused _).bind fun _ => harmless_exit (by decide)

theorem harmless_perform (s : Store) (op : Operation) : (perform s op).Harmless := by
  refine (harmless_log _).bind fun _ => ?_
  split
  · exact harmless_pure _
  · exact harmless_crash _

theorem harmless_performChanges (s : Store) (op : Entries → Operation) (changes : Entries) :
    (performChanges s op changes).Harmless := by
  rw [performChanges]
  split
  · exact harmless_pure s
  · exact harmless_perform s _

theorem harmless_ask (s : Store) (replies : Replies) : (ask s replies).Harmless := by
  rw [ask]
  have noted : (modify fun p : Progress => { p with dialog := some (s.prompt replies) } :
      Session Unit).Harmless :=
    harmless_modify (fun _ => rfl) (fun _ => rfl) fun _ => List.prefix_rfl
  refine noted.bind fun _ => (harmless_log _).bind fun _ => ?_
  split
  · exact harmless_pure _
  · exact harmless_crash _

theorem harmless_warnShadowed (c : Container) : (warnShadowed c).Harmless := by
  rw [warnShadowed]
  split
  · exact harmless_pure ()
  · exact harmless_say _

theorem harmless_endFailed {α : Type} (e : Generation.Fault) :
    (endFailed e : Session α).Harmless := by
  have failed : (exit 1 : Session α).Harmless := harmless_exit (by decide)
  cases e with
  | noKey | busy | failed => exact (harmless_say _).bind fun _ => failed
  | _ => exact (harmless_crash _).bind fun _ => failed

theorem harmless_asked (w : World) (a : Arguments) (s : Store) : (asked w a s).Harmless := by
  rw [asked]
  split
  · split
    · exact harmless_ask _ _
    · exact (harmless_say _).bind fun _ => harmless_pure s
  · exact harmless_pure s

theorem harmless_drafted (answer : Except Generation.Fault String) :
    (drafted answer).Harmless := by
  cases answer with
  | ok content =>
    cases empty : content.isEmpty with
    | true =>
      simp only [drafted, empty, if_true]
      exact (harmless_say _).bind fun _ => harmless_pure _
    | false =>
      simp only [drafted, empty, Bool.false_eq_true, if_false]
      exact harmless_pure _
  | error e => exact harmless_endFailed e

section Documents
variable [Half]

theorem harmless_buildDocument (w : World) (a : Arguments) : (buildDocument w a).Harmless := by
  refine (harmless_configured _ _ _).bind fun ⟨config, drawn⟩ => ?_
  refine (harmless_performChanges _ _ _).bind fun s => ?_
  refine (harmless_foldlM (fun s _ => harmless_perform s _) _ s).bind fun s => ?_
  refine (harmless_foldlM (fun s _ => harmless_perform s _) _ s).bind fun s => ?_
  refine (harmless_asked w a s).bind fun s => ?_
  exact (harmless_warnShadowed _).bind fun _ => harmless_pure _

theorem harmless_pagesDocument (a : Arguments) : (pagesDocument a).Harmless := by
  refine (harmless_configured _ _ _).bind fun ⟨config, drawn⟩ => ?_
  exact (harmless_performChanges _ _ _).bind fun s => harmless_pure _

theorem harmless_requestDraft (w : World) (a : Arguments) (description : String) :
    (requestDraft w a description).Harmless := by
  refine Harmless.bind ?_ fun _ => (harmless_log _).bind fun _ => harmless_drafted _
  exact harmless_modify (fun _ => rfl) (fun _ => rfl) fun _ => List.prefix_rfl

theorem harmless_draftDocument (w : World) (a : Arguments) : (draftDocument w a).Harmless := by
  rw [draftDocument]
  split
  · exact (harmless_say _).bind fun _ => harmless_exit (by decide)
  · exact (harmless_say _).bind fun _ => harmless_requestDraft w a _

section
variable {w : World} {a : Arguments}

theorem outcome_draftDocument (p : Progress)
    (described : Text.trim (" ".intercalate a.others).toList ≠ []) :
    ∃ description, (draftDocument w a).outcome p =
      (say (tagged "cyan" (drafting w a)) >>= fun _ => requestDraft w a description).outcome p := by
  have some : (String.ofList (Text.trim (" ".intercalate a.others).toList)).isEmpty = false := by
    simpa using described
  refine ⟨String.ofList (Text.trim (" ".intercalate a.others).toList), ?_⟩
  rw [draftDocument]
  simp only [some, Bool.false_eq_true, if_false]

/-- With a fault in the message before it, a draft is not even asked for. -/
theorem outcome_draftDocument_of_fault {f : Text.Markup.Fault} (p : Progress)
    (described : Text.trim (" ".intercalate a.others).toList ≠ [])
    (told : Text.Markup.shown (tagged "cyan" (drafting w a)).toList = .error f) :
    (draftDocument w a).outcome p = (.error (.crash (.markup f)), p) := by
  obtain ⟨description, ends⟩ := outcome_draftDocument (w := w) p described
  rw [ends, outcome_bind_error (outcome_say_error told p)]

theorem prefix_draftDocument {cs : List Char} (p : Progress)
    (described : Text.trim (" ".intercalate a.others).toList ≠ [])
    (told : Text.Markup.shown (tagged "cyan" (drafting w a)).toList = .ok cs) :
    p.messages ++ [line p.columns cs] <+: ((draftDocument w a).outcome p).2.messages := by
  obtain ⟨description, ends⟩ := outcome_draftDocument (w := w) p described
  rw [ends, outcome_bind (outcome_say_ok told p)]
  exact (harmless_requestDraft w a description { p with messages := _ }).2.2.1

end

end Documents

theorem prefix_documentOf_draft {w : World} {a : Arguments} {cs : List Char} (p : Progress)
    (described : Text.trim (" ".intercalate a.others).toList ≠ [])
    (told : Text.Markup.shown (tagged "cyan" (drafting w a)).toList = .ok cs) :
    p.messages ++ [line p.columns cs] <+:
      ((documentOf fun _ : Half => draftDocument w a).outcome p).2.messages := by
  rw [progress_documentOf]
  exact prefix_draftDocument p described told

def document? (w : World) (a : Arguments) : Task → Option (Half → Session String)
  | .docker => some fun _ : Half => buildDocument w a
  | .pages => some fun _ : Half => pagesDocument a
  | .draft => some fun _ : Half => draftDocument w a
  | .defaults | .summary => none

section
variable {w : World} {a : Arguments} {t : Task} {make : Half → Session String}

theorem work_eq (h : document? w a t = some make) : work w a t = handOut a make := by
  cases t with
  | docker | pages | draft => exact congrArg (handOut a) (Option.some.inj h)
  | defaults | summary => cases h

theorem harmless_document (h : document? w a t = some make) : (documentOf make).Harmless := by
  refine harmless_get_bind fun p => Harmless.bind ?_ fun text => harmless_pure _
  cases t with
  | docker => exact Option.some.inj h ▸ harmless_buildDocument w a
  | pages => exact Option.some.inj h ▸ harmless_pagesDocument a
  | draft => exact Option.some.inj h ▸ harmless_draftDocument w a
  | defaults | summary => cases h

end

end CiWorkflow.Cli
