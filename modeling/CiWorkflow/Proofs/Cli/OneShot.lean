import CiWorkflow.Proofs.Cli.Configured
import CiWorkflow.Proofs.Store.Batch
import CiWorkflow.Proofs.Store.BuildArguments
import CiWorkflow.Proofs.Workflow.Faithful

/-! The options of the build command as one configuration: the base with the fields replaced whose
option was given, and with the arguments of the build added. A run comes to the workflow of it. -/

set_option autoImplicit false

namespace CiWorkflow

namespace Output

/-- The output that a name stands for, whatever the case of its letters. -/
def ofName? (name : String) : Option Output :=
  all.find? fun o => (o.text.map Char.toLower).toList == Text.fold name.toList

end Output

def BuildArg.bare (a : BuildArg) : BuildArg := { a with id := "" }

namespace Container

def addArgs (c : Container) (args : List BuildArg) : Container :=
  { c with buildArgs := c.buildArgs ++ args }

theorem addArgs_addArgs (c : Container) (args more : List BuildArg) :
    (c.addArgs args).addArgs more = c.addArgs (args ++ more) := by
  simp only [addArgs, List.append_assoc]

/-- Added arguments that differ in nothing but their ids make no difference to the workflow. -/
theorem workflow_addArgs_congr (c : Container) {args args' : List BuildArg}
    (same : args.map BuildArg.bare = args'.map BuildArg.bare) :
    (c.addArgs args).workflow = (c.addArgs args').workflow := by
  have bare : (c.addArgs args).withIds (fun _ => "") = (c.addArgs args').withIds fun _ => "" := by
    have added : (args.map fun a : BuildArg => { a with id := "" }) =
        args'.map fun a => { a with id := "" } := same
    simp only [withIds, addArgs, List.map_append, added]
  rw [← (agree_withIds (c.addArgs args) fun _ => "").workflow_eq, bare]
  exact (agree_withIds (c.addArgs args') fun _ => "").workflow_eq

end Container

namespace Cli

def Progress.tell (p : Progress) (told : List Message) : Progress :=
  { p with messages := p.messages ++ told }

theorem Progress.tell_tell (p : Progress) (told more : List Message) :
    (p.tell told).tell more = p.tell (told ++ more) := by
  simp only [tell, List.append_assoc]

namespace Session
variable {α β : Type} {x : Session α} {k : α → Session β} {p : Progress} {a : α} {b : β}

/-- A session gives a result, and does nothing but tell of what it does. -/
def Gives (x : Session α) (p : Progress) (a : α) : Prop :=
  ∃ told, x.outcome p = (.ok a, p.tell told)

theorem gives_pure (p : Progress) (a : α) : (pure a : Session α).Gives p a :=
  ⟨[], by simp only [Progress.tell, List.append_nil]; rfl⟩

theorem Gives.bind (h : x.Gives p a) (h' : ∀ told, (k a).Gives (p.tell told) b) :
    (x >>= k).Gives p b := by
  obtain ⟨told, first⟩ := h
  obtain ⟨more, second⟩ := h' told
  exact ⟨told ++ more, by rw [outcome_bind first, second, Progress.tell_tell]⟩

theorem gives_log (entries : List LogEntry) (p : Progress) : (log entries).Gives p () :=
  ⟨_, outcome_log entries p⟩

end Session

open Session

section Store
variable {s s' : Store} {p : Progress}

theorem gives_perform {op : Operation} {answer : Answer} (unheard : s'.listeners = [])
    (h : (s.attempt op).ending = .changed answer s') : (perform s op).Gives p s' := by
  have told : s'.told = ⟨[], [], none⟩ := by rw [Store.told, unheard, tell]
  have answered : (s.step op).answer = .ok answer := by simp only [Store.step, h, told]
  have left : (s.step op).store = s' := by simp only [Store.step, h, told, ← unheard]
  rw [perform]
  refine (gives_log _ p).bind fun told => ?_
  simp only [answered, left]
  exact gives_pure _ s'

theorem gives_performChanges (unheard : s.listeners = []) (distinct : s.container.platforms.Nodup)
    (o : Container.Overrides) :
    (performChanges s .updateContainer (Field.entriesOf .name o.given)).Gives p
      { s with container := s.container.overridden o } := by
  rw [performChanges]
  split
  · rename_i empty
    -- Nothing is performed, and nothing would have changed.
    have updated := Container.update_given distinct o
    have none := Container.update_nil (Container.valid_iff_nodup.2 distinct) s.drawn
    rw [List.isEmpty_iff.1 empty] at updated
    rw [updated] at none
    have same : s.container.overridden o = s.container := by
      simpa [Check.ok] using none
    rw [same]
    exact gives_pure p s
  · exact gives_perform unheard (Store.ending_updateContainer distinct o)

def freshArg (isDynamic : Bool) (pair : String × String) (drawn : Nat) : BuildArg :=
  ⟨String.ofList (Text.hex 8 (drawn + 1)), pair.1, pair.2, isDynamic⟩

theorem gives_addPair (unheard : s.listeners = []) (distinct : s.container.platforms.Nodup)
    (isDynamic : Bool) (pair : String × String) :
    (addPair isDynamic s pair).Gives p { s with
      container := s.container.addArgs [freshArg isDynamic pair s.drawn]
      drawn := s.drawn + 1 } := by
  have made := Store.newArg_texts s (some pair.1) (some pair.2) isDynamic
  have result : (s.newArg (.text pair.1) (.text pair.2) (.bool isDynamic)).result =
      .ok (freshArg isDynamic pair s.drawn) := congrArg Checked.result made
  have drawn : (s.newArg (.text pair.1) (.text pair.2) (.bool isDynamic)).drawn = s.drawn + 1 :=
    congrArg Checked.drawn made
  have ending := Store.ending_addArg distinct result
  rw [drawn] at ending
  exact gives_perform unheard ending

def freshArgs (isDynamic : Bool) (pairs : List (String × String)) (drawn : Nat) : List BuildArg :=
  (pairs.zipIdx drawn).map fun q => freshArg isDynamic q.1 q.2

theorem gives_addPairs (unheard : s.listeners = []) (distinct : s.container.platforms.Nodup)
    (isDynamic : Bool) (pairs : List (String × String)) :
    (pairs.foldlM (addPair isDynamic) s).Gives p { s with
      container := s.container.addArgs (freshArgs isDynamic pairs s.drawn)
      drawn := s.drawn + pairs.length } := by
  induction pairs generalizing s p with
  | nil =>
    have none : s.container.addArgs [] = s.container := by
      simp only [Container.addArgs, List.append_nil]
    rw [freshArgs, List.zipIdx_nil, List.map_nil, none]
    exact gives_pure p s
  | cons pair rest ih =>
    rw [List.foldlM_cons]
    refine (gives_addPair unheard distinct isDynamic pair).bind fun told => ?_
    have more := ih (s := { s with
      container := s.container.addArgs [freshArg isDynamic pair s.drawn]
      drawn := s.drawn + 1 }) (p := p.tell told) unheard distinct
    rw [Container.addArgs_addArgs, Nat.add_right_comm] at more
    exact more

/-- The text of the note holds no tags, so it is shown as it is. -/
theorem gives_warnShadowed (c : Container) (p : Progress) : (warnShadowed c).Gives p () := by
  rw [warnShadowed]
  cases h : c.shadowNote? with
  | none => exact gives_pure p ()
  | some note =>
    have fixed : note = "Warning: timestamp rewriting overrides build argument(s): " ++
        Container.epochKey := by
      rw [Container.shadowNote?] at h
      split at h
      · cases h
      · rename_i a rest shadowed
        have among : a ∈ c.shadowedArgs := by rw [shadowed]; exact List.mem_cons_self
        have key : a.key = Container.epochKey := by
          rw [Container.shadowedArgs] at among
          split at among
          · exact by simpa using (List.mem_filter.1 among).2
          · cases among
        exact key ▸ (Option.some.inj h).symm
    have plain : Text.Markup.escape note.toList = note.toList := by
      rw [fixed]
      decide +kernel
    have yellow := Text.Markup.isPlainStyle_of_mem "yellow" (by decide)
    obtain ⟨cs, read⟩ := exists_shown_tagged yellow plain
    exact ⟨_, outcome_say_ok read p⟩

end Store

theorem gives_configured {α : Type} (load : String → FileContent → Nat → Loaded α) (default : α)
    {text : String} {content : FileContent} {config : α} {p : Progress}
    (found : p.files.find (Path.ofText text) = .ok content)
    (read : (load (Path.ofText text).text content 0).result = .ok config) :
    (configured load default (some text)).Gives p
      (config, (load (Path.ofText text).text content 0).drawn) := by
  have opened : (ofExcept Crash.file (p.files.find (Path.ofText text))).outcome p =
      (.ok content, p) := by
    rw [found]
    rfl
  have started : (get : Session Progress).outcome p = (.ok p, p) := rfl
  obtain ⟨told, logged⟩ := gives_log (load (Path.ofText text).text content 0).log p
  refine ⟨told, ?_⟩
  rw [configured]
  dsimp only
  rw [outcome_bind started, outcome_bind opened, outcome_bind logged, read]
  rfl

/-- The configuration in a file, or the default one if no file is named. -/
inductive Configures [Half] (files : Files) : Option String → Container → Prop where
  | sample : Configures files none .sample
  | loaded {text : String} {content : FileContent} {c : Container}
    (found : files.find (Path.ofText text) = .ok content)
    (read : (Container.load (Path.ofText text).text content 0).result = .ok c) :
    Configures files (some text) c

theorem Configures.gives [Half] {file : Option String} {c : Container} {p : Progress}
    (h : Configures p.files file c) :
    ∃ drawn, (configured Container.load Container.sample file).Gives p (c, drawn) := by
  cases h with
  | sample => exact ⟨0, gives_pure p _⟩
  | loaded found read => exact ⟨_, gives_configured _ _ found read⟩

def bareArgs (isDynamic : Bool) (pairs : List (String × String)) : List BuildArg :=
  pairs.map fun pair => ⟨"", pair.1, pair.2, isDynamic⟩

theorem bare_freshArgs (isDynamic : Bool) (pairs : List (String × String)) (drawn : Nat) :
    (freshArgs isDynamic pairs drawn).map BuildArg.bare = bareArgs isDynamic pairs := by
  induction pairs generalizing drawn with
  | nil => rfl
  | cons pair rest ih => exact congrArg (BuildArg.mk "" pair.1 pair.2 isDynamic :: ·) (ih _)

theorem bare_bareArgs (isDynamic : Bool) (pairs : List (String × String)) :
    (bareArgs isDynamic pairs).map BuildArg.bare = bareArgs isDynamic pairs := by
  rw [bareArgs, List.map_map]
  rfl

namespace Docker

def overrides (a : Arguments) : Container.Overrides where
  imageName := a.value? imageName
  registry := a.value? registry
  tags := a.value? tags
  dockerfilePath := a.value? dockerfile
  platforms := if (a.values platform).isEmpty then none else some (a.values platform)
  output := (a.value? outputType).bind Output.ofName?
  provenance := a.switch? provenance
  rewriteTimestamp := a.switch? rewriteTimestamp
  buildArgs := if a.has clearBuildArgs then some [] else none

theorem chosen?_outputNames (v : String) :
    (chosen? outputNames v).map (fun name => name.map Char.toUpper) =
      (Output.ofName? v).map Output.text := by
  have upper (o : Output) : (o.text.map Char.toLower).map Char.toUpper = o.text := by
    cases o <;> decide +kernel
  simp only [chosen?, outputNames, List.find?_map, Option.map_map, Output.ofName?,
    Function.comp_def, upper]

theorem entriesOf_present (offers : List (Field × Option Value)) :
    Field.entriesOf .name (Field.present offers) = offers.flatMap fun p => entry? p.1 p.2 := by
  induction offers with
  | nil => rfl
  | cons p rest ih =>
    obtain ⟨f, v⟩ := p
    cases v with
    | none => exact ih
    | some v => exact congrArg (f.entry .name v :: ·) ih

theorem changes_eq (a : Arguments) : changes a = Field.entriesOf .name (overrides a).given := by
  have platforms : (overrides a).platforms.map (fun ps => Value.list (ps.map .text)) =
      if (a.values platform).isEmpty then none
      else some (.list ((a.values platform).map .text)) := by
    cases h : a.values platform <;> simp [overrides, h]
  have output : (overrides a).output.map (fun out => Value.text out.text) =
      ((a.value? outputType).bind (chosen? outputNames)).map fun name =>
        .text (name.map Char.toUpper) := by
    cases h : a.value? outputType with
    | none => simp [overrides, h]
    | some v =>
      have same := congrArg (Option.map Value.text) (chosen?_outputNames v)
      simpa [overrides, h, Function.comp_def] using same.symm
  have args : (overrides a).buildArgs.map (fun args : List BuildArg =>
        Value.list (args.map fun arg => .map (arg.entries .name))) =
      if a.has clearBuildArgs then some (.list []) else none := by
    cases h : a.has clearBuildArgs <;> simp [overrides, h]
  rw [Container.Overrides.given, entriesOf_present, Container.Overrides.offers, platforms, output,
    args]
  simp only [List.flatMap_cons, List.flatMap_nil, List.append_nil, changes, List.append_assoc]
  rfl

section
variable {a : Arguments} {base : Container} {p : Progress}

/-- The configuration that options stand for: a field whose option was given has the value given
last, and the arguments of the build are followed by those that were given. -/
def oneShot (a : Arguments) (base : Container) : Container :=
  (base.overridden (overrides a)).addArgs
    (bareArgs false (pairs a buildArg) ++ bareArgs true (pairs a dynamicArg))

def storeOf (c : Container) (drawn : Nat) : Store := .start .docker c Pages.initial drawn

theorem gives_changes (distinct : base.platforms.Nodup) (a : Arguments) (drawn : Nat) :
    (performChanges (storeOf base drawn) .updateContainer (changes a)).Gives p
      (storeOf (base.overridden (overrides a)) drawn) := by
  rw [changes_eq]
  exact gives_performChanges rfl distinct (overrides a)

theorem exists_gives_pairs {c : Container} (distinct : c.platforms.Nodup) (isDynamic : Bool)
    (pairs : List (String × String)) (drawn : Nat) :
    ∃ args drawn', args.map BuildArg.bare = bareArgs isDynamic pairs ∧
      (pairs.foldlM (addPair isDynamic) (storeOf c drawn)).Gives p
        (storeOf (c.addArgs args) drawn') :=
  ⟨_, _, bare_freshArgs isDynamic pairs drawn, gives_addPairs rfl distinct isDynamic pairs⟩

variable [Half]

theorem valid_of_load {path : String} {content : FileContent} {drawn : Nat} {c : Container}
    (h : (Container.load path content drawn).result = .ok c) : c.Valid := by
  rw [Container.load, loadWith] at h
  split at h
  · cases h
  · rename_i entries read
    rcases checked : (Container.ofEntries entries drawn).result with (found | _) | c'
    · simp only [checked] at h
      cases h
    · simp only [checked] at h
      cases h
    · simp only [checked] at h
      exact ⟨entries, drawn, Except.ok.inj h ▸ checked⟩

theorem nodup_of_configures {files : Files} {file : Option String}
    (h : Configures files file base) : base.platforms.Nodup := by
  cases h with
  | sample => decide
  | loaded _ read => exact Container.valid_iff_nodup.1 (valid_of_load read)

theorem gives_buildDocument (w : World) (h : Configures p.files (a.value? config) base)
    (quiet : a.has interactive = false) :
    (buildDocument w a).Gives p (oneShot a base).workflow := by
  have nodup := nodup_of_configures h
  have distinct := Container.nodup_overridden nodup (overrides a)
  obtain ⟨drawn, told₁, configured⟩ := h.gives
  obtain ⟨told₂, changed⟩ := gives_changes (p := p.tell told₁) nodup a drawn
  obtain ⟨fixed, drawn₁, bare₁, told₃, added⟩ := exists_gives_pairs
    (p := (p.tell told₁).tell told₂) distinct false (pairs a buildArg) drawn
  obtain ⟨dynamic, drawn₂, bare₂, told₄, more⟩ := exists_gives_pairs
    (p := ((p.tell told₁).tell told₂).tell told₃)
    (c := (base.overridden (overrides a)).addArgs fixed) distinct true (pairs a dynamicArg) drawn₁
  rw [Container.addArgs_addArgs] at more
  obtain ⟨told₅, warned⟩ := gives_warnShadowed
    (storeOf ((base.overridden (overrides a)).addArgs (fixed ++ dynamic)) drawn₂).container
    ((((p.tell told₁).tell told₂).tell told₃).tell told₄)
  -- The ids of the arguments depend on what was drawn before, but the document does not show them.
  have document : ((base.overridden (overrides a)).addArgs (fixed ++ dynamic)).workflow =
      (oneShot a base).workflow := by
    refine Container.workflow_addArgs_congr _ ?_
    rw [List.map_append, List.map_append, bare₁, bare₂, bare_bareArgs, bare_bareArgs]
  refine ⟨told₁ ++ told₂ ++ told₃ ++ told₄ ++ told₅, ?_⟩
  rw [buildDocument, outcome_bind configured]
  dsimp only
  rw [← storeOf, outcome_bind changed, outcome_bind added, outcome_bind more, asked, quiet]
  simp only [Bool.false_eq_true, if_false]
  rw [pure_bind, outcome_bind warned, ← document]
  simp only [Progress.tell_tell]
  rfl

end

end Docker

end Cli

end CiWorkflow
