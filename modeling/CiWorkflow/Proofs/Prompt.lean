import CiWorkflow.Prompt
import CiWorkflow.Proofs.Store.Toggles
import CiWorkflow.Proofs.Workflow.Faithful
import Mathlib.Data.List.Perm.Subperm

/-! What comes of the two questions about platforms and output. Each selected platform is offered
once, and the replies change the platforms and the output alone. Whoever accepts what is selected at
first keeps the output and gets the same platforms, but in the order in which they are offered, so
that nothing changes just if they stood in that order before. -/

set_option autoImplicit false

namespace CiWorkflow

def inOffer (platforms : List String) : List String :=
  knownPlatforms.filter (platforms.contains ·)
    ++ platforms.filter fun p => !knownPlatforms.contains p

/-- The known platforms stand first, in the order of the offer. -/
def KnownFirst (platforms : List String) : Prop :=
  ∃ known others, platforms = known ++ others ∧ known.Sublist knownPlatforms ∧
    ∀ p ∈ others, p ∉ knownPlatforms

theorem nodup_knownPlatforms : knownPlatforms.Nodup := by decide

theorem checked_platformChoices (current : List String) :
    ((platformChoices current).filter (·.checked)).map (·.platform) = inOffer current := by
  simp [platformChoices, inOffer, List.filter_map, Function.comp_def]

theorem platforms_platformChoices (current : List String) :
    (platformChoices current).map (·.platform) =
      knownPlatforms ++ current.filter fun p => !knownPlatforms.contains p := by
  simp [platformChoices, Function.comp_def]

theorem nodup_offered {current : List String} (distinct : current.Nodup) :
    ((platformChoices current).map (·.platform)).Nodup := by
  rw [platforms_platformChoices]
  refine List.Nodup.append nodup_knownPlatforms (distinct.filter _) fun p known other => ?_
  have foreign := (List.mem_filter.1 other).2
  simp [known] at foreign

theorem mem_offered {current : List String} {p : String} (h : p ∈ current) :
    p ∈ (platformChoices current).map (·.platform) := by
  rw [platforms_platformChoices]
  by_cases known : p ∈ knownPlatforms
  · exact List.mem_append_left _ known
  · exact List.mem_append_right _ (List.mem_filter.2 ⟨h, by simpa using known⟩)

theorem checked_iff_of_mem_platformChoices {current : List String} {c : Choice}
    (h : c ∈ platformChoices current) : c.checked = true ↔ c.platform ∈ current := by
  rcases List.mem_append.1 h with known | foreign
  · obtain ⟨p, -, rfl⟩ := List.mem_map.1 known
    exact List.contains_iff_mem
  · obtain ⟨p, other, rfl⟩ := List.mem_map.1 foreign
    exact iff_of_true rfl (List.mem_filter.1 other).1

section
variable {platforms : List String}

theorem mem_inOffer {p : String} : p ∈ inOffer platforms ↔ p ∈ platforms := by
  by_cases known : p ∈ knownPlatforms <;> simp [inOffer, known]

theorem nodup_inOffer (distinct : platforms.Nodup) : (inOffer platforms).Nodup := by
  refine List.Nodup.append (nodup_knownPlatforms.filter _) (distinct.filter _) ?_
  intro p known other
  simp only [List.mem_filter, Bool.not_eq_true', List.contains_eq_mem, decide_eq_false_iff_not]
    at known other
  exact other.2 known.1

/-- A part of a list without repetitions is what is left of the list when all else is dropped. -/
theorem filter_contains_of_sublist {part whole : List String} (distinct : whole.Nodup)
    (h : part.Sublist whole) : whole.filter (part.contains ·) = part := by
  have kept : part.filter (part.contains ·) = part :=
    List.filter_eq_self.2 fun p hp => by simpa using hp
  have below : part.Sublist (whole.filter (part.contains ·)) := by
    have filtered := h.filter (part.contains ·)
    rwa [kept] at filtered
  refine (below.eq_of_length_le ?_).symm
  refine (List.subperm_of_subset (distinct.filter _) fun p hp => ?_).length_le
  simpa using (List.mem_filter.1 hp).2

theorem perm_inOffer (distinct : platforms.Nodup) : (inOffer platforms).Perm platforms :=
  (List.perm_ext_iff_of_nodup (nodup_inOffer distinct) distinct).2 fun _ => mem_inOffer

theorem inOffer_eq_iff : inOffer platforms = platforms ↔ KnownFirst platforms := by
  constructor
  · intro same
    refine ⟨_, _, same.symm, List.filter_sublist, fun p hp => ?_⟩
    simpa using (List.mem_filter.1 hp).2
  · rintro ⟨known, others, rfl, part, foreign⟩
    have first : knownPlatforms.filter ((known ++ others).contains ·) = known := by
      refine Eq.trans ?_ (filter_contains_of_sublist nodup_knownPlatforms part)
      refine List.filter_congr fun p hp => ?_
      have absent : p ∉ others := fun among => foreign p among hp
      simp [absent]
    have last : (known ++ others).filter (fun p => !knownPlatforms.contains p) = others := by
      have none : known.filter (fun p => !knownPlatforms.contains p) = [] :=
        List.filter_eq_nil_iff.2 fun p hp => by simpa using part.subset hp
      have all : others.filter (fun p => !knownPlatforms.contains p) = others :=
        List.filter_eq_self.2 fun p hp => by simpa using foreign p hp
      rw [List.filter_append, none, all, List.nil_append]
    rw [inOffer, first, last]

/-- Texts without commas can be read off a line that lists them. -/
theorem splitOn_comma {texts : List String} (plain : ∀ t ∈ texts, ',' ∉ t.toList)
    (some : texts ≠ []) :
    (",".intercalate texts).toList.splitOn ',' = texts.map String.toList := by
  rw [String.toList_intercalate]
  exact List.splitOn_intercalate ',' (by simpa using plain) (by simpa using some)

theorem joined_inOffer_eq_iff (distinct : platforms.Nodup)
    (plain : ∀ p ∈ platforms, ',' ∉ p.toList) :
    ",".intercalate (inOffer platforms) = ",".intercalate platforms ↔ KnownFirst platforms := by
  rw [← inOffer_eq_iff]
  refine ⟨fun joined => ?_, fun same => by rw [same]⟩
  have perm := perm_inOffer distinct
  by_cases none : platforms = []
  · rw [none] at perm ⊢
    exact perm.eq_nil
  · have some : inOffer platforms ≠ [] := fun empty => none (List.nil_perm.1 (empty ▸ perm))
    have offered := splitOn_comma (fun p hp => plain p (perm.subset hp)) some
    rw [joined, splitOn_comma plain none] at offered
    exact (List.map_injective_iff.2 (fun _ _ => String.toList_inj.1) offered).symm

end

/-- Replies of the right types; none stands for a question that was cancelled. -/
def Replies.of (platforms : Option (List String)) (output : Option Output) : Replies where
  platforms := (platforms.map fun ps => .list (ps.map .text)).getD .null
  output := (output.map fun o => .text o.text).getD .null

namespace Store

/-- The build has these new values, and nothing else is different but the registrations that were
ended by those who were told. -/
def Gives (s s' : Store) (o : Container.Overrides) : Prop :=
  ({ s with container := s.container.overridden o } : Store).AfterTelling s'

end Store

namespace Dialog

def Failed (s : Store) (d : Dialog) : Prop :=
  ∃ l ∈ s.listeners, l.raises = true ∧ d.failure = some (.listener l.name)

variable {s : Store} {d : Dialog}

theorem change_given (distinct : d.store.container.platforms.Nodup) (o : Container.Overrides) :
    let d' := d.change (Field.entriesOf .name o.given)
    d.store.Gives d'.store o ∧ (d'.failure = none ∨ d'.Failed d.store) := by
  have ending := Store.ending_updateContainer distinct o
  refine ⟨Store.afterTelling_step ending, ?_⟩
  simp only [change]
  rcases Store.answered_of_changed ending rfl with answer | ⟨l, among, raises, answer⟩
  · exact .inl (by rw [answer])
  · exact .inr ⟨l, among, raises, by rw [answer]⟩

theorem askPlatforms_of (distinct : s.container.platforms.Nodup) (platforms : Option (List String))
    (output : Option Output) :
    let d := (start s).askPlatforms (Replies.of platforms output).platforms
    s.Gives d.store { platforms := platforms } ∧ (d.failure = none ∨ d.Failed s) ∧
      d.output = none := by
  cases platforms with
  | none => exact ⟨Store.AfterTelling.refl s, .inl rfl, rfl⟩
  | some ps =>
    obtain ⟨gives, ended⟩ := change_given (d := start s) distinct { platforms := some ps }
    exact ⟨gives, ended, rfl⟩

theorem askOutput_of (distinct : d.store.container.platforms.Nodup) (fine : d.failure = none)
    (current : Output) (platforms : Option (List String)) (output : Option Output) :
    let d' := d.askOutput current (Replies.of platforms output).output
    d.store.Gives d'.store { output := output } ∧ (d'.failure = none ∨ d'.Failed d.store) ∧
      d'.output = some current := by
  cases output with
  | none => exact ⟨Store.AfterTelling.refl d.store, .inl fine, rfl⟩
  | some o =>
    have asked : d.askOutput current (Replies.of platforms (some o)).output =
        change { d with output := some current }
          (Field.entriesOf .name (Container.Overrides.given { output := some o })) := by
      have read : Output.ofValue? (.text o.text) = some o := Output.ofText?_text o
      simp only [askOutput, Replies.of, Option.map_some, Option.getD_some, read]
      rfl
    obtain ⟨gives, ended⟩ :=
      change_given (d := { d with output := some current }) distinct { output := some o }
    rw [asked]
    exact ⟨gives, ended, rfl⟩

theorem platforms_askPlatforms (d : Dialog) (reply : Value) :
    (d.askPlatforms reply).platforms = d.platforms := by
  rw [askPlatforms.eq_def]
  split <;> rfl

theorem platforms_askOutput (d : Dialog) (current : Output) (reply : Value) :
    (d.askOutput current reply).platforms = d.platforms := by
  simp only [askOutput]
  split
  · rfl
  · split <;> rfl

end Dialog

namespace Store

variable {s : Store} {d : Dialog} {platforms : Option (List String)} {output : Option Output}

/-- How a dialog about a store ends, if these are the replies. The second question is not asked if
someone who is told of the first reply fails. -/
inductive Prompted (s : Store) (platforms : Option (List String)) (output : Option Output)
    (d : Dialog) : Prop where
  | stopped (gives : s.Gives d.store { platforms := platforms }) (asked : d.output = none)
    (failed : d.Failed s)
  | asked (gives : s.Gives d.store { platforms := platforms, output := output })
    (asked : d.output = some s.container.output) (ended : d.failure = none ∨ d.Failed s)

theorem prompted (distinct : s.container.platforms.Nodup) (platforms : Option (List String))
    (output : Option Output) : s.Prompted platforms output (s.prompt (.of platforms output)) := by
  obtain ⟨first, ended, unasked⟩ := Dialog.askPlatforms_of distinct platforms output
  rw [prompt]
  generalize (Dialog.start s).askPlatforms (Replies.of platforms output).platforms = d at *
  cases failure : d.failure with
  | some error => exact .stopped first unasked (ended.resolve_left (by simp [failure]))
  | none =>
    have distinct' : d.store.container.platforms.Nodup := by
      rw [first.store]
      exact Container.nodup_overridden distinct _
    obtain ⟨second, ended', asked⟩ :=
      Dialog.askOutput_of distinct' failure s.container.output platforms output
    refine .asked ⟨?_, second.listeners.trans first.listeners,
      second.lasting.trans first.lasting⟩ asked (ended'.imp_right ?_)
    · rw [second.store, first.store]
      rfl
    · rintro ⟨l, among, raises, failed⟩
      exact ⟨l, first.listeners.subset among, raises, failed⟩

theorem platforms_prompt (s : Store) (replies : Replies) :
    (s.prompt replies).platforms = platformChoices s.container.platforms := by
  rw [prompt]
  split
  · rw [Dialog.platforms_askPlatforms, Dialog.start]
  · rw [Dialog.platforms_askOutput, Dialog.platforms_askPlatforms, Dialog.start]

theorem Prompted.store (h : s.Prompted platforms output d) :
    let asked := if d.output.isSome then output else none
    s.Gives d.store { platforms := platforms, output := asked } := by
  cases h with
  | stopped gives asked => simpa [asked] using gives
  | asked gives asked => simpa [asked] using gives

theorem Prompted.asked_of_fine (h : s.Prompted platforms output d) (fine : d.failure = none) :
    d.output = some s.container.output := by
  cases h with
  | stopped _ _ failed =>
    obtain ⟨l, -, -, told⟩ := failed
    exact absurd (fine.symm.trans told) nofun
  | asked _ asked => exact asked

theorem Prompted.ended (h : s.Prompted platforms output d) : d.failure = none ∨ d.Failed s := by
  cases h with
  | stopped _ _ failed => exact .inr failed
  | asked _ _ ended => exact ended

/-- If the first question is cancelled, the second one is asked. -/
theorem asked_of_cancelled (distinct : s.container.platforms.Nodup) (output : Option Output) :
    (s.prompt (.of none output)).output = some s.container.output :=
  (Dialog.askOutput_of (d := .start s) distinct rfl s.container.output none output).2.2

/-- Whatever the replies are, the platforms that are offered are all different, each one that is
selected is among them once, and just those are checked. Then the build has the platforms of the
first reply, each where it came first, and the output of the second one. A question that was
cancelled leaves what there was, and so does the second one if it was not asked; that happens only
if someone who was told of the first reply failed. Nothing else is different but the registrations
that were ended. -/
theorem prompt_effect {start : Store} (h : start.container.Valid) (ops : List Operation)
    (platforms : Option (List String)) (output : Option Output) :
    let s := start.after ops
    let held := s.container.platforms
    let d := s.prompt (.of platforms output)
    let offered := d.platforms.map (·.platform)
    let answered := if d.output.isSome then output else none
    (offered.Nodup ∧ (∀ p ∈ held, offered.count p = 1) ∧
      ∀ c ∈ d.platforms, c.checked = true ↔ c.platform ∈ held) ∧
    d.store = { s with
      container := { s.container with
        platforms := (platforms.map List.eraseDups).getD held
        output := answered.getD s.container.output }
      listeners := d.store.listeners } ∧
    d.store.listeners.Sublist s.listeners ∧
    (platforms = none ∨ d.failure = none → d.output = some s.container.output) ∧
    (d.failure = none ∨ d.Failed s) := by
  intro s held d offered answered
  have distinct : held.Nodup := Container.valid_iff_nodup.1 (valid_after h ops)
  have choices : d.platforms = platformChoices held := platforms_prompt s _
  have nodup : offered.Nodup := by
    simp only [offered, choices]
    exact nodup_offered distinct
  have ended : s.Prompted platforms output d := prompted distinct platforms output
  refine ⟨⟨nodup, fun p selected => ?_, fun c among => ?_⟩, ended.store.store,
    ended.store.listeners, ?_, ended.ended⟩
  · refine List.count_eq_one_of_mem nodup ?_
    simp only [offered, choices]
    exact mem_offered selected
  · rw [choices] at among
    exact checked_iff_of_mem_platformChoices among
  · rintro (rfl | fine)
    · exact asked_of_cancelled distinct output
    · exact ended.asked_of_fine fine

/-- A platform that is not known can be kept, and one that is answered twice is taken once. -/
theorem prompt_effect_repeated :
    let start := Store.start .docker .initial .initial 0
    let ops : List Operation := [.togglePlatform (.text "linux/s390x")]
    let s := start.after ops
    let d := s.prompt (.of (some ["linux/s390x", "linux/amd64", "linux/s390x"]) (some .ociLocal))
    start.container.Valid ∧
      d.store.container = { s.container with
        platforms := ["linux/s390x", "linux/amd64"]
        output := .ociLocal } ∧
      d.store.pages = s.pages ∧ d.store.mode = s.mode ∧ d.failure = none := by
  intro start ops
  have valid : start.container.Valid := Container.valid_iff_nodup.2 (by decide)
  have alone : (start.after ops).listeners = [] := by decide +kernel
  have effect := prompt_effect valid ops (some ["linux/s390x", "linux/amd64", "linux/s390x"])
    (some .ociLocal)
  have once : ["linux/s390x", "linux/amd64", "linux/s390x"].eraseDups =
      ["linux/s390x", "linux/amd64"] := by decide
  generalize start.after ops = s at alone effect ⊢
  obtain ⟨-, store, -, asked, ended⟩ := effect
  have fine := ended.resolve_right (by simp [Dialog.Failed, alone])
  rw [asked (.inr fine), Option.isSome_some, if_pos rfl, Option.map_some, once] at store
  exact ⟨valid, congrArg Store.container store, by rw [store], by rw [store], fine⟩

/-- Platforms that are all different are put in place as they are, if the output stays. -/
theorem Gives.selects {s' : Store} {ps : List String} (distinct : ps.Nodup)
    (same : output.getD s.container.output = s.container.output)
    (h : s.Gives s' { platforms := some ps, output := output }) : s.Selects s' ps := by
  have container : s.container.overridden { platforms := some ps, output := output } =
      { s.container with platforms := ps } := by
    simp [Container.overridden, eraseDups_of_nodup distinct, same]
  exact .of_afterTelling (container ▸ h)

/-- If the reply to the second question is the output that there is, only the first one counts. -/
theorem Prompted.selects {ps : List String} (distinct : ps.Nodup)
    (h : s.Prompted (some ps) (some s.container.output) d) : s.Selects d.store ps := by
  cases h with
  | stopped gives => exact gives.selects distinct rfl
  | asked gives => exact gives.selects distinct rfl

/-- The replies of someone who confirms both questions as they are asked. -/
def accepting (s : Store) : Replies where
  platforms :=
    .list (((Dialog.start s).platforms.filter (·.checked)).map fun c => .text c.platform)
  output := .text s.container.output.text

theorem accepting_eq (s : Store) :
    s.accepting = .of (some (inOffer s.container.platforms)) (some s.container.output) := by
  simp [accepting, Replies.of, Dialog.start, ← checked_platformChoices]

theorem Selects.render_eq_iff {s' : Store} {ps : List String} (h : s.Selects s' ps) :
    s'.render = s.render ↔
      s.mode = .pages ∨ ",".intercalate ps = ",".intercalate s.container.platforms := by
  rw [h.store]
  cases mode : s.mode with
  | pages => simp [render, mode]
  | docker => simpa [render, mode] using s.container.workflow_platforms_eq_iff ps

/-- Whoever confirms both questions keeps the platforms but gets them in the order of the offer, and
nothing else changes. So the configuration is as before just if the platforms stood in that order,
and so is the workflow unless it is that of the pages, as long as no platform has a comma in it. -/
theorem prompt_accepting {start : Store} (h : start.container.Valid) (ops : List Operation) :
    let s := start.after ops
    let held := s.container.platforms
    let d := s.prompt s.accepting
    s.Selects d.store (inOffer held) ∧ (inOffer held).Perm held ∧
      (d.store.container = s.container ↔ KnownFirst held) ∧
      (d.store.render = s.render ↔
        s.mode = .pages ∨ ",".intercalate (inOffer held) = ",".intercalate held) ∧
      ((∀ p ∈ held, ',' ∉ p.toList) →
        (d.store.render = s.render ↔ s.mode = .pages ∨ KnownFirst held)) ∧
      ((d.output = some s.container.output ∧ d.failure = none) ∨ d.Failed s) := by
  intro s held d
  have distinct : held.Nodup := Container.valid_iff_nodup.1 (valid_after h ops)
  have ended : s.Prompted (some (inOffer held)) (some s.container.output) d := by
    simp only [d, accepting_eq]
    exact prompted distinct _ _
  have selects : s.Selects d.store (inOffer held) := ended.selects (nodup_inOffer distinct)
  have finish : (d.output = some s.container.output ∧ d.failure = none) ∨ d.Failed s := by
    cases ended with
    | stopped _ _ failed => exact .inr failed
    | asked _ asked ended => exact ended.imp_left fun fine => ⟨asked, fine⟩
  have shown := selects.render_eq_iff
  refine ⟨selects, perm_inOffer distinct, ?_, shown, fun plain => ?_, finish⟩
  · have container : d.store.container = { s.container with platforms := inOffer held } :=
      congrArg (·.container) selects.store
    rw [← inOffer_eq_iff, container]
    exact ⟨congrArg Container.platforms, fun same => by simp [held, same]⟩
  · rw [shown, joined_inOffer_eq_iff distinct plain]

/-- A platform that is not known stays where it is, behind those that are. -/
theorem prompt_accepting_foreign :
    let start := Store.start .docker .initial .initial 0
    let ops : List Operation := [.togglePlatform (.text "linux/s390x")]
    let s := start.after ops
    let held := s.container.platforms
    let d := s.prompt s.accepting
    start.container.Valid ∧ (∀ p ∈ held, ',' ∉ p.toList) ∧ KnownFirst held ∧
      d.store.container = s.container ∧ d.store.render = s.render ∧
      d.output = some s.container.output ∧ d.failure = none := by
  intro start ops
  have valid : start.container.Valid := Container.valid_iff_nodup.2 (by decide)
  have platforms : (start.after ops).container.platforms =
      ["linux/amd64", "linux/arm64"] ++ ["linux/s390x"] := by decide +kernel
  have plain : ∀ p ∈ (start.after ops).container.platforms, ',' ∉ p.toList := by
    rw [platforms]
    decide
  have knownFirst : KnownFirst (start.after ops).container.platforms :=
    ⟨_, _, platforms, by decide, by decide⟩
  have alone : (start.after ops).listeners = [] := by decide +kernel
  obtain ⟨-, -, container, -, document, ended⟩ := prompt_accepting valid ops
  refine ⟨valid, plain, knownFirst, container.2 knownFirst,
    (document plain).2 (.inr knownFirst), ended.resolve_right ?_⟩
  rintro ⟨l, among, -⟩
  rw [alone] at among
  exact absurd among List.not_mem_nil

/-- Known platforms are exchanged, and so is the workflow. -/
theorem not_kept_against_offer :
    let s := Store.start .docker
      { Container.initial with platforms := ["linux/arm64", "linux/amd64"] } .initial 0
    let d := s.prompt s.accepting
    s.container.Valid ∧ d.failure = none ∧ d.store.container ≠ s.container ∧
      d.store.render ≠ s.render := by
  intro s
  have distinct : s.container.platforms.Nodup := by decide
  have ended := prompted distinct (some (inOffer s.container.platforms)) (some s.container.output)
  rw [← accepting_eq] at ended
  have fine : (s.prompt s.accepting).failure = none := by decide +kernel
  have selects : s.Selects (s.prompt s.accepting).store ["linux/amd64", "linux/arm64"] :=
    ended.selects (nodup_inOffer distinct)
  refine ⟨Container.valid_iff_nodup.2 distinct, fine, fun same => ?_, fun same => ?_⟩
  · have platforms := congrArg (·.container.platforms) selects.store
    rw [same] at platforms
    exact absurd platforms (by decide)
  · exact absurd (selects.render_eq_iff.1 same) (by decide)

end Store

end CiWorkflow
