import CiWorkflow.Proofs.Config.Changes
import CiWorkflow.Proofs.Store.Ending

/-! The install command of a deployment follows the use of its cache. A change of the flag, in
whatever spelling, takes the command along unless the command is changed too, and no spelling of a
field's name gets around that. -/

set_option autoImplicit false

namespace CiWorkflow

namespace Pages

/-- What changes make of a configuration, where `kept` is the install command without a new one. -/
structure Updated (p : Pages) (changes : Entries) (kept : String) (q : Pages) : Prop where
  branch : branchField.Holds changes checkText p.branch q.branch
  nodeVersion : nodeVersionField.Holds changes (checkWarnedText "node_version") p.nodeVersion
    q.nodeVersion
  installCommand : installField.Holds changes checkText kept q.installCommand
  buildCommand : buildField.Holds changes checkText p.buildCommand q.buildCommand
  outputDir : outputDirField.Holds changes checkText p.outputDir q.outputDir
  useCache : cacheField.Holds changes checkFlag p.useCache q.useCache

def Coupled (p : Pages) : Prop := p.installCommand = installCommandFor p.useCache

theorem updated_of_ofEntries {p q : Pages} {changes : Entries} {n : Nat}
    (h : (ofEntries (changed (p.entries .name) changes) n).result = .ok q) :
    p.Updated changes p.installCommand q := by
  obtain ⟨_, _, checked, keys, rfl⟩ := Check.also_eq_ok_iff.1 h
  obtain ⟨q, h₆, rfl⟩ := Check.map_eq_ok_iff.1 checked
  obtain ⟨_, cache, h₅, useCache, rfl⟩ := Check.also_eq_ok_iff.1 h₆
  obtain ⟨_, dir, h₄, outputDir, rfl⟩ := Check.also_eq_ok_iff.1 h₅
  obtain ⟨_, build, h₃, buildCommand, rfl⟩ := Check.also_eq_ok_iff.1 h₄
  obtain ⟨_, install, h₂, installCommand, rfl⟩ := Check.also_eq_ok_iff.1 h₃
  obtain ⟨_, node, h₁, nodeVersion, rfl⟩ := Check.also_eq_ok_iff.1 h₂
  obtain ⟨_, name, h₀, branch, rfl⟩ := Check.also_eq_ok_iff.1 h₁
  obtain rfl := Except.ok.inj h₀
  have apart : (p.given.map (·.1)).Pairwise Field.Apart := fields_apart
  have fine := Checked.isOk_iff.2 ⟨_, keys⟩
  have text {f : Field} {old new : String} {default : Check String} {m : Nat}
      (hm : (f, .text old) ∈ p.given)
      (found : (f.check (changed (p.entries .name) changes) default checkText m).result =
        .ok new) : f.Holds changes checkText old new :=
    Field.holds_of_check apart fine hm rfl still_checkText found
  exact {
    branch := text (by simp [given]) branch
    nodeVersion := Field.holds_of_check apart fine (w := .text p.nodeVersion) (by simp [given]) rfl
      (still_checkWarnedText _) nodeVersion
    installCommand := text (by simp [given]) installCommand
    buildCommand := text (by simp [given]) buildCommand
    outputDir := text (by simp [given]) outputDir
    useCache := Field.holds_of_check apart fine (w := .bool p.useCache) (by simp [given]) rfl
      still_checkFlag useCache }

/-- An update flips the install command with the flag, unless it has a new one itself. -/
theorem updated_of_update {p q : Pages} {changes : Entries} {n : Nat}
    (h : (p.update changes n).result = .ok q) :
    p.Updated changes
      (if q.useCache = p.useCache then p.installCommand else installCommandFor q.useCache) q := by
  obtain ⟨r, checked, rfl⟩ := Check.map_eq_ok_iff.1 h
  have merged := updated_of_ofEntries checked
  have given (f : Field) :
      (Value.lookup f.name changes).isSome = (f.change? changes).isSome :=
    (Value.lookup_ofPairs_isSome changes f.name).symm
  have install := merged.installCommand
  rw [← Option.not_isSome, given, given]
  cases named : installField.change? changes with
  | some v =>
    have same : installField.Holds changes checkText
        (if r.useCache = p.useCache then p.installCommand else installCommandFor r.useCache)
        r.installCommand := by
      simp only [Field.Holds, named] at install ⊢
      exact install
    simpa using { merged with installCommand := same }
  | none =>
    simp only [Field.Holds, named] at install
    by_cases flag : r.useCache = p.useCache
    · simpa [flag] using merged
    · have flipped : (cacheField.change? changes).isSome = true := by
        cases hc : cacheField.change? changes with
        | some v => rfl
        | none =>
          have kept := merged.useCache
          simp only [Field.Holds, hc] at kept
          exact absurd kept flag
      have derived : installField.Holds changes checkText (installCommandFor r.useCache)
          (installCommandFor r.useCache) := by
        simp only [Field.Holds, named]
      simpa [flag, flipped] using { merged with installCommand := derived }

theorem Updated.coupled {p q : Pages} {changes : Entries}
    (u : p.Updated changes
      (if q.useCache = p.useCache then p.installCommand else installCommandFor q.useCache) q)
    (h : p.Coupled) (keep : installField.change? changes = none) : q.Coupled := by
  have install := u.installCommand
  simp only [Field.Holds, keep] at install
  rw [Coupled, install]
  split
  · rename_i same
    rw [same]
    exact h
  · rfl

/-- Changes that have a field in camel case are refused, for the name that is there, too. -/
theorem not_isOk_update {p : Pages} {changes : Entries} {f : Field} (hf : f ∈ fields)
    (differ : f.name ≠ f.camel) (camel : (Value.lookup f.camel changes).isSome = true) (n : Nat) :
    (p.update changes n).isOk = false := by
  have apart : (p.given.map (·.1)).Pairwise Field.Apart := fields_apart
  obtain ⟨⟨f, w⟩, hm, rfl⟩ : ∃ e ∈ p.given, e.1 = f := List.mem_map.1 hf
  obtain ⟨v, hv⟩ := Option.isSome_iff_exists.1 ((Value.lookup_ofPairs_isSome _ _).trans camel)
  rw [update, Check.isOk_map, ofEntries, Check.isOk_also]
  exact Bool.and_eq_false_iff.2 (.inr (Field.not_isOk_of_camel apart hm differ hv _))

theorem update_drawn (p : Pages) (changes : Entries) (n : Nat) : (p.update changes n).drawn = n :=
  ((still_ofEntries _).map _).drawn n

end Pages

def Operation.namesInstall : Operation → Bool
  | .updatePages changes => (Pages.installField.change? changes).isSome
  | _ => false

namespace Store
variable {s : Store}

/-- Only an update of the deployment replaces its configuration. -/
theorem step_pages (s : Store) (op : Operation) :
    (s.step op).store.pages = s.pages ∨
      ∃ changes p, op = .updatePages changes ∧ (s.pages.update changes s.drawn).result = .ok p ∧
        (s.step op).store.pages = p := by
  have leads := s.leads_attempt op
  generalize he : (s.attempt op).ending = ending at leads
  cases leads with
  | refused own => exact .inl (by simp only [step, he])
  | quiet answer listeners => exact .inl (by simp only [step, he])
  | mode answer m => exact .inl (by simp only [step, he])
  | container answer c drawn => exact .inl (by simp only [step, he])
  | pages drawn of checked => exact .inr ⟨_, _, of, checked, by simp only [step, he]⟩

/-- An update of the deployment draws no id, so one that is refused leaves the store as it was. -/
theorem attempt_updatePages (s : Store) (changes : Entries) :
    (∃ log error, error.isOwn = true ∧
      s.attempt (.updatePages changes) = ⟨s.drawn, log, .refused error⟩) ∨
    ∃ log p, (s.pages.update changes s.drawn).result = .ok p ∧
      s.attempt (.updatePages changes) =
        ⟨s.drawn, log, .changed (.pages p) { s with pages := p }⟩ := by
  rw [attempt]
  cases hr : refusal? "update_pages" ["self"] changes with
  | some error => exact .inl ⟨[], error, isOwn_of_refusal? hr, by simp only [withNames, hr]⟩
  | none =>
    simp only [withNames, hr, changePages, Attempt.ofChecked, Pages.update_drawn]
    cases (s.pages.update changes s.drawn).result with
    | error e => exact .inl ⟨_, _, rfl, rfl⟩
    | ok p => exact .inr ⟨_, p, rfl, rfl⟩

theorem coupled_step (h : s.pages.Coupled) {op : Operation} (keep : op.namesInstall = false) :
    (s.step op).store.pages.Coupled := by
  rcases s.step_pages op with same | ⟨changes, p, rfl, checked, now⟩
  · rw [same]
    exact h
  · rw [now]
    exact (Pages.updated_of_update checked).coupled h (Option.not_isSome_iff_eq_none.1 (by
      simpa [Operation.namesInstall] using keep))

theorem coupled_after (h : s.pages.Coupled) {ops : List Operation}
    (keep : ∀ op ∈ ops, op.namesInstall = false) : (s.after ops).pages.Coupled := by
  induction ops generalizing s with
  | nil => exact h
  | cons op ops ih =>
    obtain ⟨here, later⟩ := List.forall_mem_cons.1 keep
    exact ih (coupled_step h here) later

theorem updatePages_coupled (start : Store) (ops : List Operation) :
    let s := start.after ops
    (∀ changes q, (s.step (.updatePages changes)).answer = .ok (.pages q) →
      (s.step (.updatePages changes)).store.pages = q ∧
      s.pages.Updated changes (if q.useCache = s.pages.useCache then s.pages.installCommand
        else installCommandFor q.useCache) q) ∧
    (∀ changes, ∀ f ∈ Pages.fields, f.name ≠ f.camel →
      (Value.lookup f.camel changes).isSome = true →
      (∃ error, (s.step (.updatePages changes)).answer = .error error ∧ error.isOwn = true) ∧
      (s.step (.updatePages changes)).store = s ∧
      (s.step (.updatePages changes)).deliveries = []) ∧
    (start.pages.Coupled → (∀ op ∈ ops, op.namesInstall = false) →
      ∀ before, before <+: ops → (start.after before).pages.Coupled) := by
  intro s
  refine ⟨fun changes q h => ?_, fun changes f hf differ camel => ?_, fun h keep before hb => ?_⟩
  · rcases s.attempt_updatePages changes with ⟨log, error, -, he⟩ | ⟨log, p, checked, he⟩
    · simp [step, he] at h
    · obtain rfl : p = q := by
        simp only [step, he] at h
        split at h
        · exact Answer.pages.inj (Except.ok.inj h)
        · exact absurd h (by simp)
      exact ⟨by simp only [step, he], Pages.updated_of_update checked⟩
  · rcases s.attempt_updatePages changes with ⟨log, error, own, he⟩ | ⟨log, p, checked, he⟩
    · refine ⟨⟨error, ?_, own⟩, ?_, ?_⟩ <;> simp only [step, he]
    · have refused := Pages.not_isOk_update (p := s.pages) hf differ camel s.drawn
      rw [Checked.isOk_iff.2 ⟨p, checked⟩] at refused
      cases refused
  · exact coupled_after h fun op hop => keep op (hb.subset hop)

/-- A flag by a word and by a number, one in camel case, and a branch. -/
theorem updatePages_coupled_spellings :
    let start := Store.start .pages Container.sample Pages.initial 0
    let ops : List Operation :=
      [.updatePages [(.text "use_cache", .int 0)], .updatePages [(.text "branch", .text "dev")]]
    let flag : Entries := [(.text "use_cache", .text "on")]
    let camel : Entries := [(.text "useCache", .bool true)]
    let q := { Pages.initial with branch := "dev", useCache := true, installCommand := "npm ci" }
    (((start.after ops).step (.updatePages flag)).answer = .ok (.pages q) ∧
      Pages.installField.Holds flag checkText "npm ci" q.installCommand) ∧
    ((Value.lookup Pages.cacheField.camel camel).isSome = true ∧
      ((start.after ops).step (.updatePages camel)).store = start.after ops) ∧
    start.pages.Coupled ∧ (∀ op ∈ ops, op.namesInstall = false) ∧
      (start.after ops).pages.Coupled := by
  intro start ops flag camel q
  obtain ⟨updates, refuses, runs⟩ := updatePages_coupled start ops
  have answer : ((start.after ops).step (.updatePages flag)).answer = .ok (.pages q) := rfl
  have given : (Value.lookup Pages.cacheField.camel camel).isSome = true := by decide
  have coupled : start.pages.Coupled := rfl
  have keep : ∀ op ∈ ops, op.namesInstall = false := by decide
  have field : Pages.cacheField ∈ Pages.fields := by decide
  exact ⟨⟨answer, (updates flag q answer).2.installCommand⟩,
    ⟨given, (refuses camel _ field (by decide) given).2.1⟩,
    coupled, keep, runs coupled keep ops (List.prefix_refl ops)⟩

end Store

end CiWorkflow
