import CiWorkflow.Proofs.Store.Step

/-! Both configurations of a store stay as checking would give them: written out in either spelling
and checked again they are the same, with no id drawn and nothing warned of. -/

set_option autoImplicit false

namespace CiWorkflow

theorem Container.ofValue_entries {c : Container} (h : c.Valid) (spelling : Spelling)
    (drawn : Nat) : ofValue (.map (c.entries spelling)) drawn = ⟨drawn, [], .ok c⟩ :=
  congrFun (ofEntries_entries spelling (valid_iff_nodup.1 h)) drawn

theorem Pages.ofValue_entries (p : Pages) (spelling : Spelling) (drawn : Nat) :
    ofValue (.map (p.entries spelling)) drawn = ⟨drawn, [], .ok p⟩ :=
  congrFun (ofEntries_entries spelling p) drawn

theorem Container.update_nil {c : Container} (h : c.Valid) (drawn : Nat) :
    c.update [] drawn = ⟨drawn, [], .ok c⟩ := ofValue_entries h .name drawn

theorem Pages.update_nil (p : Pages) (drawn : Nat) : p.update [] drawn = ⟨drawn, [], .ok p⟩ := by
  have same : ofEntries (changed (p.entries .name) []) = .ok p := ofEntries_entries .name p
  rw [update, same]
  rfl

namespace Store
variable {s : Store}

theorem valid_step (h : s.container.Valid) (op : Operation) :
    (s.step op).store.container.Valid := by
  cases s.steps op with
  | refused drawn error store => rw [store]; exact h
  | quiet answer still store => rw [store]; exact h
  | changed answer s' change changes store =>
    rw [store]
    cases change with
    | mode m => exact h
    | container valid drawn => exact valid
    | pages p drawn => exact h

theorem valid_after (h : s.container.Valid) (ops : List Operation) :
    (s.after ops).container.Valid := by
  induction ops generalizing s with
  | nil => exact h
  | cons op ops ih => exact ih (valid_step h op)

theorem withNames_nil (operation : String) (taken : List String) (attempt : Attempt) :
    s.withNames operation taken [] attempt = attempt := by
  have fine : refusal? operation ("self" :: taken) [] = none := by simp [refusal?, Value.lookup]
  simp only [withNames, fine]

theorem step_updateContainer_nil (h : s.container.Valid) :
    (s.step (.updateContainer [])).store = { s with listeners := s.told.listeners } := by
  have ends : (s.attempt (.updateContainer [])).ending = .changed (.container s.container) s := by
    rw [attempt, withNames_nil, changeContainer, Container.update_nil h]
    rfl
  simp only [step, ends]

theorem step_updatePages_nil (s : Store) :
    (s.step (.updatePages [])).store = { s with listeners := s.told.listeners } := by
  have ends : (s.attempt (.updatePages [])).ending = .changed (.pages s.pages) s := by
    rw [attempt, withNames_nil, changePages, Pages.update_nil]
    rfl
  simp only [step, ends]

theorem revalidates_after {start : Store} (h : start.container.Valid) (ops : List Operation) :
    let s := start.after ops
    (∀ spelling drawn, Container.ofValue (.map (s.container.entries spelling)) drawn =
      ⟨drawn, [], .ok s.container⟩) ∧
    (∀ spelling drawn, Pages.ofValue (.map (s.pages.entries spelling)) drawn =
      ⟨drawn, [], .ok s.pages⟩) ∧
    s.container.platforms.Nodup ∧
    ∀ op ∈ [Operation.updateContainer [], .updatePages []],
      (s.step op).store.container = s.container ∧ (s.step op).store.pages = s.pages := by
  intro s
  have valid : s.container.Valid := valid_after h ops
  refine ⟨Container.ofValue_entries valid, s.pages.ofValue_entries,
    Container.valid_iff_nodup.1 valid, ?_⟩
  intro op hop
  rcases List.mem_cons.1 hop with rfl | hop
  · rw [step_updateContainer_nil valid]
    exact ⟨rfl, rfl⟩
  · obtain rfl := List.mem_singleton.1 hop
    rw [step_updatePages_nil]
    exact ⟨rfl, rfl⟩

/-- The initial configurations, a platform that is there already, a refused change and a listener
that fails. -/
theorem revalidates_after_toggles :
    let start := Store.start .docker Container.sample Pages.initial 0
    let ops : List Operation := [
      .subscribe ⟨"deaf", false, true⟩, .togglePlatform (.text "linux/amd64"),
      .updateContainer [(.text "platforms", .list [.text "a", .int 1, .text "a", .text "1"])],
      .updateContainer [(.text "imageName", .null)], .updatePages [(.text "use_cache", .int 1)]]
    start.container.Valid ∧ (start.after ops).container.platforms.Nodup := by
  intro start ops
  have valid : Container.sample.Valid := Container.valid_iff_nodup.2 (by decide)
  exact ⟨valid, (revalidates_after valid ops).2.2.1⟩

end Store

end CiWorkflow
