import CiWorkflow.Proofs.Store.BuildArguments
import CiWorkflow.Proofs.Store.Notification
import Mathlib.Algebra.Ring.Parity
import Mathlib.Data.List.Dedup

/-! Toggles of platforms one after the other. Who is selected at the end is a matter of parity, and
the order is that of the last toggles, after those that were never touched. -/

set_option autoImplicit false

namespace CiWorkflow

namespace Platforms

def toggle (platforms : List String) (p : String) : List String :=
  if p ∈ platforms then platforms.erase p else platforms ++ [p]

/-- A platform that was selected, or one that was toggled an odd number of times, but not both. -/
def Selected (platforms toggles : List String) (p : String) : Prop :=
  Xor (p ∈ platforms) (Odd (toggles.count p))

instance (platforms toggles : List String) : DecidablePred (Selected platforms toggles) := by
  unfold Selected
  infer_instance

section
variable {platforms toggles : List String} {p q : String}

theorem toggled_text (platforms : List String) (p : String) :
    Store.toggled (.text p) platforms = (toggle platforms p).map .text := by
  by_cases h : p ∈ platforms <;> simp [Store.toggled, toggle, h]

theorem nodup_toggle (distinct : platforms.Nodup) (p : String) : (toggle platforms p).Nodup := by
  rw [toggle]
  split
  · exact distinct.erase p
  · rename_i other
    exact List.concat_eq_append ▸ distinct.concat other

theorem mem_toggle (distinct : platforms.Nodup) :
    q ∈ toggle platforms p ↔ Xor (q ∈ platforms) (q = p) := by
  by_cases h : p ∈ platforms
  · rw [toggle, if_pos h, distinct.mem_erase_iff, xor_comm, Xor]
    by_cases same : q = p <;> simp [same, h]
  · rw [toggle, if_neg h, List.mem_append, List.mem_singleton, Xor]
    by_cases same : q = p <;> simp [same, h]

/-- One toggle more changes the parity of its own platform only. -/
theorem selected_cons (distinct : platforms.Nodup) :
    Selected (toggle platforms p) toggles q ↔ Selected platforms (p :: toggles) q := by
  rw [Selected, Selected, mem_toggle distinct, List.count_cons]
  by_cases same : q = p
  · subst same
    simp only [beq_self_eq_true, if_true, Nat.odd_add_one, Xor]
    tauto
  · simp [same, Ne.symm same, Xor]

/-- What is not toggled later: what was there and is not toggled at all, and then the platform, if
the toggle selects it. -/
theorem filter_toggle (distinct : platforms.Nodup) :
    (toggle platforms p).filter (· ∉ toggles) =
      platforms.filter (· ∉ p :: toggles) ++ if p ∈ platforms ∨ p ∈ toggles then [] else [p] := by
  have others : platforms.filter (· ∉ p :: toggles) =
      (platforms.filter (· != p)).filter (· ∉ toggles) := by
    rw [List.filter_filter]
    refine List.filter_congr fun q _ => ?_
    by_cases same : q = p <;> simp [same]
  rw [others, toggle]
  by_cases h : p ∈ platforms
  · rw [if_pos h, if_pos (.inl h), distinct.erase_eq_filter, List.append_nil]
  · have absent : platforms.filter (· != p) = platforms := by
      refine List.filter_eq_self.2 fun q hq => ?_
      simpa using fun same : q = p => h (same ▸ hq)
    rw [if_neg h, List.filter_append, absent]
    by_cases later : p ∈ toggles <;> simp [h, later]

/-- The platforms that were never toggled, and then the toggled ones that are selected. -/
theorem foldl_toggle (distinct : platforms.Nodup) (toggles : List String) :
    toggles.foldl toggle platforms =
      platforms.filter (· ∉ toggles) ++ toggles.dedup.filter (Selected platforms toggles) := by
  induction toggles generalizing platforms with
  | nil => simp
  | cons p toggles ih =>
    have selected : toggles.dedup.filter (Selected (toggle platforms p) toggles) =
        toggles.dedup.filter (Selected platforms (p :: toggles)) :=
      List.filter_congr fun q _ => by simp only [selected_cons distinct]
    rw [List.foldl_cons, ih (nodup_toggle distinct p), filter_toggle distinct, selected]
    by_cases later : p ∈ toggles
    · rw [if_pos (.inr later), List.dedup_cons_of_mem later, List.append_nil]
    · -- This is the last toggle of the platform, so it goes in front of those toggled later.
      have parity : Selected platforms (p :: toggles) p ↔ p ∉ platforms := by
        rw [Selected, List.count_cons_self, List.count_eq_zero.2 later, Xor]
        simp
      rw [List.dedup_cons_of_notMem later, List.filter_cons, List.append_assoc]
      by_cases h : p ∈ platforms <;> simp [parity, h, later]

theorem nodup_foldl_toggle (distinct : platforms.Nodup) (toggles : List String) :
    (toggles.foldl toggle platforms).Nodup := by
  induction toggles generalizing platforms with
  | nil => exact distinct
  | cons p toggles ih => exact ih (nodup_toggle distinct p)

theorem mem_foldl_toggle (distinct : platforms.Nodup) (toggles : List String) (p : String) :
    p ∈ toggles.foldl toggle platforms ↔ Selected platforms toggles p := by
  induction toggles generalizing platforms with
  | nil => simp [Selected, Xor]
  | cons q toggles ih => rw [List.foldl_cons, ih (nodup_toggle distinct q), selected_cons distinct]

end

end Platforms

namespace Store

/-- The platforms of the build are these, and nothing else is different but the registrations that
were ended by those who were told. -/
structure Selects (s s' : Store) (platforms : List String) : Prop where
  store : s' = { s with
    container := { s.container with platforms := platforms }
    listeners := s'.listeners }
  listeners : s'.listeners.Sublist s.listeners
  lasting : s'.listeners.filter (!·.once) = s.listeners.filter (!·.once)

theorem Selects.refl (s : Store) : s.Selects s s.container.platforms := ⟨rfl, .refl _, rfl⟩

theorem Selects.trans {s s' s'' : Store} {platforms platforms' : List String}
    (h : s.Selects s' platforms) (h' : s'.Selects s'' platforms') : s.Selects s'' platforms' := by
  refine ⟨?_, h'.listeners.trans h.listeners, h'.lasting.trans h.lasting⟩
  rw [h'.store, h.store]

theorem Selects.of_afterTelling {s s' : Store} {platforms : List String}
    (h : ({ s with container := { s.container with platforms := platforms } } : Store).AfterTelling
      s') : s.Selects s' platforms := ⟨h.store, h.listeners, h.lasting⟩

variable {s : Store}

theorem ending_toggle (distinct : s.container.platforms.Nodup) (p : String) :
    let now := Platforms.toggle s.container.platforms p
    (s.attempt (.togglePlatform (.text p))).ending =
      .changed (.platforms now) { s with container := { s.container with platforms := now } } := by
  intro now
  have kept : now.eraseDups = now := eraseDups_of_nodup (Platforms.nodup_toggle distinct p)
  have container : s.container.overridden { platforms := some now } =
      { s.container with platforms := now } := by
    simp only [Container.overridden, Option.map_some, Option.getD_some, Option.getD_none, kept]
  have ending := ending_changeContainer distinct { platforms := some now } (.platforms ·.platforms)
  rw [container] at ending
  rw [attempt, Platforms.toggled_text]
  exact ending

theorem selects_toggle (distinct : s.container.platforms.Nodup) (p : String) :
    s.Selects (s.step (.togglePlatform (.text p))).store
      (Platforms.toggle s.container.platforms p) :=
  .of_afterTelling (afterTelling_step (ending_toggle distinct p))

theorem answer_toggle (distinct : s.container.platforms.Nodup) (p : String) :
    let o := s.step (.togglePlatform (.text p))
    o.answer = .ok (.platforms o.store.container.platforms) ∨
      ∃ l ∈ s.listeners, l.raises = true ∧ o.answer = .error (.listener l.name) := by
  have ending := ending_toggle distinct p
  have held := congrArg (·.container.platforms) (selects_toggle distinct p).store
  dsimp only at held ⊢
  rw [held]
  exact answered_of_changed ending rfl

theorem selects_toggles (distinct : s.container.platforms.Nodup) (toggles : List String) :
    s.Selects (s.after (toggles.map fun p => .togglePlatform (.text p)))
      (toggles.foldl Platforms.toggle s.container.platforms) := by
  induction toggles generalizing s with
  | nil => exact .refl s
  | cons p toggles ih =>
    have first := selects_toggle distinct p
    have held := congrArg (·.container.platforms) first.store
    dsimp only at held
    have rest := ih (s := (s.step (.togglePlatform (.text p))).store)
      (held ▸ Platforms.nodup_toggle distinct p)
    rw [held] at rest
    exact first.trans rest

/-- After toggles, a platform is selected if it was before or was toggled an odd number of times,
but not both. Those that were never toggled go first, as they stood, and the others in the order of
their last toggles. Each toggle answers with the platforms as they are then, and changes nothing
else. -/
theorem toggles_by_parity {start : Store} (h : start.container.Valid) (ops : List Operation)
    (toggles : List String) :
    let s := start.after ops
    let held := s.container.platforms
    let run (ps : List String) := s.after (ps.map fun p => .togglePlatform (.text p))
    let platforms := (run toggles).container.platforms
    (∀ p, p ∈ platforms ↔ Xor (p ∈ held) (Odd (toggles.count p))) ∧
    platforms = held.filter (· ∉ toggles) ++
      toggles.dedup.filter (fun p => Xor (p ∈ held) (Odd (toggles.count p))) ∧
    platforms.Nodup ∧
    s.Selects (run toggles) platforms ∧
    (∀ before p, before ++ [p] <+: toggles →
      let o := (run before).step (.togglePlatform (.text p))
      o.answer = .ok (.platforms o.store.container.platforms) ∨
        ∃ l ∈ (run before).listeners, l.raises = true ∧ o.answer = .error (.listener l.name)) ∧
    ∀ p ∉ held, (run [p, p]).container = s.container := by
  intro s held run platforms
  have distinct : held.Nodup := Container.valid_iff_nodup.1 (valid_after h ops)
  have selects (ps : List String) : s.Selects (run ps) (ps.foldl Platforms.toggle held) :=
    selects_toggles distinct ps
  have container (ps : List String) : (run ps).container =
      { s.container with platforms := ps.foldl Platforms.toggle held } :=
    congrArg (·.container) (selects ps).store
  have final : platforms = toggles.foldl Platforms.toggle held :=
    congrArg (·.platforms) (container toggles)
  refine ⟨fun p => ?_, ?_, ?_, ?_, fun before p _ => ?_, fun p other => ?_⟩
  · rw [final]
    exact Platforms.mem_foldl_toggle distinct toggles p
  · rw [final]
    exact Platforms.foldl_toggle distinct toggles
  · rw [final]
    exact Platforms.nodup_foldl_toggle distinct toggles
  · rw [final]
    exact selects toggles
  · refine answer_toggle ?_ p
    rw [container before]
    exact Platforms.nodup_foldl_toggle distinct before
  · have restored : [p, p].foldl Platforms.toggle held = held := by
      simp [Platforms.toggle, other, List.erase_append_right]
    rw [container, restored]

/-- A platform that is toggled twice stays and goes last, one that was not there leaves again, and
someone listens to the first toggle only. -/
theorem toggles_by_parity_twice :
    let start := Store.start .docker .sample .initial 0
    let ops : List Operation := [.subscribe ⟨"once", true, false⟩]
    let toggles := ["a", "linux/amd64", "a", "b", "linux/amd64"]
    let s := start.after ops
    let run (ps : List String) := s.after (ps.map fun p => .togglePlatform (.text p))
    start.container.Valid ∧ ["a"] ++ ["linux/amd64"] <+: toggles ∧
      "b" ∉ s.container.platforms ∧
      (run toggles).container.platforms = ["linux/arm64", "b", "linux/amd64"] ∧
      ((run ["a"]).step (.togglePlatform (.text "linux/amd64"))).answer =
        .ok (.platforms ["linux/arm64", "a"]) ∧
      (run ["b", "b"]).container = s.container := by
  intro start ops toggles s run
  have valid : start.container.Valid := Container.valid_iff_nodup.2 (by decide)
  have held : s.container.platforms = ["linux/amd64", "linux/arm64"] := rfl
  have other : "b" ∉ s.container.platforms := by rw [held]; decide
  have first : ["a"] ++ ["linux/amd64"] <+: toggles := by decide
  obtain ⟨-, final, -, -, answers, twice⟩ := toggles_by_parity valid ops toggles
  refine ⟨valid, first, other, ?_, ?_, twice "b" other⟩
  · rw [final, held]
    decide
  · have now : ((run ["a"]).step (.togglePlatform
        (.text "linux/amd64"))).store.container.platforms = ["linux/arm64", "a"] := by
      decide +kernel
    have alone : (run ["a"]).listeners = [] := by decide +kernel
    obtain answered | ⟨l, among, -⟩ := answers ["a"] "linux/amd64" first
    · rw [answered, now]
    · rw [alone] at among
      exact absurd among List.not_mem_nil

end Store

end CiWorkflow
