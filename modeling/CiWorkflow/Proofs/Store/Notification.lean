import CiWorkflow.Proofs.Store.Step

/-! Where no listener fails, each registration is told of each change once, in order, by the
document of the state that the change led to, and of nothing else. So the last document of whoever
was registered when the last change began is the current one. -/

set_option autoImplicit false

namespace CiWorkflow

abbrev Deliveries := List (Listener × String)

def Deliveries.last? (ds : Deliveries) (l : Listener) : Option String := ds.reverse.lookup l

theorem Deliveries.last?_append (before : Deliveries) {ls : List Listener} {l : Listener}
    {document : String} (h : l ∈ ls) :
    last? (before ++ ls.map fun l => (l, document)) l = some document := by
  have found (ls : List Listener) (h : l ∈ ls) :
      (ls.map fun l => (l, document)).lookup l = some document := by
    induction ls with
    | nil => simp at h
    | cons x xs ih =>
      by_cases hx : l = x
      · simp [hx]
      · simp only [List.map_cons, List.lookup_cons, beq_eq_false_iff_ne.2 hx]
        exact ih ((List.mem_cons.1 h).resolve_left hx)
  rw [last?, List.reverse_append, List.lookup_append, ← List.map_reverse,
    found ls.reverse (List.mem_reverse.2 h), Option.some_or]

section Telling
variable {document : String} {told left : List Listener}

theorem tell_deliveries (h : ∀ l ∈ told, l.raises = false) :
    (tell document told left).deliveries = told.map fun l => (l, document) := by
  fun_induction tell document told left with
  | case1 left => rfl
  | case2 l rest left raises => simp [h l (by simp)] at raises
  | case3 l rest left calm more ih =>
    rw [List.map_cons, ← ih fun x hx => h x (by simp [hx])]

theorem tell_failed (h : ∀ l ∈ told, l.raises = false) :
    (tell document told left).failed = none := by
  fun_induction tell document told left with
  | case1 left => rfl
  | case2 l rest left raises => simp [h l (by simp)] at raises
  | case3 l rest left calm more ih => exact ih fun x hx => h x (by simp [hx])

theorem tell_listeners_sublist :
    (tell document told left).listeners.Sublist left := by
  fun_induction tell document told left with
  | case1 left => exact List.Sublist.refl left
  | case2 l rest left raises => exact List.Sublist.refl left
  | case3 l rest left calm more ih =>
    refine ih.trans ?_
    split
    · exact List.erase_sublist
    · exact List.Sublist.refl left

/-- Only who ends its registration when it is told something is gone afterwards. -/
theorem tell_lasting :
    (tell document told left).listeners.filter (!·.once) = left.filter (!·.once) := by
  have erased {l : Listener} (once : l.once = true) (left : List Listener) :
      (left.erase l).filter (!·.once) = left.filter (!·.once) := by
    induction left with
    | nil => rfl
    | cons x rest ih =>
      by_cases same : x = l
      · subst same
        simp [once]
      · rw [List.erase_cons_tail (by simpa using same), List.filter_cons, List.filter_cons, ih]
  fun_induction tell document told left with
  | case1 left => rfl
  | case2 l rest left raises => rfl
  | case3 l rest left calm more ih =>
    rw [ih]
    split
    · rename_i once
      exact erased once left
    · rfl

end Telling

def Operation.Calm : Operation → Prop
  | .subscribe l => l.raises = false
  | _ => True

namespace Store

def Calm (s : Store) : Prop := ∀ l ∈ s.listeners, l.raises = false

/-- The operation changes mode or configurations, and is not refused. -/
def Applies (s : Store) (op : Operation) : Prop :=
  op.changes s = true ∧ ∃ answer, (s.step op).answer = .ok answer

def deliveries (s : Store) : List Operation → Deliveries
  | [] => []
  | op :: ops => (s.step op).deliveries ++ (s.step op).store.deliveries ops

def Still (s : Store) : List Operation → Prop
  | [] => True
  | op :: ops => ¬ s.Applies op ∧ (s.step op).store.Still ops

/-- What may be left of a store after it was told of. Only registrations that their own listeners
end are gone. -/
structure AfterTelling (s s' : Store) : Prop where
  store : s' = { s with listeners := s'.listeners }
  listeners : s'.listeners.Sublist s.listeners
  lasting : s'.listeners.filter (!·.once) = s.listeners.filter (!·.once)

theorem AfterTelling.refl (s : Store) : s.AfterTelling s := ⟨rfl, .refl _, rfl⟩

theorem afterTelling_step {s s' : Store} {op : Operation} {answer : Answer}
    (ending : (s.attempt op).ending = .changed answer s') : s'.AfterTelling (s.step op).store := by
  simp only [step, ending]
  exact ⟨rfl, tell_listeners_sublist, tell_lasting⟩

theorem deliveries_append (s : Store) (before later : List Operation) :
    s.deliveries (before ++ later) = s.deliveries before ++ (s.after before).deliveries later := by
  induction before generalizing s with
  | nil => rfl
  | cons op ops ih => simp only [List.cons_append, deliveries, after, ih, List.append_assoc]

variable {s : Store} {op : Operation}

theorem calm_step (calm : s.Calm) (h : op.Calm) : (s.step op).store.Calm := by
  cases s.steps op with
  | refused drawn error store => rw [store]; exact calm
  | quiet answer still store =>
    rw [store]
    intro l hl
    cases op with
    | subscribe x =>
      rcases List.mem_append.1 hl with hl | hl
      · exact calm l hl
      · rw [List.mem_singleton.1 hl]
        exact h
    | unsubscribe x => exact calm l (List.mem_of_mem_erase hl)
    | _ => exact calm l hl
  | changed answer s' change changes store =>
    rw [store]
    intro l hl
    have hl : l ∈ s'.listeners := tell_listeners_sublist.subset hl
    exact calm l (change.listeners_eq ▸ hl)

theorem calm_after (calm : s.Calm) {ops : List Operation} (h : ∀ op ∈ ops, op.Calm) :
    (s.after ops).Calm := by
  induction ops generalizing s with
  | nil => exact calm
  | cons op ops ih => exact ih (calm_step calm (h op (by simp))) fun x hx => h x (by simp [hx])

theorem step_deliveries (calm : s.Calm) (h : s.Applies op) :
    (s.step op).deliveries = s.listeners.map fun l => (l, (s.step op).store.render) := by
  obtain ⟨changes, answer, answered⟩ := h
  cases s.steps op with
  | refused drawn error store refused => simp [answered] at refused
  | quiet answer still => simp [changes] at still
  | changed answer s' change _ store deliveries =>
    have same : (s.step op).store.render = s'.render := by rw [store]; rfl
    rw [deliveries, same, told, change.listeners_eq, tell_deliveries calm]

/-- Whatever does not apply a change neither tells of one nor changes what is rendered. -/
theorem step_of_not_applies (calm : s.Calm) (h : ¬ s.Applies op) :
    (s.step op).deliveries = [] ∧ (s.step op).store.render = s.render := by
  cases s.steps op with
  | refused drawn error store answer deliveries => exact ⟨deliveries, by rw [store]; rfl⟩
  | quiet answer still store answered deliveries => exact ⟨deliveries, by rw [store]; rfl⟩
  | changed answer s' change changes store deliveries answered =>
    have fine : s'.told.failed = none := by
      rw [told, change.listeners_eq]
      exact tell_failed calm
    exact absurd ⟨changes, answer, answered fine⟩ h

theorem deliveries_of_still (calm : s.Calm) {ops : List Operation} (h : ∀ op ∈ ops, op.Calm)
    (still : s.Still ops) : s.deliveries ops = [] ∧ (s.after ops).render = s.render := by
  induction ops generalizing s with
  | nil => exact ⟨rfl, rfl⟩
  | cons op ops ih =>
    obtain ⟨nothing, same⟩ := step_of_not_applies calm still.1
    obtain ⟨none, later⟩ :=
      ih (calm_step calm (h op (by simp))) (fun x hx => h x (by simp [hx])) still.2
    exact ⟨by rw [deliveries, nothing, none]; rfl, later.trans same⟩

theorem told_of_changes {start : Store} (calm : start.Calm) {before : List Operation}
    (calmBefore : ∀ op ∈ before, op.Calm) :
    let s := start.after before
    (∀ op, s.Applies op →
      (s.step op).deliveries = s.listeners.map fun l => (l, (s.step op).store.render)) ∧
    (∀ op, ¬ s.Applies op → (s.step op).deliveries = []) ∧
    ∀ op later, s.Applies op → (∀ x ∈ op :: later, x.Calm) → (s.step op).store.Still later →
      ∀ l ∈ s.listeners, (start.deliveries (before ++ op :: later)).last? l =
        some (start.after (before ++ op :: later)).render := by
  intro s
  have calmNow : s.Calm := calm_after calm calmBefore
  refine ⟨fun op h => step_deliveries calmNow h, fun op h => (step_of_not_applies calmNow h).1, ?_⟩
  intro op later h calmLater still l hl
  have ahead : ∀ x ∈ later, x.Calm := fun x hx => calmLater x (by simp [hx])
  obtain ⟨nothing, same⟩ :=
    deliveries_of_still (calm_step calmNow (calmLater op (by simp))) ahead still
  rw [deliveries_append, after_append, deliveries, after, nothing, same, List.append_nil,
    step_deliveries calmNow h]
  exact Deliveries.last?_append _ hl

/-- A listener registered twice and one that ends its registration, a switch of the mode, and an
argument that is not there. -/
theorem told_of_changes_mode_switch :
    let twice : Listener := ⟨"twice", false, false⟩
    let once : Listener := ⟨"once", true, false⟩
    let start := Store.start .docker Container.sample Pages.initial 0
    let before : List Operation := [.subscribe twice, .subscribe once, .subscribe twice]
    let switch : Operation := .setMode (.text "PAGES")
    let later : List Operation := [.removeArg (.text "9")]
    (start.Calm ∧ (∀ op ∈ before, op.Calm) ∧ (start.after before).Applies switch ∧
      ((start.after before).step switch).store.Still later) ∧
    (start.deliveries (before ++ switch :: later)).last? once =
      some (start.after (before ++ switch :: later)).render := by
  intro twice once start before switch later
  have calm : start.Calm := fun l hl => absurd hl List.not_mem_nil
  have calmBefore : ∀ op ∈ before, op.Calm := by simp [before, Operation.Calm, twice, once]
  have calmLater : ∀ op ∈ switch :: later, op.Calm := by simp [switch, later, Operation.Calm]
  have applies : (start.after before).Applies switch := ⟨rfl, .none, rfl⟩
  have still : ((start.after before).step switch).store.Still later :=
    ⟨fun h => absurd h.1 (by decide), trivial⟩
  exact ⟨⟨calm, calmBefore, applies, still⟩,
    (told_of_changes calm calmBefore).2.2 switch later applies calmLater still once
      (List.mem_cons_of_mem _ List.mem_cons_self)⟩

end Store

end CiWorkflow
