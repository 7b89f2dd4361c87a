import CiWorkflow.Proofs.Store.Ending

/-! An operation applies its whole change or none of it. What it refuses itself changes nothing and
is told to no one. Where a listener fails, the change stays as it would be if nobody listened, and
those up to that listener have been told of it. -/

set_option autoImplicit false

namespace CiWorkflow

theorem tell_of_failed {document : String} {told left : List Listener} {l : Listener}
    (h : (tell document told left).failed = some l) :
    ∃ before later, told = before ++ l :: later ∧ (∀ x ∈ before, x.raises = false) ∧
      l.raises = true ∧
      (tell document told left).deliveries = (before ++ [l]).map fun x => (x, document) := by
  fun_induction tell document told left with
  | case1 left => simp at h
  | case2 x rest left raises =>
    obtain rfl := Option.some.inj h
    exact ⟨[], rest, rfl, by simp, raises, rfl⟩
  | case3 x rest left calm more ih =>
    obtain ⟨before, later, split, fine, raises, deliveries⟩ := ih h
    refine ⟨x :: before, later, by rw [split]; rfl, ?_, raises, by rw [deliveries]; rfl⟩
    exact List.forall_mem_cons.2 ⟨Bool.not_eq_true _ |>.mp calm, fine⟩

namespace Store

def SameContent (s t : Store) : Prop :=
  s.mode = t.mode ∧ s.container = t.container ∧ s.pages = t.pages

theorem changed_of_ending {s s' : Store} {op : Operation} {answer : Answer}
    (ending : (s.attempt op).ending = .changed answer s') :
    op.changes s = true ∧ s'.listeners = s.listeners := by
  have ends := s.ends_attempt op
  rw [ending] at ends
  generalize op.changes s = changes at ends
  cases ends with
  | changed answer s' change => exact ⟨rfl, change.listeners_eq⟩

theorem step_unheard {s s' : Store} {op : Operation} {answer : Answer}
    (ending : (s.attempt op).ending = .changed answer s') :
    ({ s with listeners := [] }.step op).answer = .ok answer ∧
      s'.SameContent ({ s with listeners := [] }.step op).store := by
  have alone : ({ s with listeners := [] }.attempt op).ending =
      .changed answer { s' with listeners := [] } := by
    rw [attempt_heardBy s [] (changed_of_ending ending).1, Attempt.heardBy, ending]
    rfl
  simp only [step, alone]
  exact ⟨rfl, rfl, rfl, rfl⟩

theorem step_atomic (s : Store) (op : Operation) :
    (∀ error, (s.step op).answer = .error error → error.isOwn = true →
      (∃ drawn, (s.step op).store = { s with drawn := drawn }) ∧ (s.step op).deliveries = []) ∧
    ∀ name, (s.step op).answer = .error (.listener name) →
      let unheard := { s with listeners := [] }.step op
      (∃ answer, unheard.answer = .ok answer) ∧ (s.step op).store.SameContent unheard.store ∧
      ∃ before l later, s.listeners = before ++ l :: later ∧ l.name = name ∧
        (∀ x ∈ before, x.raises = false) ∧ l.raises = true ∧
        (s.step op).deliveries = (before ++ [l]).map fun x => (x, (s.step op).store.render) := by
  have leads := s.leads_attempt op
  cases ending : (s.attempt op).ending with
  | refused error =>
    rw [ending] at leads
    cases leads with
    | refused own =>
      simp only [step, ending]
      refine ⟨fun _ _ _ => ⟨⟨_, rfl⟩, trivial⟩, fun name h => ?_⟩
      obtain rfl : error = .listener name := Except.error.inj h
      exact absurd own Bool.false_ne_true
  | quiet answer s' => simp [step, ending]
  | changed answer s' =>
    have unheard := step_unheard ending
    have registered := (changed_of_ending ending).2
    cases failed : s'.told.failed with
    | none => simp [step, ending, failed]
    | some l =>
      have result : (s.step op).answer = .error (.listener l.name) := by
        simp only [step, ending, failed]
      have store : (s.step op).store = { s' with listeners := s'.told.listeners } := by
        simp only [step, ending]
      have deliveries : (s.step op).deliveries = s'.told.deliveries := by
        simp only [step, ending]
      rw [result, store, deliveries]
      constructor
      · rintro error h own
        obtain rfl := Except.error.inj h
        exact absurd own Bool.false_ne_true
      · intro name h
        obtain rfl : l.name = name := Refusal.listener.inj (Except.error.inj h)
        obtain ⟨before, later, split, fine, raises, told⟩ := tell_of_failed failed
        exact ⟨⟨answer, unheard.1⟩, unheard.2, before, l, later, registered ▸ split, rfl, fine,
          raises, told⟩

/-- A mode that there is not, and a switch of the mode that the second of three listeners fails
on. -/
theorem step_atomic_deaf :
    let calm : Listener := ⟨"calm", true, false⟩
    let deaf : Listener := ⟨"deaf", false, true⟩
    let s := { Store.start .docker Container.sample Pages.initial 0 with
      listeners := [calm, deaf, calm] }
    let unknown : Operation := .setMode (.text "SITE")
    let switch : Operation := .setMode (.text "PAGES")
    ((s.step unknown).answer = .error (.unknownMode (.text "SITE")) ∧
      (s.step unknown).deliveries = []) ∧
    (s.step switch).answer = .error (.listener "deaf") ∧
      (s.step switch).store.SameContent ({ s with listeners := [] }.step switch).store := by
  intro calm deaf s unknown switch
  have refused : (s.step unknown).answer = .error (.unknownMode (.text "SITE")) := rfl
  have failed : (s.step switch).answer = .error (.listener "deaf") := rfl
  exact ⟨⟨refused, ((step_atomic s unknown).1 _ refused rfl).2⟩,
    failed, ((step_atomic s switch).2 "deaf" failed).2.1⟩

end Store

end CiWorkflow
