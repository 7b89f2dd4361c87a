import CiWorkflow.Proofs.Config.Overrides
import CiWorkflow.Proofs.Store.Step

set_option autoImplicit false

namespace CiWorkflow

/-- A refusal that comes from the operation itself and not from someone who was told of it. -/
def Refusal.isOwn : Refusal → Bool
  | .listener _ => false
  | _ => true

namespace Store

/-- The ways in which an operation may end. Only `updatePages` replaces the configuration of a
deployment, by one that its changes were checked to. -/
inductive Leads (s : Store) (op : Operation) : Ending → Prop where
  | refused {error : Refusal} (own : error.isOwn = true) : Leads s op (.refused error)
  | quiet (answer : Answer) (listeners : List Listener) :
    Leads s op (.quiet answer { s with listeners := listeners })
  | mode (answer : Answer) (m : Mode) : Leads s op (.changed answer { s with mode := m })
  | container (answer : Answer) (c : Container) (drawn : Nat) :
    Leads s op (.changed answer { s with container := c, drawn := drawn })
  | pages {changes : Entries} {p : Pages} (drawn : Nat) (of : op = .updatePages changes)
    (checked : (s.pages.update changes s.drawn).result = .ok p) :
    Leads s op (.changed (.pages p) { s with pages := p, drawn := drawn })

section
variable {s : Store} {op : Operation}

theorem Leads.ofChecked {α : Type} {record : String} {c : Checked α} {next : Nat → α → Attempt}
    (h : ∀ a, c.result = .ok a → s.Leads op (next c.drawn a).ending) :
    s.Leads op (Attempt.ofChecked record c next).ending :=
  Attempt.ending_ofChecked (fun _ => .refused rfl) h

theorem leads_changeContainer (drawn : Nat) (changes : Entries) (answer : Container → Answer) :
    s.Leads op ({ s with drawn := drawn }.changeContainer changes answer).ending :=
  .ofChecked fun c _ => .container (answer c) c _

theorem isOwn_of_refusal? {operation : String} {taken : List String} {changes : Entries}
    {error : Refusal} (h : refusal? operation taken changes = some error) :
    error.isOwn = true := by
  simp only [refusal?] at h
  split at h
  · obtain rfl := Option.some.inj h
    rfl
  · obtain ⟨name, -, rfl⟩ := Option.map_eq_some_iff.1 h
    rfl

theorem leads_withNames {operation : String} {taken : List String} {changes : Entries}
    {attempt : Attempt} (h : s.Leads op attempt.ending) :
    s.Leads op (s.withNames operation taken changes attempt).ending :=
  ending_withNames (fun _ refused => .refused (isOwn_of_refusal? refused)) h

theorem leads_removeArg (id : Value) : s.Leads op (s.removeArg id).ending := by
  rw [removeArg]
  split
  · exact leads_changeContainer s.drawn _ _
  · exact .quiet _ _

theorem leads_updateArg (id : Value) (changes : Entries) :
    s.Leads op (s.updateArg id changes).ending := by
  rw [updateArg]
  split
  · exact .ofChecked fun _ _ => leads_changeContainer _ _ _
  · exact .quiet _ _

end

theorem leads_attempt (s : Store) (op : Operation) : s.Leads op (s.attempt op).ending := by
  cases op with
  | subscribe l => exact .quiet _ _
  | unsubscribe l => exact .quiet _ _
  | render => exact .quiet _ _
  | setMode v =>
    cases hm : Mode.ofValue? v with
    | none => simpa only [attempt, hm] using .refused rfl
    | some m => simpa only [attempt, hm] using .mode .none m
  | updateContainer changes => exact leads_withNames (leads_changeContainer s.drawn changes _)
  | togglePlatform p => exact leads_changeContainer s.drawn _ _
  | addArg key value isDynamic => exact .ofChecked fun _ _ => leads_changeContainer _ _ _
  | removeArg id => exact leads_removeArg id
  | updateArg id changes => exact leads_withNames (leads_updateArg id changes)
  | updatePages changes => exact leads_withNames (.ofChecked fun _ h => .pages _ rfl h)

end Store

def Ending.heardBy (listeners : List Listener) : Ending → Ending
  | .refused error => .refused error
  | .quiet answer s => .quiet answer { s with listeners := listeners }
  | .changed answer s => .changed answer { s with listeners := listeners }

def Attempt.heardBy (listeners : List Listener) (a : Attempt) : Attempt :=
  { a with ending := a.ending.heardBy listeners }

theorem Attempt.heardBy_ofChecked {α : Type} {listeners : List Listener} {record : String}
    {c : Checked α} {heard next : Nat → α → Attempt}
    (h : ∀ drawn a, heard drawn a = (next drawn a).heardBy listeners) :
    ofChecked record c heard = (ofChecked record c next).heardBy listeners := by
  cases hr : c.result with
  | error e => simp only [ofChecked, hr]; rfl
  | ok a => simp only [ofChecked, hr, h]; rfl

namespace Store

theorem heardBy_changeContainer (s : Store) (listeners : List Listener) (changes : Entries)
    (answer : Container → Answer) :
    { s with listeners := listeners }.changeContainer changes answer =
      (s.changeContainer changes answer).heardBy listeners :=
  Attempt.heardBy_ofChecked fun _ _ => rfl

theorem heardBy_withNames {s : Store} {listeners : List Listener} {operation : String}
    {taken : List String} {changes : Entries} {heard attempt : Attempt}
    (h : heard = attempt.heardBy listeners) :
    { s with listeners := listeners }.withNames operation taken changes heard =
      (s.withNames operation taken changes attempt).heardBy listeners := by
  cases hr : refusal? operation ("self" :: taken) changes with
  | none => simpa only [withNames, hr] using h
  | some error => simp only [withNames, hr]; rfl

theorem heardBy_removeArg (s : Store) (listeners : List Listener) (id : Value) :
    { s with listeners := listeners }.removeArg id = (s.removeArg id).heardBy listeners := by
  simp only [removeArg]
  split
  · exact s.heardBy_changeContainer listeners _ _
  · rfl

theorem heardBy_updateArg (s : Store) (listeners : List Listener) (id : Value)
    (changes : Entries) :
    { s with listeners := listeners }.updateArg id changes =
      (s.updateArg id changes).heardBy listeners := by
  simp only [updateArg]
  split
  · exact Attempt.heardBy_ofChecked fun drawn _ =>
      { s with drawn := drawn }.heardBy_changeContainer listeners _ _
  · rfl

/-- Apart from the registrations themselves, an operation does not depend on who listens. -/
theorem attempt_heardBy (s : Store) (listeners : List Listener) {op : Operation}
    (h : op.changes s = true) :
    { s with listeners := listeners }.attempt op = (s.attempt op).heardBy listeners := by
  cases op with
  | subscribe l => exact absurd h Bool.false_ne_true
  | unsubscribe l => exact absurd h Bool.false_ne_true
  | render => exact absurd h Bool.false_ne_true
  | setMode v => cases hm : Mode.ofValue? v <;> simp only [attempt, hm] <;> rfl
  | updateContainer changes =>
    rw [attempt, attempt]
    exact heardBy_withNames (s.heardBy_changeContainer listeners changes _)
  | togglePlatform p =>
    rw [attempt, attempt]
    exact s.heardBy_changeContainer listeners _ _
  | addArg key value isDynamic =>
    rw [attempt, attempt, addArg, addArg]
    exact Attempt.heardBy_ofChecked fun drawn _ =>
      { s with drawn := drawn }.heardBy_changeContainer listeners _ _
  | removeArg id =>
    rw [attempt, attempt]
    exact s.heardBy_removeArg listeners id
  | updateArg id changes =>
    rw [attempt, attempt]
    exact heardBy_withNames (s.heardBy_updateArg listeners id changes)
  | updatePages changes =>
    rw [attempt, attempt]
    exact heardBy_withNames (Attempt.heardBy_ofChecked fun _ _ => rfl)

section Updates
variable {s : Store}

/-- No field has a name that an update of the build uses itself. -/
theorem refusal?_setFields {changes : List (Field × Value)}
    (known : ∀ p ∈ changes, p.1 ∈ Container.fields) :
    refusal? "update_container" ["self"] (Field.entriesOf .name changes) = none := by
  have own (f : Field) (hf : f ∈ Container.fields) : f.spell .name ≠ "self" := by
    revert f
    decide
  have free : Value.lookup "self" (Field.entriesOf .name changes) = none :=
    Field.lookup_eq_none fun p hp => own p.1 (known p hp)
  simpa [refusal?, Field.entriesOf, Field.entry] using free

theorem ending_changeContainer (distinct : s.container.platforms.Nodup)
    (o : Container.Overrides) (answer : Container → Answer) :
    (s.changeContainer (Field.entriesOf .name o.given) answer).ending =
      .changed (answer (s.container.overridden o))
        { s with container := s.container.overridden o } := by
  have updated := congrFun (Container.update_given distinct o) s.drawn
  simp only [changeContainer, Attempt.ofChecked, updated, Check.ok]

theorem ending_updateContainer (distinct : s.container.platforms.Nodup) (o : Container.Overrides) :
    (s.attempt (.updateContainer (Field.entriesOf .name o.given))).ending =
      .changed (.container (s.container.overridden o))
        { s with container := s.container.overridden o } := by
  have fine := refusal?_setFields o.chosen_given.known
  simp only [attempt, withNames, fine]
  exact ending_changeContainer distinct o .container

end Updates

end Store

end CiWorkflow
