import CiWorkflow.Store
import CiWorkflow.Proofs.Config.Validity

/-! What one operation on a store can do: nothing but count ids, change the registrations, or
replace one of mode and configurations and tell of it. -/

set_option autoImplicit false

namespace CiWorkflow

/-- Operations that lead to a change unless they are refused. -/
def Operation.changes (s : Store) : Operation → Bool
  | .subscribe _ | .unsubscribe _ | .render => false
  | .removeArg id | .updateArg id _ => s.container.buildArgs.any (BuildArg.hasId id)
  | _ => true

def Operation.registered (listeners : List Listener) : Operation → List Listener
  | .subscribe l => listeners ++ [l]
  | .unsubscribe l => listeners.erase l
  | _ => listeners

/-- What rests on a check ends with its rejection, or as it goes on with what was checked. -/
theorem Attempt.ending_ofChecked {α : Type} {P : Ending → Prop} {record : String} {c : Checked α}
    {next : Nat → α → Attempt} (refused : ∀ e, P (.refused (.invalid record e)))
    (checked : ∀ a, c.result = .ok a → P (next c.drawn a).ending) :
    P (ofChecked record c next).ending := by
  cases hr : c.result with
  | error e => simpa only [ofChecked, hr] using refused e
  | ok a => simpa only [ofChecked, hr] using checked a hr

namespace Store

theorem ending_withNames {P : Ending → Prop} {s : Store} {operation : String}
    {taken : List String} {changes : Entries} {attempt : Attempt}
    (refused : ∀ error, refusal? operation ("self" :: taken) changes = some error →
      P (.refused error))
    (named : P attempt.ending) : P (s.withNames operation taken changes attempt).ending := by
  cases hr : refusal? operation ("self" :: taken) changes with
  | none => simpa only [withNames, hr] using named
  | some error => simpa only [withNames, hr] using refused error hr

/-- One of mode and configurations is replaced, a configuration by a checked one. -/
inductive Changed (s : Store) : Store → Prop where
  | mode (m : Mode) : Changed s { s with mode := m }
  | container {c : Container} (valid : c.Valid) (drawn : Nat) :
    Changed s { s with container := c, drawn := drawn }
  | pages (p : Pages) (drawn : Nat) : Changed s { s with pages := p, drawn := drawn }

/-- The ways in which an operation may end, by whether it is one that changes anything. -/
inductive Ends (s : Store) (registered : List Listener) : Bool → Ending → Prop where
  | refused (changes : Bool) (error : Refusal) : Ends s registered changes (.refused error)
  | quiet (answer : Answer) :
    Ends s registered false (.quiet answer { s with listeners := registered })
  | changed (answer : Answer) (s' : Store) (h : s.Changed s') :
    Ends s registered true (.changed answer s')

section
variable {s : Store} {registered : List Listener}

theorem Ends.ofChecked {α : Type} {record : String} {c : Checked α} {next : Nat → α → Attempt}
    (h : ∀ a, c.result = .ok a → s.Ends registered true (next c.drawn a).ending) :
    s.Ends registered true (Attempt.ofChecked record c next).ending :=
  Attempt.ending_ofChecked (fun _ => .refused true _) h

theorem ends_changeContainer (drawn : Nat) (changes : Entries) (answer : Container → Answer) :
    s.Ends registered true ({ s with drawn := drawn }.changeContainer changes answer).ending :=
  .ofChecked fun c hc => .changed (answer c) _ (.container ⟨_, _, hc⟩ _)

theorem ends_changePages (changes : Entries) :
    s.Ends registered true (s.changePages changes).ending :=
  .ofChecked fun p _ => .changed (.pages p) _ (.pages p _)

theorem ends_withNames {changed : Bool} {operation : String} {taken : List String}
    {changes : Entries} {attempt : Attempt} (h : s.Ends registered changed attempt.ending) :
    s.Ends registered changed (s.withNames operation taken changes attempt).ending :=
  ending_withNames (fun error _ => .refused changed error) h

theorem ends_addArg (key value isDynamic : Value) :
    s.Ends registered true (s.addArg key value isDynamic).ending :=
  .ofChecked fun _ _ => ends_changeContainer _ _ _

end

theorem ends_removeArg (s : Store) (id : Value) :
    s.Ends s.listeners (s.container.buildArgs.any (BuildArg.hasId id)) (s.removeArg id).ending := by
  by_cases h : s.container.buildArgs.any (BuildArg.hasId id) = true
  · rw [h, removeArg, if_pos h]
    exact ends_changeContainer s.drawn _ _
  · rw [removeArg, if_neg h, Bool.not_eq_true _ |>.mp h]
    exact .quiet _

theorem ends_updateArg (s : Store) (id : Value) (changes : Entries) :
    s.Ends s.listeners (s.container.buildArgs.any (BuildArg.hasId id))
      (s.updateArg id changes).ending := by
  by_cases h : s.container.buildArgs.any (BuildArg.hasId id) = true
  · rw [h, updateArg, if_pos h]
    exact .ofChecked fun _ _ => ends_changeContainer _ _ _
  · rw [updateArg, if_neg h, Bool.not_eq_true _ |>.mp h]
    exact .quiet _

theorem ends_attempt (s : Store) (op : Operation) :
    s.Ends (op.registered s.listeners) (op.changes s) (s.attempt op).ending := by
  cases op with
  | subscribe l => exact .quiet _
  | unsubscribe l => exact .quiet _
  | render => exact .quiet _
  | setMode v =>
    cases hm : Mode.ofValue? v with
    | none => simpa only [attempt, hm] using .refused true _
    | some m => simpa only [attempt, hm] using .changed .none _ (.mode m)
  | updateContainer changes => exact ends_withNames (ends_changeContainer s.drawn changes _)
  | togglePlatform p => exact ends_changeContainer s.drawn _ _
  | addArg key value isDynamic => exact ends_addArg key value isDynamic
  | removeArg id => exact s.ends_removeArg id
  | updateArg id changes => exact ends_withNames (s.ends_updateArg id changes)
  | updatePages changes => exact ends_withNames (ends_changePages changes)

/-- What an operation comes to. One that is refused counts ids and does nothing else. -/
inductive Steps (s : Store) (op : Operation) (o : Outcome) : Prop where
  | refused (drawn : Nat) (error : Refusal) (store : o.store = { s with drawn := drawn })
    (answer : o.answer = .error error) (deliveries : o.deliveries = [])
  | quiet (answer : Answer) (still : op.changes s = false)
    (store : o.store = { s with listeners := op.registered s.listeners })
    (answered : o.answer = .ok answer) (deliveries : o.deliveries = [])
  | changed (answer : Answer) (s' : Store) (change : s.Changed s') (changes : op.changes s = true)
    (store : o.store = { s' with listeners := s'.told.listeners })
    (deliveries : o.deliveries = s'.told.deliveries)
    (answered : s'.told.failed = none → o.answer = .ok answer)
    (failed : ∀ l, s'.told.failed = some l → o.answer = .error (.listener l.name))

theorem steps (s : Store) (op : Operation) : s.Steps op (s.step op) := by
  have ends := s.ends_attempt op
  generalize hc : op.changes s = changes at ends
  generalize he : (s.attempt op).ending = ending at ends
  cases ends with
  | refused changes error =>
    exact .refused (s.attempt op).drawn error (by simp only [step, he]) (by simp only [step, he])
      (by simp only [step, he])
  | quiet answer =>
    exact .quiet answer hc (by simp only [step, he]) (by simp only [step, he])
      (by simp only [step, he])
  | changed answer s' change =>
    exact .changed answer s' change hc (by simp only [step, he]) (by simp only [step, he])
      (fun h => by simp only [step, he, h]) (fun l h => by simp only [step, he, h])

theorem Changed.listeners_eq {s s' : Store} (h : s.Changed s') : s'.listeners = s.listeners := by
  cases h <;> rfl

def after (s : Store) : List Operation → Store
  | [] => s
  | op :: ops => (s.step op).store.after ops

theorem after_append (s : Store) (before later : List Operation) :
    s.after (before ++ later) = (s.after before).after later := by
  induction before generalizing s with
  | nil => rfl
  | cons op ops ih => exact ih _

end Store

end CiWorkflow
