import CiWorkflow.Generation.Traffic

/-! However starts and replies of any number of callers follow each other, at most one request of a
service is under way. As long as it is, starts are refused and change nothing; when it has come
back, whatever came back, the next start is sent. -/

set_option autoImplicit false

namespace CiWorkflow.Generation

namespace Service
variable {s : Service}

def during (s : Service) (description : String) : Service :=
  { s with pending := some (s.post description) }

theorem begin_idle (key : s.hasKey = true) (idle : s.pending = none) (description : String) :
    s.begin description = ⟨s.during description, .ok (s.post description),
      [⟨.debug, .generation, "Requesting Dockerfile from model " ++ s.model⟩]⟩ := by
  simp [begin, key, idle, during]

theorem begin_busy (key : s.hasKey = true) (busy : s.pending.isSome = true)
    (description : String) : s.begin description = ⟨s, .error .busy, []⟩ := by
  simp [begin, key, busy]

theorem finish_during (idle : s.pending = none) (description : String) (reply : Reply) :
    (s.during description).finish reply = ⟨s, reply.result⟩ := by
  simp [finish, during, ← idle]

theorem generate_reentrant (key : s.hasKey = true) (idle : s.pending = none)
    (description inner : String) (reply : Reply) :
    let call := s.generate description reply (some inner)
    call.answer = reply.result.answer ∧ call.posts = [s.post description] ∧
      call.inner.map (·.post) = some (.error .busy) := by
  have busy : (s.during description).begin inner = ⟨s.during description, .error .busy, []⟩ :=
    begin_busy (s := s.during description) key rfl inner
  simp [generate, begin_idle key idle, busy, finish_during idle, Except.toOption]

end Service

namespace Traffic

/-- What the traffic of a service can be: nothing is under way, or one request, of which the service
knows. -/
inductive Single (s : Service) : Traffic → Prop where
  | idle : Single s ⟨s, []⟩
  | out (caller : Nat) (description : String) :
    Single s ⟨s.during description, [(caller, s.post description)]⟩

variable {s : Service} {t : Traffic}

theorem step_start_idle (key : s.hasKey = true) (idle : s.pending = none) (caller : Nat)
    (description : String) :
    (mk s []).step (.start caller description) =
      ⟨⟨s.during description, [(caller, s.post description)]⟩, some (s.post description),
        none⟩ := by
  simp only [step, Service.begin_idle key idle]

theorem step_start_busy (key : t.service.hasKey = true) (busy : t.service.pending.isSome = true)
    (caller : Nat) (description : String) :
    t.step (.start caller description) = ⟨t, none, some (.error .busy)⟩ := by
  simp only [step, Service.begin_busy key busy]

theorem step_finish_out (idle : s.pending = none) (caller : Nat) (description : String)
    (post : Post) (reply : Reply) :
    (mk (s.during description) [(caller, post)]).step (.finish caller reply) =
      ⟨⟨s, []⟩, none, some reply.result.answer⟩ := by
  simp [step, Service.finish_during idle]

theorem step_finish_other {caller other : Nat} (h : caller ≠ other) (post : Post) (reply : Reply) :
    (mk s [(caller, post)]).step (.finish other reply) =
      ⟨⟨s, [(caller, post)]⟩, none, none⟩ := by
  simp [step, h]

theorem Single.step (key : s.hasKey = true) (idle : s.pending = none) (h : Single s t)
    (e : Event) : Single s (t.step e).traffic := by
  cases h with
  | idle =>
    cases e with
    | start caller description =>
      rw [step_start_idle key idle]
      exact .out caller description
    | finish caller reply => exact .idle
  | out caller description =>
    cases e with
    | start other more =>
      rw [step_start_busy key rfl]
      exact .out caller description
    | finish other reply =>
      by_cases same : caller = other
      · subst same
        rw [step_finish_out idle]
        exact .idle
      · rw [step_finish_other same]
        exact .out caller description

theorem Single.after (key : s.hasKey = true) (idle : s.pending = none) (h : Single s t)
    (events : List Event) : Single s (t.after events) := by
  induction events generalizing t with
  | nil => exact h
  | cons e events ih => exact ih (h.step key idle e)

theorem after_starts (key : t.service.hasKey = true) (busy : t.service.pending.isSome = true)
    {starts : List Event} (all : ∀ e ∈ starts, e.isStart = true) : t.after starts = t := by
  induction starts with
  | nil => rfl
  | cons e starts ih =>
    have rest := ih fun x hx => all x (List.mem_cons_of_mem e hx)
    cases e with
    | finish caller reply => exact absurd (all _ List.mem_cons_self) Bool.false_ne_true
    | start caller description =>
      rw [Traffic.after, step_start_busy key busy]
      exact rest

/-- In every run from an idle service: at most one request is out. While one is, each start is
refused as busy and leaves all as it is, so the call still ends with what its own reply gives. Once
it has come back, with whatever reply, the next start is sent. -/
theorem single_flight {s : Service} (key : s.hasKey = true) (idle : s.pending = none)
    (events : List Event) :
    let t := (mk s []).after events
    t.outstanding.length ≤ 1 ∧
    (t.outstanding ≠ [] → ∀ caller description,
      t.step (.start caller description) = ⟨t, none, some (.error .busy)⟩) ∧
    (∀ call ∈ t.outstanding, ∀ starts reply, (∀ e ∈ starts, e.isStart = true) →
      let back := (t.after starts).step (.finish call.1 reply)
      back.answer = some reply.result.answer ∧ back.traffic.outstanding = [] ∧
      ∀ caller description,
        (back.traffic.step (.start caller description)).sent = some (s.post description)) ∧
    (t.outstanding = [] →
      (∀ caller description,
        (t.step (.start caller description)).sent = some (s.post description)) ∧
      ∀ description inner reply,
        let call := t.service.generate description reply (some inner)
        call.answer = reply.result.answer ∧ call.posts = [s.post description] ∧
          call.inner.map (·.post) = some (.error .busy)) := by
  intro t
  have single : Single s t := Single.idle.after key idle events
  have sent (caller : Nat) (description : String) :
      ((mk s []).step (.start caller description)).sent = some (s.post description) := by
    rw [step_start_idle key idle]
  generalize t = now at single
  cases single with
  | idle =>
    refine ⟨Nat.zero_le 1, fun h => absurd rfl h, fun call h => absurd h List.not_mem_nil, ?_⟩
    exact fun _ => ⟨sent, Service.generate_reentrant key idle⟩
  | out caller description =>
    refine ⟨Nat.le_refl 1, fun _ => step_start_busy key rfl, ?_, fun h => absurd h (by simp)⟩
    intro call hc starts reply all
    obtain rfl := List.mem_singleton.1 hc
    rw [after_starts key rfl all, step_finish_out idle]
    exact ⟨rfl, rfl, sent⟩

/-- A start by the caller itself and one by another, and a failure that has nothing to do with the
exchange. -/
theorem single_flight_reentrant :
    let s := Service.create [] (some "k") none Service.defaultTimeout
    let t := (mk s []).after [.start 1 "a server", .start 1 "a client", .start 2 "a client"]
    let back := t.step (.finish 1 (.failure "KeyboardInterrupt" "" none))
    s.hasKey = true ∧ s.pending = none ∧ (1, s.post "a server") ∈ t.outstanding ∧
      (back.traffic.step (.start 2 "a client")).sent = some (s.post "a client") := by
  intro s t back
  have key : s.hasKey = true := by decide
  have out : (1, s.post "a server") ∈ t.outstanding := List.mem_singleton.2 rfl
  obtain ⟨-, -, next⟩ := (single_flight key rfl _).2.2.1 _ out []
    (.failure "KeyboardInterrupt" "" none) fun e he => absurd he List.not_mem_nil
  exact ⟨key, rfl, out, next 2 "a client"⟩

end Traffic

end CiWorkflow.Generation
