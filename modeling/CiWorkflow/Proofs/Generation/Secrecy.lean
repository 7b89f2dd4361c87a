import CiWorkflow.Generation.Traffic
import Mathlib.Data.List.Forall2

/-! The key of a service shows nowhere but in the one header that it is for: two services with
different keys, which are asked the same and get the same replies, answer, log and send the same. -/

set_option autoImplicit false

namespace CiWorkflow.Generation

structure Seen where
  sent : Option Post
  answer : Option (Except Fault String)
  log : List LogEntry

/-- What a caller asks of a service: a call with the reply that it gets, and perhaps another one
that is tried before the reply is there. -/
structure Request where
  description : String
  reply : Reply
  inner : Option String

namespace Traffic

def logged (t : Traffic) : Event → List LogEntry
  | .start _ description => (t.service.begin description).log
  | .finish caller reply =>
    if t.outstanding.any (·.1 == caller) then (t.service.finish reply).result.log else []

def seen (t : Traffic) (e : Event) : Seen := ⟨(t.step e).sent, (t.step e).answer, t.logged e⟩

def record (t : Traffic) : List Event → List Seen
  | [] => []
  | e :: events => t.seen e :: (t.step e).traffic.record events

end Traffic

def Service.calls (s : Service) : List Request → List Call
  | [] => []
  | r :: rest =>
    let call := s.generate r.description r.reply r.inner
    call :: call.service.calls rest

section Keys
variable (key key' : String)

/-- Two requests with different keys, each in its header. All else is the same. -/
structure Post.Alike (p p' : Post) : Prop where
  url : p.url = p'.url
  body : p.body = p'.body
  timeout : p.timeout = p'.timeout
  header : p.headers = [("x-goog-api-key", key)]
  header' : p'.headers = [("x-goog-api-key", key')]

structure Service.Alike (s s' : Service) : Prop where
  key : s.key = some key
  key' : s'.key = some key'
  model : s.model = s'.model
  timeout : s.timeout = s'.timeout
  pending : s.pending.isSome = s'.pending.isSome

structure Seen.Alike (a b : Seen) : Prop where
  sent : Option.Rel (Post.Alike key key') a.sent b.sent
  answer : a.answer = b.answer
  log : a.log = b.log

/-- How two calls begin: both are refused for the same reason, or both send a request. -/
inductive Service.AlikeBegun : Except Fault Post → Except Fault Post → Prop where
  | refused (e : Fault) : AlikeBegun (.error e) (.error e)
  | sent {p p' : Post} (h : Post.Alike key key' p p') : AlikeBegun (.ok p) (.ok p')

structure Service.Begun.Alike (b b' : Begun) : Prop where
  post : AlikeBegun key key' b.post b'.post
  log : b.log = b'.log
  service : Service.Alike key key' b.service b'.service

structure Service.Call.Alike (c c' : Call) : Prop where
  answer : c.answer = c'.answer
  inner : Option.Rel (Begun.Alike key key') c.inner c'.inner
  posts : List.Forall₂ (Post.Alike key key') c.posts c'.posts
  log : c.log = c'.log
  service : Service.Alike key key' c.service c'.service

end Keys

section Steps
variable {key key' : String} {s s' : Service}

namespace Service

theorem Alike.hasKey (h : Alike key key' s s') (hk : key ≠ "") (hk' : key' ≠ "") :
    s.hasKey = true ∧ s'.hasKey = true := by
  simp [Service.hasKey, h.key, h.key', hk, hk']

theorem Alike.post (h : Alike key key' s s') (description : String) :
    Post.Alike key key' (s.post description) (s'.post description) := by
  obtain ⟨_, _, _, _⟩ := s
  obtain ⟨_, _, _, _⟩ := s'
  obtain ⟨rfl, rfl, rfl, rfl, -⟩ := h
  exact ⟨rfl, rfl, rfl, rfl, rfl⟩

theorem Alike.begin (h : Alike key key' s s') (hk : key ≠ "") (hk' : key' ≠ "")
    (description : String) :
    Begun.Alike key key' (s.begin description) (s'.begin description) := by
  obtain ⟨given, given'⟩ := h.hasKey hk hk'
  have pending := h.pending
  cases busy : s'.pending.isSome with
  | true =>
    rw [busy] at pending
    simp only [Service.begin, given, given', pending, busy, Bool.not_true, Bool.false_eq_true,
      if_false, if_true]
    exact ⟨.refused _, rfl, h⟩
  | false =>
    rw [busy] at pending
    simp only [Service.begin, given, given', pending, busy, Bool.not_true, Bool.false_eq_true,
      if_false]
    exact ⟨.sent (h.post description), by simp only [h.model],
      ⟨h.key, h.key', h.model, h.timeout, rfl⟩⟩

theorem Alike.finish (h : Alike key key' s s') (reply : Reply) :
    Alike key key' (s.finish reply).service (s'.finish reply).service :=
  ⟨h.key, h.key', h.model, h.timeout, rfl⟩

theorem Alike.generate (h : Alike key key' s s') (hk : key ≠ "") (hk' : key' ≠ "")
    (description : String) (reply : Reply) (inner : Option String) :
    Call.Alike key key' (s.generate description reply inner)
      (s'.generate description reply inner) := by
  have begun := h.begin hk hk' description
  obtain ⟨sent, log, during⟩ := begun
  rw [Service.generate, Service.generate]
  generalize s.begin description = b at sent log during ⊢
  generalize s'.begin description = b' at sent log during ⊢
  obtain ⟨t, post, entries⟩ := b
  obtain ⟨t', post', entries'⟩ := b'
  cases sent with
  | refused e => exact ⟨rfl, .none, .nil, log, during⟩
  | sent alike =>
    dsimp only at log during
    subst log
    cases inner with
    | none => exact ⟨rfl, .none, .cons alike .nil, rfl, during.finish reply⟩
    | some more =>
      -- The call from inside meets the two services where the first call left them.
      have tried := during.begin hk hk' more
      refine ⟨rfl, .some tried, .cons alike ?_, ?_, during.finish reply⟩
      · obtain ⟨sent, -, -⟩ := tried
        dsimp only [Option.map_some, Option.bind_some]
        generalize (t.begin more).post = post₂ at sent ⊢
        generalize (t'.begin more).post = post₂' at sent ⊢
        cases sent with
        | refused e => exact .nil
        | sent alike₂ => exact .cons alike₂ .nil
      · simp only [Option.map_some, Option.getD_some, tried.log]
        rfl

theorem Alike.calls (h : Alike key key' s s') (hk : key ≠ "") (hk' : key' ≠ "")
    (requests : List Request) :
    List.Forall₂ (Call.Alike key key') (s.calls requests) (s'.calls requests) := by
  induction requests generalizing s s' with
  | nil => exact .nil
  | cons r rest ih =>
    have first := h.generate hk hk' r.description r.reply r.inner
    exact .cons first (ih first.service)

end Service

namespace Traffic
variable {t t' : Traffic}

/-- Two services with different keys that the same callers wait for. -/
structure Alike (key key' : String) (t t' : Traffic) : Prop where
  service : Service.Alike key key' t.service t'.service
  callers : t.outstanding.map (·.1) = t'.outstanding.map (·.1)

theorem map_eraseP_caller (caller : Nat) (out : List (Nat × Post)) :
    (out.eraseP (·.1 == caller)).map (·.1) = (out.map (·.1)).erase caller := by
  rw [List.erase_eq_eraseP', List.eraseP_map]
  rfl

theorem any_caller (caller : Nat) (out : List (Nat × Post)) :
    out.any (·.1 == caller) = (out.map (·.1)).any (· == caller) := by
  rw [List.any_map]
  rfl

theorem Alike.start (h : Alike key key' t t') (hk : key ≠ "") (hk' : key' ≠ "") (caller : Nat)
    (description : String) :
    let e := Event.start caller description
    Seen.Alike key key' (t.seen e) (t'.seen e) ∧
      Alike key key' (t.step e).traffic (t'.step e).traffic := by
  obtain ⟨sent, log, during⟩ := h.service.begin hk hk' description
  dsimp only [seen, logged, step]
  generalize t.service.begin description = b at sent log during ⊢
  generalize t'.service.begin description = b' at sent log during ⊢
  obtain ⟨s, post, entries⟩ := b
  obtain ⟨s', post', entries'⟩ := b'
  cases sent with
  | refused e => exact ⟨⟨.none, rfl, log⟩, during, h.callers⟩
  | sent alike =>
    exact ⟨⟨.some alike, rfl, log⟩, during, congrArg (caller :: ·) h.callers⟩

theorem Alike.finish (h : Alike key key' t t') (caller : Nat) (reply : Reply) :
    let e := Event.finish caller reply
    Seen.Alike key key' (t.seen e) (t'.seen e) ∧
      Alike key key' (t.step e).traffic (t'.step e).traffic := by
  dsimp only [seen, logged, step]
  rw [any_caller, any_caller, h.callers]
  split
  · refine ⟨⟨.none, rfl, rfl⟩, h.service.finish reply, ?_⟩
    rw [map_eraseP_caller, map_eraseP_caller, h.callers]
  · exact ⟨⟨.none, rfl, rfl⟩, h⟩

theorem Alike.step (h : Alike key key' t t') (hk : key ≠ "") (hk' : key' ≠ "") (e : Event) :
    Seen.Alike key key' (t.seen e) (t'.seen e) ∧
      Alike key key' (t.step e).traffic (t'.step e).traffic := by
  cases e with
  | start caller description => exact h.start hk hk' caller description
  | finish caller reply => exact h.finish caller reply

theorem Alike.record (h : Alike key key' t t') (hk : key ≠ "") (hk' : key' ≠ "")
    (events : List Event) :
    List.Forall₂ (Seen.Alike key key') (t.record events) (t'.record events) := by
  induction events generalizing t t' with
  | nil => exact .nil
  | cons e events ih =>
    obtain ⟨first, next⟩ := h.step hk hk' e
    exact .cons first (ih next)

end Traffic

/-- Nothing but the header tells two keys apart, neither in calls one after the other, each with one
more that is tried from inside, nor in calls of many callers that overlap in any way. -/
theorem Service.Alike.indistinguishable (h : Service.Alike key key' s s') (hk : key ≠ "")
    (hk' : key' ≠ "") :
    (∀ requests,
      List.Forall₂ (Call.Alike key key') (s.calls requests) (s'.calls requests)) ∧
    ∀ events, List.Forall₂ (Seen.Alike key key') (Traffic.record ⟨s, []⟩ events)
      (Traffic.record ⟨s', []⟩ events) :=
  ⟨h.calls hk hk', Traffic.Alike.record ⟨h, rfl⟩ hk hk'⟩

/-- A key that stands in the description, a call from inside another one, and a reply that fails. -/
theorem Service.Alike.indistinguishable_created :
    let s := Service.create [] (some "k1") none Service.defaultTimeout
    let s' := Service.create [] (some "k2") none Service.defaultTimeout
    let requests := [Request.mk "use k1" (.response 403 "k1 is not allowed") (some "a client")]
    let events := [Event.start 1 "use k1", .start 2 "a client",
      .finish 1 (.failure "KeyError" "k1" none), .start 2 "a client"]
    List.Forall₂ (Call.Alike "k1" "k2") (s.calls requests) (s'.calls requests) ∧
      List.Forall₂ (Seen.Alike "k1" "k2") (Traffic.record ⟨s, []⟩ events)
        (Traffic.record ⟨s', []⟩ events) := by
  intro s s' requests events
  have alike : Service.Alike "k1" "k2" s s' := ⟨rfl, rfl, rfl, rfl, rfl⟩
  obtain ⟨calls, record⟩ := alike.indistinguishable (by decide) (by decide)
  exact ⟨calls requests, record events⟩

end Steps

end CiWorkflow.Generation
