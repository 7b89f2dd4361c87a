import CiWorkflow.Generation.Service

/-! One service and many callers. A caller may start a call at any time, also while its own request
is under way, and a request that was sent may come back, with any reply, at any later time. -/

set_option autoImplicit false

namespace CiWorkflow.Generation

inductive Event where
  | start (caller : Nat) (description : String)
  | finish (caller : Nat) (reply : Reply)

/-- A service with the requests that were sent and have not come back, the latest first. -/
structure Traffic where
  service : Service
  outstanding : List (Nat × Post)

structure Turn where
  traffic : Traffic
  sent : Option Post
  /-- What the caller's call ends with, if it ends. -/
  answer : Option (Except Fault String)

namespace Event

def isStart : Event → Bool
  | start _ _ => true
  | finish _ _ => false

end Event

namespace Traffic

/-- The latest request of a caller comes back first. Nothing can come back to a caller that waits
for nothing. -/
def step (t : Traffic) : Event → Turn
  | .start caller description =>
    let begun := t.service.begin description
    match begun.post with
    | .ok post => ⟨⟨begun.service, (caller, post) :: t.outstanding⟩, some post, none⟩
    | .error fault => ⟨⟨begun.service, t.outstanding⟩, none, some (.error fault)⟩
  | .finish caller reply =>
    if t.outstanding.any (·.1 == caller) then
      let finished := t.service.finish reply
      ⟨⟨finished.service, t.outstanding.eraseP (·.1 == caller)⟩, none, some finished.result.answer⟩
    else ⟨t, none, none⟩

def after (t : Traffic) : List Event → Traffic
  | [] => t
  | e :: events => (t.step e).traffic.after events

end Traffic

end CiWorkflow.Generation
