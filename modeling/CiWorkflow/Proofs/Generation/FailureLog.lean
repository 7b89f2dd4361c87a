import CiWorkflow.Proofs.Generation.Answer
import CiWorkflow.Proofs.Generation.SingleFlight

/-! What the log tells of a call that failed. It is one entry, which tells the kind and the status
of a failed exchange and nothing else. If the payload of a response is not what it should be, the
entry shows the payload, so that two calls which fail alike log alike just if they show the same. -/

set_option autoImplicit false

namespace CiWorkflow.Generation

/-! Looking into a payload, step by step. What goes wrong first has a kind. -/

def member (key : String) : Value → Except String Value
  | .map es => match Value.lookup key es with
    | some v => .ok v
    | none => .error "KeyError"
  | _ => .error "TypeError"

/-- The first item of a list, or the first character of a text. -/
def firstItem : Value → Except String Value
  | .list (v :: _) => .ok v
  | .list [] => .error "IndexError"
  | .text s => match s.toList with
    | c :: _ => .ok (.text (String.singleton c))
    | [] => .error "IndexError"
  | .map _ => .error "KeyError"
  | _ => .error "TypeError"

def asRecord : Value → Except String Entries
  | .map es => .ok es
  | _ => .error "AttributeError"

/-- The content of the first candidate, or the kind of what goes wrong on the way to it. -/
def content (data : Value) : Except String Entries := do
  asRecord (← member "content" (← firstItem (← member "candidates" data)))

theorem content?_eq (data : Value) : content? data = (content data).toOption := by
  cases data with
  | map es =>
    simp only [content?, content, member]
    cases Value.lookup "candidates" es with
    | none => rfl
    | some v =>
      cases v with
      | list vs =>
        cases vs with
        | nil => rfl
        | cons first rest =>
          cases first with
          | map candidate =>
            simp only [bind, Except.bind, firstItem]
            cases Value.lookup "content" candidate with
            | none => rfl
            | some w => cases w <;> rfl
          | _ => rfl
      | text t =>
        simp only [bind, Except.bind, firstItem]
        cases t.toList <;> rfl
      | _ => rfl
  | _ => rfl

namespace Reply

/-- The kind and the status of what a call fails with, if it is a failure that is told of. A payload
that cannot be looked into has the status of its response. -/
def trouble? : Reply → Option Trouble
  | .response status body =>
    if 400 ≤ status ∧ status < 600 then some ⟨"HTTPError", some status⟩
    else match Json.read body with
      | .ok data => match content data with
        | .ok _ => none
        | .error kind => some ⟨kind, some status⟩
      | .error .malformed => some ⟨"JSONDecodeError", none⟩
      | .error .longInteger => some ⟨"ValueError", none⟩
  | .failure kind _ status => if exchangeKinds.contains kind then some ⟨kind, status⟩ else none

/-- The payload of a response, if it is there and cannot be looked into. -/
def surprise? : Reply → Option Value
  | .response status body =>
    if 400 ≤ status ∧ status < 600 then none
    else (Json.read body).toOption.filter fun data => (content? data).isNone
  | .failure _ _ _ => none

def failureText (r : Reply) (t : Trouble) : String :=
  match r.surprise? with
  | some data => surpriseText data
  | none => t.text

theorem result_of_trouble {r : Reply} {t : Trouble} (h : r.trouble? = some t) :
    r.result = .failed (r.failureText t) := by
  cases r with
  | failure kind message status =>
    simp only [trouble?] at h
    split at h
    · rename_i known
      obtain rfl := Option.some.inj h
      rw [result, if_pos known]
      rfl
    · simp at h
  | response status body =>
    simp only [trouble?] at h
    simp only [result, failureText, surprise?]
    split at h
    · rename_i bad
      obtain rfl := Option.some.inj h
      rw [if_pos bad, if_pos bad]
    · rename_i fine
      rw [if_neg fine, if_neg fine]
      cases read : Json.read body with
      | error fault =>
        cases fault <;> simp only [read] at h <;> obtain rfl := Option.some.inj h <;> rfl
      | ok data =>
        cases found : content data with
        | ok es => simp [read, found] at h
        | error kind =>
          have nothing : content? data = none := by rw [content?_eq, found]; rfl
          simp only [Result.ofData, Except.toOption, Option.filter_some, nothing,
            Option.isNone_none, if_true]

theorem exists_trouble_of_failed {r : Reply} (h : r.result.answer = .error .failed) :
    ∃ t, r.trouble? = some t := by
  cases r with
  | failure kind message status =>
    rw [result] at h
    rw [trouble?]
    split at h
    · rename_i known
      exact ⟨_, if_pos known⟩
    · simp at h
  | response status body =>
    rw [result] at h
    rw [trouble?]
    split at h
    · rename_i bad
      exact ⟨_, if_pos bad⟩
    · rename_i fine
      rw [if_neg fine]
      cases read : Json.read body with
      | error fault => cases fault <;> exact ⟨_, rfl⟩
      | ok data =>
        cases found : content data with
        | error kind => exact ⟨⟨kind, some status⟩, by simp only [found]⟩
        | ok es =>
          -- What goes wrong with the parts is never the failure that is told of.
          have there : content? data = some es := by rw [content?_eq, found]; rfl
          simp only [read, Result.ofData, there] at h
          cases text : partsText ((Value.lookup "parts" es).getD (.list [])) with
          | ok t => simp [text, Except.map] at h
          | error fault =>
            obtain rfl : fault = .failed := by simpa [text, Except.map] using h
            exact absurd (partsText_error text) Bool.false_ne_true

end Reply

namespace Service

def Call.errors (c : Call) : List LogEntry := c.log.filter (·.level == .error)

section
variable {s : Service} {description : String} {r : Reply} {inner : Option String}

theorem sent_of_failed (failed : (s.generate description r inner).answer = .error .failed) :
    s.hasKey = true ∧ s.pending = none := by
  simp only [generate, begin] at failed
  split at failed
  · rename_i fault refused
    split at refused
    · simp_all
    · split at refused <;> simp_all
  · rename_i post sent
    split at sent
    · simp at sent
    · split at sent <;> simp_all

/-- The call tried meanwhile and the request itself leave no errors. -/
theorem errors_generate (key : s.hasKey = true) (idle : s.pending = none) :
    (s.generate description r inner).errors = r.result.log.filter (·.level == .error) := by
  have busy (d : String) :
      (s.during description).begin d = ⟨s.during description, .error .busy, []⟩ :=
    begin_busy (s := s.during description) key rfl d
  cases inner <;>
    simp [generate, Call.errors, begin_idle key idle, busy, finish_during idle]

theorem errors_failed (text : String) :
    (Result.failed text).log.filter (·.level == .error) = [⟨.error, .generation, text⟩] :=
  List.filter_eq_self.2 fun e he => by rw [List.mem_singleton.1 he]; rfl

theorem errors_of_failed (failed : (s.generate description r inner).answer = .error .failed) :
    ∃ t, r.trouble? = some t ∧
      (s.generate description r inner).errors = [⟨.error, .generation, r.failureText t⟩] := by
  obtain ⟨key, idle⟩ := sent_of_failed failed
  rw [generate_answer key idle] at failed
  obtain ⟨t, trouble⟩ := Reply.exists_trouble_of_failed failed
  refine ⟨t, trouble, ?_⟩
  rw [errors_generate key idle, Reply.result_of_trouble trouble, errors_failed]

end

/-- The texts about an exchange and about a payload differ in their first letters. -/
theorem text_ne_surpriseText (t : Trouble) (data : Value) : t.text ≠ surpriseText data := by
  have apart (kind between status close shown : String) :
      "Generation API error: " ++ kind ++ between ++ status ++ close ≠
        "Unexpected generation response: " ++ shown := by
    intro same
    have first := congrArg (fun s => s.toList[0]?) same
    simp at first
  exact apart _ _ _ _ _

theorem surpriseText_inj {data data' : Value} :
    surpriseText data = surpriseText data' ↔ data.quoted = data'.quoted :=
  String.append_right_inj _

theorem entry_inj {level : Level} {writer : Writer} {text text' : String} :
    [LogEntry.mk level writer text] = [⟨level, writer, text'⟩] ↔ text = text' := by simp

/-- A call that fails with the failure that is told of logs one error. If no payload came as a
surprise, its text is made of the kind and the status alone; otherwise it shows the payload. So two
such calls with the same kind and status, whatever else they differ in, log the same just if both
show the same payload, or none. -/
theorem logged_alike_iff {s s' : Service} {description description' : String} {r r' : Reply}
    {inner inner' : Option String}
    (failed : (s.generate description r inner).answer = .error .failed)
    (failed' : (s'.generate description' r' inner').answer = .error .failed) :
    let call := s.generate description r inner
    let call' := s'.generate description' r' inner'
    (∃ text, call.errors = [⟨.error, .generation, text⟩]) ∧
    (r.surprise? = none → ∃ t, r.trouble? = some t ∧
      call.errors = [⟨.error, .generation, t.text⟩]) ∧
    (r.trouble? = r'.trouble? →
      (call.errors = call'.errors ↔
        r.surprise?.map Value.quoted = r'.surprise?.map Value.quoted)) := by
  intro call call'
  obtain ⟨t, trouble, errors⟩ := errors_of_failed failed
  obtain ⟨t', trouble', errors'⟩ := errors_of_failed failed'
  refine ⟨⟨_, errors⟩, fun none => ⟨t, trouble, ?_⟩, fun alike => ?_⟩
  · rw [errors, Reply.failureText, none]
  · obtain rfl : t = t' := Option.some.inj (trouble.symm.trans (alike.trans trouble'))
    rw [errors, errors', Reply.failureText, Reply.failureText, entry_inj]
    cases r.surprise? with
    | none =>
      cases r'.surprise? with
      | none => exact iff_of_true rfl rfl
      | some data' => exact iff_of_false (text_ne_surpriseText t data') nofun
    | some data =>
      cases r'.surprise? with
      | none => exact iff_of_false (text_ne_surpriseText t data).symm nofun
      | some data' => exact surpriseText_inj.trans (Option.some_inj (a := data.quoted)).symm

/-- One call is refused with a body that holds the key, the other one ends in a failure whose
message holds another key, and has one more call inside. -/
theorem logged_alike_iff_refused :
    let s := create [] (some "k1") none defaultTimeout
    let s' := create [] (some "k2") (some "m") defaultTimeout
    let r : Reply := .response 403 "k1 is not allowed"
    let r' : Reply := .failure "HTTPError" "403 for url: m?key=k2" (some 403)
    (s.generate "a server" r none).answer = .error .failed ∧
      (s'.generate "a client" r' (some "k2")).answer = .error .failed ∧
      r.surprise? = none ∧
      (s.generate "a server" r none).errors =
        [⟨.error, .generation, (Trouble.mk "HTTPError" (some 403)).text⟩] ∧
      r.trouble? = r'.trouble? ∧
      (s.generate "a server" r none).errors = (s'.generate "a client" r' (some "k2")).errors := by
  intro s s' r r'
  have failed : (s.generate "a server" r none).answer = .error .failed := by
    rw [generate_answer (by decide) rfl]
    rfl
  have failed' : (s'.generate "a client" r' (some "k2")).answer = .error .failed := by
    rw [generate_answer (by decide) rfl]
    rfl
  obtain ⟨-, plain, alike⟩ := logged_alike_iff failed failed'
  obtain ⟨t, trouble, errors⟩ := plain rfl
  obtain rfl : ⟨"HTTPError", some 403⟩ = t := Option.some.inj trouble
  exact ⟨failed, failed', rfl, errors, rfl, (alike rfl).2 rfl⟩

/-- Two payloads without candidates fail the same way, and each shows in its log. -/
theorem not_logged_alike :
    let s := create [] (some "k") none defaultTimeout
    let r : Reply := .response 200 "\x7b\"error\": \"a\"\x7d"
    let r' : Reply := .response 200 "\x7b\"error\": \"b\"\x7d"
    (s.generate "x" r none).answer = .error .failed ∧
      (s.generate "x" r' none).answer = .error .failed ∧
      r.trouble? = some ⟨"KeyError", some 200⟩ ∧ r'.trouble? = some ⟨"KeyError", some 200⟩ ∧
      (s.generate "x" r none).errors ≠ (s.generate "x" r' none).errors := by
  intro s r r'
  have key : s.hasKey = true := by decide
  have trouble : r.trouble? = some ⟨"KeyError", some 200⟩ := by decide +kernel
  have trouble' : r'.trouble? = some ⟨"KeyError", some 200⟩ := by decide +kernel
  have differ : r.failureText ⟨"KeyError", some 200⟩ ≠ r'.failureText ⟨"KeyError", some 200⟩ := by
    decide +kernel
  have result := Reply.result_of_trouble trouble
  have result' := Reply.result_of_trouble trouble'
  rw [generate_answer key rfl, generate_answer key rfl, errors_generate key rfl,
    errors_generate key rfl, result, result', errors_failed, errors_failed]
  exact ⟨rfl, rfl, trouble, trouble', fun same => differ (entry_inj.1 same)⟩

end Service

end CiWorkflow.Generation
