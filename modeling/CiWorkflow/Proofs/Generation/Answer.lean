import CiWorkflow.Generation.Service

/-! What a call of the language model can end with. A call fails as it is foreseen, or it gives a
text, unless what stands for the parts of a reply are no parts. -/

set_option autoImplicit false

namespace CiWorkflow.Generation

def isPart : Value → Bool
  | .map es => match Value.lookup "text" es with
    | none | some (.text _) => true
    | some _ => false
  | _ => false

/-- Of a record the keys would have to be parts and of a text the characters, which they never
are. -/
def areParts : Value → Bool
  | .list xs => xs.all isPart
  | .map es => es.all fun e => isPart e.1
  | .text s => s.toList.isEmpty
  | _ => false

def IsText (v : Value) : Prop := ∃ s, v = .text s

theorem isPart_iff {v : Value} : isPart v = true ↔ ∃ w, partText v = .ok w ∧ IsText w := by
  cases v with
  | map es =>
    cases h : Value.lookup "text" es with
    | none => simp [isPart, partText, h, IsText]
    | some w => cases w <;> simp [isPart, partText, h, IsText]
  | _ => simp [isPart, partText]

theorem joined_ok_iff {index : Nat} {vs : List Value} :
    (∃ t, joined index vs = .ok t) ↔ ∀ v ∈ vs, IsText v := by
  induction vs generalizing index with
  | nil => simp [joined]
  | cons v vs ih =>
    have others := @ih (index + 1)
    cases v with
    | text s =>
      rw [List.forall_mem_cons, ← others, joined]
      cases joined (index + 1) vs <;> simp [IsText, Except.map]
    | _ => simp [joined, IsText]

/-- All parts are read, and all that is read is text, just if all are parts. -/
theorem mapM_partText_iff {xs : List Value} :
    (∃ ws, xs.mapM partText = .ok ws ∧ ∀ w ∈ ws, IsText w) ↔ ∀ x ∈ xs, isPart x = true := by
  induction xs with
  | nil => simp [pure, Except.pure]
  | cons x xs ih =>
    rw [List.forall_mem_cons, ← ih, isPart_iff, List.mapM_cons]
    cases first : partText x with
    | error fault => simp [bind, Except.bind]
    | ok w =>
      cases rest : xs.mapM partText with
      | error fault => simp [bind, Except.bind]
      | ok ws => simp [bind, Except.bind, pure, Except.pure]

theorem joined_mapM_iff {xs : List Value} :
    (∃ t, (xs.mapM partText >>= joined 0) = .ok t) ↔ ∀ x ∈ xs, isPart x = true := by
  rw [← mapM_partText_iff]
  cases xs.mapM partText with
  | error fault => simp [bind, Except.bind]
  | ok ws => simp [bind, Except.bind, joined_ok_iff]

theorem partsText_ok_iff (parts : Value) :
    (∃ t, partsText parts = .ok t) ↔ areParts parts = true := by
  have walked {xs : List Value} (h : items parts = .ok xs) :
      (∃ t, partsText parts = .ok t) ↔ ∀ x ∈ xs, isPart x = true := by
    rw [← joined_mapM_iff, partsText, h]
    rfl
  cases parts with
  | list xs => rw [walked rfl, areParts, List.all_eq_true]
  | map es => rw [walked rfl, areParts, List.forall_mem_map, List.all_eq_true]
  | text s =>
    rw [walked rfl, areParts, List.forall_mem_map]
    cases s.toList with
    | nil => simp
    | cons c cs => simp only [List.forall_mem_cons, isPart, Bool.false_eq_true, false_and,
        List.isEmpty_cons]
  | _ => simp [partsText, items, areParts, bind, Except.bind]

def Fault.isMisplaced : Fault → Bool
  | .notIterable _ | .notRecord _ | .notText _ _ => true
  | _ => false

theorem mapM_partText_error {xs : List Value} {fault : Fault}
    (h : xs.mapM partText = .error fault) : fault.isMisplaced = true := by
  induction xs with
  | nil => simp [pure, Except.pure] at h
  | cons x xs ih =>
    rw [List.mapM_cons] at h
    cases x with
    | map es =>
      cases rest : xs.mapM partText with
      | error other =>
        obtain rfl : other = fault := by simpa [partText, rest, bind, Except.bind] using h
        exact ih rest
      | ok ws => simp [partText, rest, bind, Except.bind, pure, Except.pure] at h
    | _ =>
      obtain rfl := Except.error.inj h
      rfl

theorem joined_error {index : Nat} {vs : List Value} {fault : Fault}
    (h : joined index vs = .error fault) : fault.isMisplaced = true := by
  induction vs generalizing index with
  | nil => simp [joined] at h
  | cons v vs ih =>
    cases v with
    | text s =>
      cases rest : joined (index + 1) vs with
      | error other =>
        obtain rfl : other = fault := by simpa [joined, rest, Except.map] using h
        exact ih rest
      | ok t => simp [joined, rest, Except.map] at h
    | _ =>
      obtain rfl := Except.error.inj h
      rfl

theorem partsText_error {parts : Value} {fault : Fault} (h : partsText parts = .error fault) :
    fault.isMisplaced = true := by
  rw [partsText] at h
  cases walked : items parts with
  | error other =>
    obtain rfl : other = fault := by simpa [walked, bind, Except.bind] using h
    cases parts <;> simp only [items, reduceCtorEq, Except.error.injEq] at walked <;>
      exact walked ▸ rfl
  | ok xs =>
    cases read : xs.mapM partText with
    | error other =>
      obtain rfl : other = fault := by simpa [walked, read, bind, Except.bind] using h
      exact mapM_partText_error read
    | ok ws => exact joined_error (by simpa [walked, read, bind, Except.bind] using h)

namespace Reply

def isExchange : Reply → Bool
  | .response _ _ => true
  | .failure kind _ _ => exchangeKinds.contains kind

/-- What stands for the parts, if there was a response and it can be looked into so far. -/
def parts? : Reply → Option Value
  | .response status body =>
    if 400 ≤ status ∧ status < 600 then none
    else do
      let data ← (Json.read body).toOption
      let content ← content? data
      pure ((Value.lookup "parts" content).getD (.list []))
  | .failure _ _ _ => none

def isForeseen (r : Reply) : Bool := r.isExchange && r.parts?.all areParts

theorem answer_of_parts {r : Reply} {parts : Value} (h : r.parts? = some parts) :
    r.result.answer = (partsText parts).map fun t => String.ofList (stripFences t.toList) := by
  cases r with
  | failure kind message status => simp [parts?] at h
  | response status body =>
    rw [parts?] at h
    rw [result]
    split at h
    · simp at h
    · rename_i fine
      rw [if_neg fine]
      cases read : Json.read body with
      | error fault => simp [read, Except.toOption] at h
      | ok data =>
        cases found : content? data with
        | none => simp [read, Except.toOption, found] at h
        | some content =>
          obtain rfl : (Value.lookup "parts" content).getD (.list []) = parts := by
            simpa [read, Except.toOption, found] using h
          simp only [Result.ofData, found]

theorem answer_of_no_parts {r : Reply} (exchange : r.isExchange = true) (h : r.parts? = none) :
    r.result.answer = .error .failed := by
  cases r with
  | failure kind message status =>
    have known : exchangeKinds.contains kind = true := exchange
    rw [result, if_pos known]
    rfl
  | response status body =>
    rw [parts?] at h
    rw [result]
    split at h
    · rename_i bad
      rw [if_pos bad]
      rfl
    · rename_i fine
      rw [if_neg fine]
      cases read : Json.read body with
      | error fault => cases fault <;> rfl
      | ok data =>
        cases found : content? data with
        | none => simp only [Result.ofData, found]; rfl
        | some content => simp [read, Except.toOption, found] at h

theorem answer_of_not_exchange {r : Reply} (h : r.isExchange = false) :
    ∃ kind message, r.result.answer = .error (.other kind message) := by
  cases r with
  | response status body => simp [isExchange] at h
  | failure kind message status =>
    have unknown : exchangeKinds.contains kind = false := h
    refine ⟨kind, message, ?_⟩
    rw [result, unknown]
    rfl

def Told (answer : Except Fault String) : Prop := (∃ t, answer = .ok t) ∨ answer = .error .failed

theorem told_iff_foreseen (r : Reply) : Told r.result.answer ↔ r.isForeseen = true := by
  cases exchange : r.isExchange with
  | false =>
    obtain ⟨kind, message, other⟩ := answer_of_not_exchange exchange
    simp [Told, isForeseen, exchange, other]
  | true =>
    cases h : r.parts? with
    | none => simp [Told, isForeseen, exchange, h, answer_of_no_parts exchange h]
    | some parts =>
      have text := partsText_ok_iff parts
      rw [Told, answer_of_parts h, isForeseen, exchange, h, Option.all_some, Bool.true_and, ← text]
      cases read : partsText parts with
      | ok t => simp [Except.map]
      | error fault =>
        have misplaced : fault ≠ .failed := fun e => by
          simpa [e, Fault.isMisplaced] using partsText_error read
        simp [Except.map, misplaced]

theorem misplaced_of_not_foreseen {r : Reply} (exchange : r.isExchange = true)
    (surprise : r.isForeseen = false) :
    ∃ fault, r.result.answer = .error fault ∧ fault.isMisplaced = true := by
  cases h : r.parts? with
  | none => simp [isForeseen, exchange, h] at surprise
  | some parts =>
    have odd : areParts parts = false := by simpa [isForeseen, exchange, h] using surprise
    cases read : partsText parts with
    | ok t => simp [(partsText_ok_iff parts).1 ⟨t, read⟩] at odd
    | error fault =>
      exact ⟨fault, by rw [answer_of_parts h, read]; rfl, partsText_error read⟩

end Reply

namespace Service

theorem generate_answer {s : Service} (key : s.hasKey = true) (idle : s.pending = none)
    (description : String) (r : Reply) (inner : Option String) :
    (s.generate description r inner).answer = r.result.answer := by
  simp [generate, begin, key, idle, finish]

/-- A call that is sent ends with a text, or with the failure that is told of, just if it foresees
the reply. What it does not foresee of an exchange are responses with something else in the place of
parts, and they end it with a fault of their own. Values in a response may lie in one another to any
depth, for which a reader with a stack of limited size would fail too. -/
theorem generate_told_iff {s : Service} (key : s.hasKey = true) (idle : s.pending = none)
    (description : String) (r : Reply) (inner : Option String) :
    (Reply.Told (s.generate description r inner).answer ↔ r.isForeseen = true) ∧
      (r.isExchange = true → r.isForeseen = false →
        ∃ fault, (s.generate description r inner).answer = .error fault ∧
          fault.isMisplaced = true) ∧
      Fault.failed.message = "Failed to generate Dockerfile. Please try again." := by
  rw [generate_answer key idle]
  exact ⟨r.told_iff_foreseen, Reply.misplaced_of_not_foreseen, rfl⟩

/-- A part without a text is one that is empty. -/
theorem generate_told_iff_empty_part :
    let s := create [] (some "k") none defaultTimeout
    let r : Reply := .response 200
      "\x7b\"candidates\": [\x7b\"content\": \x7b\"parts\": [\x7b\x7d]\x7d\x7d]\x7d"
    s.hasKey = true ∧ s.pending = none ∧ Reply.Told (s.generate "a server" r none).answer := by
  intro s r
  have key : s.hasKey = true := by decide
  have foreseen : r.isForeseen = true := by decide +kernel
  exact ⟨key, rfl, (generate_told_iff key rfl "a server" r none).1.2 foreseen⟩

/-- A response can end a call otherwise than by a text or the failure that is told of. -/
theorem not_told_of_null_parts :
    let s := create [] (some "k") none defaultTimeout
    let r : Reply := .response 200
      "\x7b\"candidates\": [\x7b\"content\": \x7b\"parts\": null\x7d\x7d]\x7d"
    s.hasKey = true ∧ s.pending = none ∧ r.isExchange = true ∧
      ¬Reply.Told (s.generate "a server" r none).answer := by
  intro s r
  have key : s.hasKey = true := by decide
  have odd : r.isForeseen = false := by decide +kernel
  refine ⟨key, rfl, rfl, ?_⟩
  rw [generate_answer key rfl, Reply.told_iff_foreseen, odd]
  exact Bool.false_ne_true

end Service

end CiWorkflow.Generation
