import CiWorkflow.Proofs.Yaml.Walk
import CiWorkflow.Yaml.Meaning

set_option autoImplicit false

namespace CiWorkflow.Yaml

namespace Node

section Parsing
variable {ts : List Token}

def IsFrom (ts : List Token) (f : Fault) : Prop := f = .malformed ∨ .fault f ∈ ts

def Parser.Within (ts : List Token) (p : Parser) : Prop := p.tokens ⊆ ts

theorem IsFrom.walk (ts : List Token) : Walk (IsFrom ts) (Parser.Within ts) where
  malformed := .inl rfl
  peek {p f} h met := by
    rw [Parser.peek] at met
    split at met
    next g rest tokens =>
      obtain rfl := Except.error.inj met
      exact .inr (h (tokens ▸ List.mem_cons_self))
    all_goals cases met
  skip h _ := fun _ ht => h (List.mem_of_mem_drop ht)
  bindAnchor name _ h := by cases name <;> exact h

theorem checks_readDirectives {tokens : List Token} (h : tokens ⊆ ts) (version : Bool)
    (handles : List (String × String)) :
    Results (IsFrom ts) (fun q => q.2 ⊆ ts) (readDirectives tokens version handles) := by
  fun_induction readDirectives tokens version handles with
  | case1 | case3 => exact .inl rfl
  | case2 _ _ _ _ _ ih | case4 _ _ _ _ _ _ ih | case5 _ _ _ ih =>
    exact ih (List.subset_of_cons_subset h)
  | case6 f => exact .inr (h List.mem_cons_self)
  | case7 => exact h

theorem Parser.Within.afterEnds {p : Parser} (h : p.Within ts) :
    Parser.Within ts { p with tokens := p.tokens.dropWhile fun t => t == .documentEnd } :=
  fun _ ht => h ((List.dropWhile_sublist _).subset ht)

theorem checks_expectStreamEnd {p : Parser} (h : p.Within ts) :
    Checks (IsFrom ts) (expectStreamEnd p) := by
  have w := IsFrom.walk ts
  rw [expectStreamEnd]
  refine (w.peeks h.afterEnds).bind fun _ _ => ?_
  split
  · trivial
  · exact (checks_readDirectives h.afterEnds false []).bind fun _ _ => w.malformed

theorem checks_expectEnd {p : Parser} (h : p.Within ts) : Checks (IsFrom ts) (expectEnd p) := by
  have w := IsFrom.walk ts
  rw [expectEnd]
  refine (w.peeks h).bind fun _ met => ?_
  split
  · exact checks_expectStreamEnd (w.skip h met)
  · exact checks_expectStreamEnd h

/-- Only the order of the tokens, or a token that could not be read, stops the composing of a
document. -/
theorem checks_ofTokens? (tokens : List Token) :
    Checks (IsFrom tokens) (ofTokens? tokens) := by
  have w := IsFrom.walk tokens
  rw [ofTokens?]
  have start (handles : List (String × String)) :
      Parser.Within tokens ⟨tokens, [], handles⟩ := fun _ ht => ht
  have finish (root : Node) {p : Parser} (h : p.Within tokens) : Checks (IsFrom tokens) (do
      expectEnd p
      pure (some (Document.mk root p.anchors))) :=
    (checks_expectEnd h).bind fun _ _ => trivial
  refine (w.peeks (start _)).bind fun _ _ => .ite ?_ ?_
  · exact ((w.keeps _).parse _ _ (start _)).bind fun _ h => finish _ h
  · refine (w.peeks (start _)).bind fun _ _ => ?_
    split
    · trivial
    · refine (checks_readDirectives (fun _ ht => ht) _ _).bind fun q h => ?_
      have h : Parser.Within tokens ⟨q.2, [], q.1⟩ := h
      refine (w.peeks h).bind fun _ met => ?_
      split
      · have h := w.skip h met
        refine (w.peeks h).bind fun _ _ => .ite ?_ ?_
        · exact finish _ h
        · exact ((w.keeps _).parse _ _ h).bind fun _ h => finish _ h
      · exact w.malformed

end Parsing

section Unread
variable {ts : List Token} {f : Fault} {p : Parser}

def IsInner (t : Token) : Prop := startsContent t = true ∧ t ≠ .documentEnd

def Parser.Unread (f : Fault) (p : Parser) : Prop :=
  ∃ ts, p.tokens = ts ++ [.fault f] ∧ ∀ t ∈ ts, IsInner t

/-- The token to come is inside the document, or it is the fault. -/
theorem Parser.Unread.met (h : p.Unread f) {t : Token} (met : p.peek = .ok t) :
    IsInner t ∧ p.skip.Unread f := by
  obtain ⟨ts, tokens, inner⟩ := h
  rw [Parser.peek, tokens] at met
  cases ts with
  | nil => cases met
  | cons t' ts =>
    have first : t' = t := by
      cases t' <;> first | exact Except.ok.inj met | cases met
    exact ⟨first ▸ inner t' List.mem_cons_self, ts, by rw [Parser.skip, tokens]; rfl,
      fun t ht => inner t (List.mem_cons_of_mem _ ht)⟩

theorem Parser.Unread.walk (f : Fault) : Walk (fun _ => True) (Parser.Unread f) where
  malformed := trivial
  peek _ _ := trivial
  skip h met := (h.met met).2
  bindAnchor name _ h := by cases name <;> exact h

theorem expectStreamEnd_unread (h : p.Unread f) :
    Results (fun _ => True) (fun _ => False) (expectStreamEnd p) := by
  have w := Parser.Unread.walk f
  have none : p.tokens.dropWhile (fun t => t == .documentEnd) = p.tokens := by
    obtain ⟨ts, tokens, all⟩ := h
    rw [tokens]
    cases ts with
    | nil => rfl
    | cons t ts => exact List.dropWhile_cons_of_neg (by simp [(all t List.mem_cons_self).2])
  simp only [expectStreamEnd, none]
  refine (w.peeks h).bind fun t met => ?_
  split
  · exact absurd (h.met met).1.1 nofun
  · cases readDirectives p.tokens false [] <;> trivial

theorem expectEnd_unread (h : p.Unread f) :
    Results (fun _ => True) (fun _ => False) (expectEnd p) := by
  rw [expectEnd]
  refine ((Parser.Unread.walk f).peeks h).bind fun t met => ?_
  split
  · exact absurd rfl (h.met met).1.2
  · exact expectStreamEnd_unread h

theorem ofTokens?_unread (inner : ∀ t ∈ ts, IsInner t) :
    Results (fun _ => True) (fun _ => False) (ofTokens? (ts ++ [.fault f])) := by
  have w := Parser.Unread.walk f
  have start : Parser.Unread f ⟨ts ++ [.fault f], [], defaultHandles⟩ := ⟨ts, rfl, inner⟩
  rw [ofTokens?]
  refine (w.peeks start).bind fun t met => ?_
  rw [if_pos (start.met met).1.1]
  exact ((w.keeps _).parse _ _ start).bind fun _ h => (expectEnd_unread h).bind fun _ h => h.elim

end Unread

end Node

end CiWorkflow.Yaml
