import CiWorkflow.Yaml.Scanner

/-! What can stop the reading of tokens: the text is malformed, an escape names a code point past
the last one, or the number of a version is too long. -/

set_option autoImplicit false

namespace CiWorkflow.Yaml

/-- What a computation gives is good, and what it fails with is foreseen. -/
def Results {α : Type} (foreseen : Fault → Prop) (good : α → Prop) : Except Fault α → Prop
  | .ok a => good a
  | .error f => foreseen f

instance {α : Type} {foreseen : Fault → Prop} {good : α → Prop} [DecidablePred foreseen]
    [DecidablePred good] : DecidablePred (Results foreseen good)
  | .ok a => inferInstanceAs (Decidable (good a))
  | .error f => inferInstanceAs (Decidable (foreseen f))

namespace Results
variable {α β : Type} {foreseen : Fault → Prop} {good : α → Prop} {fine : β → Prop}
  {x : Except Fault α}

theorem bind (hx : Results foreseen good x) {k : α → Except Fault β}
    (hk : ∀ a, good a → Results foreseen fine (k a)) : Results foreseen fine (x >>= k) := by
  cases x with
  | ok a => exact hk a hx
  | error f => exact hx

theorem ite {c : Prop} [Decidable c] {y : Except Fault α} (hx : Results foreseen good x)
    (hy : Results foreseen good y) : Results foreseen good (if c then x else y) := by
  split
  · exact hx
  · exact hy

theorem map (hx : Results foreseen good x) {k : α → β} (hk : ∀ a, good a → fine (k a)) :
    Results foreseen fine (x.map k) := by
  cases x with
  | ok a => exact hk a hx
  | error f => exact hx

end Results

inductive Fault.IsLexical : Fault → Prop
  | malformed : IsLexical .malformed
  | codePoint {n : Nat} (h : 0x10FFFF < n) : IsLexical (.codePoint n)
  | longInteger {digits : Nat} (h : Number.digitLimit < digits) : IsLexical (.longInteger digits)

section Readers

abbrev Lexical (r : Reader) : Prop := Results Fault.IsLexical (fun _ => True) r

theorem Lexical.prepend {r : Reader} (h : Lexical r) (cs : List Char) : Lexical (r.prepend cs) := by
  cases r <;> exact h

theorem lexical_readSingle (gap : Gap) (cs : List Char) : Lexical (readSingle gap cs) := by
  fun_induction readSingle gap cs with
  | case1 | case5 => exact .malformed
  | case3 => exact trivial
  | case4 | case6 => assumption
  | case2 | case7 => exact Lexical.prepend ‹_› _

theorem lexical_readDouble (w : Within) (gap : Gap) (cs : List Char) :
    Lexical (readDouble w gap cs) := by
  fun_induction readDouble w gap cs with
  | case1 | case5 | case8 | case12 | case13 => exact .malformed
  | case2 => exact trivial
  | case15 => exact .codePoint ‹_›
  | case4 | case6 | case9 | case11 | case14 => assumption
  | case3 | case7 | case10 | case16 => exact Lexical.prepend ‹_› _

end Readers

namespace Token

def IsRead : Token → Prop
  | .fault _ => False
  | _ => True

end Token

def Finds (x : Option (Token × List Char)) : Prop := ∀ p, x = some p → p.1.IsRead

namespace Finds
variable {α : Type} {x y : Option (Token × List Char)}

theorem none : Finds none := nofun

theorem some {t : Token} {rest : List Char} (ht : t.IsRead) : Finds (some (t, rest)) := by
  intro p hp
  obtain rfl := Option.some.inj hp
  exact ht

theorem bind {z : Option α} {k : α → Option (Token × List Char)} (hk : ∀ a, Finds (k a)) :
    Finds (z.bind k) := by
  cases z with
  | none => exact .none
  | some a => exact hk a

theorem ite {c : Prop} [Decidable c] (hx : Finds x) (hy : Finds y) :
    Finds (if c then x else y) := by
  split
  · exact hx
  · exact hy

end Finds

theorem finds_readTag (cs : List Char) : Finds (readTag cs) := by
  unfold readTag
  simp only [Option.bind_eq_bind, Option.bind_some, Option.bind_none]
  split
  · refine .bind fun p => ?_
    split
    · exact .ite (.some trivial) .none
    · exact .none
  · exact .ite (.ite (.some trivial) .none) <|
      .ite (.bind fun _ => .bind fun _ => .ite (.some trivial) .none)
        (.bind fun _ => .ite (.some trivial) .none)
  · exact .none

abbrev ReadsToken (x : Except Fault (Token × List Char)) : Prop :=
  Results Fault.IsLexical (fun p => p.1.IsRead) x

theorem readsToken_orMalformed {x : Option (Token × List Char)} (h : Finds x) :
    ReadsToken (orMalformed x) := by
  cases x with
  | none => exact .malformed
  | some p => exact h p rfl

theorem results_orMalformed {α : Type} (x : Option α) :
    Results Fault.IsLexical (fun _ => True) (orMalformed x) := by
  cases x with
  | none => exact .malformed
  | some a => trivial

theorem results_readNumber (cs : List Char) :
    Results Fault.IsLexical (fun _ => True) (readNumber cs) := by
  rw [readNumber]
  split
  · exact .malformed
  · split
    · exact .longInteger ‹_›
    · trivial

theorem readsToken_readVersion (cs : List Char) : ReadsToken (readVersion cs) := by
  refine (results_readNumber cs).bind fun ⟨major, r⟩ _ => ?_
  dsimp only
  split
  · refine (results_readNumber _).bind fun minor _ => ?_
    split
    · trivial
    · exact .malformed
  · exact .malformed

theorem finds_readTagHandle (cs : List Char) : Finds (readTagHandle cs) := by
  unfold readTagHandle
  simp only [Option.bind_eq_bind, Option.bind_none]
  exact .bind fun handle => .ite .none <| .bind fun uri => .ite (.some trivial) .none

theorem readsToken_readDirective (cs : List Char) : ReadsToken (readDirective cs) := by
  have value (name : String) (r : List Char) : ReadsToken (readDirectiveValue name r) :=
    .ite (readsToken_readVersion _) (.ite (readsToken_orMalformed (finds_readTagHandle _)) trivial)
  exact (results_orMalformed _).bind fun p _ => (value p.1 p.2).bind fun q hq =>
    (results_orMalformed _).bind fun _ _ => hq

namespace Scanner

def Clean (s : Scanner) : Prop := ∀ t ∈ s.tokens, t.IsRead

abbrev Steps (x : Except Fault Scanner) : Prop := Results Fault.IsLexical Clean x

theorem Clean.push {s : Scanner} (h : s.Clean) {t : Token} (ht : t.IsRead) : (s.push t).Clean := by
  intro u hu
  rcases Array.mem_push.1 hu with hu | rfl
  · exact h u hu
  · exact ht

theorem clean_closeFrom {limit : Nat} {margins : List Nat} {tokens : Array Token}
    (h : ∀ t ∈ tokens, t.IsRead) : ∀ t ∈ (closeFrom limit margins tokens).2, t.IsRead := by
  induction margins generalizing tokens with
  | nil => exact h
  | cons m rest ih =>
    rw [closeFrom]
    split
    · refine ih fun t ht => ?_
      rcases Array.mem_push.1 ht with ht | rfl
      · exact h t ht
      · exact trivial
    · exact h

theorem Clean.unwind {s : Scanner} (h : s.Clean) (limit : Nat) : (s.unwind limit).Clean := by
  rw [Scanner.unwind]
  split
  · exact h
  · exact clean_closeFrom h

theorem mem_insertIdxIfInBounds {α : Type} {xs : Array α} {i : Nat} {a b : α}
    (h : b ∈ xs.insertIdxIfInBounds i a) : b = a ∨ b ∈ xs := by
  rw [Array.insertIdxIfInBounds] at h
  split at h
  · exact Array.mem_insertIdx.1 h
  · exact .inr h

theorem Clean.openBlock {s : Scanner} (h : s.Clean) {column position : Nat} {t : Token}
    (ht : t.IsRead) : (s.openBlock column t position).Clean := by
  rw [Scanner.openBlock]
  split
  · intro u hu
    rcases mem_insertIdxIfInBounds hu with rfl | hu
    · exact ht
    · exact h u hu
  · exact h

theorem steps_dropStale {s : Scanner} (h : s.Clean) : Steps s.dropStale := by
  rw [dropStale]
  split
  · exact .malformed
  · exact h

theorem steps_dropCandidate {s : Scanner} (h : s.Clean) : Steps s.dropCandidate := by
  rw [dropCandidate]
  split
  · split
    · exact .malformed
    · exact h
  · exact h

theorem steps_saveCandidate {s : Scanner} (h : s.Clean) : Steps s.saveCandidate := by
  rw [saveCandidate]
  split
  · exact (steps_dropCandidate h).bind fun s hs => hs
  · exact h

theorem steps_finish {s : Scanner} (h : s.Clean) : Steps s.finish :=
  (steps_dropCandidate (h.unwind 0)).bind fun _ hs => hs.push trivial

theorem steps_startDirective {s : Scanner} (h : s.Clean) (r : List Char) :
    Steps (s.startDirective r) := by
  exact (steps_dropCandidate (h.unwind 0)).bind fun s hs =>
    (readsToken_readDirective r).bind fun _ ht => hs.push ht

theorem steps_documentMark {s : Scanner} (h : s.Clean) (t : Token) (ht : t.IsRead) :
    Steps (s.documentMark t) :=
  (steps_dropCandidate (h.unwind 0)).bind fun _ hs => hs.push ht

theorem steps_openFlow {s : Scanner} (h : s.Clean) (t : Token) (ht : t.IsRead) (r : List Char) :
    Steps (s.openFlow t r) := (steps_saveCandidate h).bind fun _ hs => hs.push ht

theorem steps_closeFlow {s : Scanner} (h : s.Clean) (t : Token) (ht : t.IsRead) (r : List Char) :
    Steps (s.closeFlow t r) := by
  rw [closeFlow]
  split
  · exact .malformed
  · exact (steps_dropCandidate h).bind fun _ hs => hs.push ht

theorem steps_comma {s : Scanner} (h : s.Clean) (r : List Char) : Steps (s.comma r) :=
  (steps_dropCandidate h).bind fun _ hs => hs.push trivial

theorem steps_blockMark {s : Scanner} (h : s.Clean) (collection t : Token)
    (hc : collection.IsRead) (ht : t.IsRead) (after : Bool) (r : List Char) :
    Steps (s.blockMark collection t after r) := by
  rw [blockMark]
  split
  · exact .malformed
  · refine Results.bind (steps_dropCandidate ?_) fun _ hs => hs.push ht
    split
    · exact h
    · exact h.openBlock hc

theorem steps_valueMark {s : Scanner} (h : s.Clean) (r : List Char) : Steps (s.valueMark r) := by
  rw [valueMark]
  split
  · rename_i k outer candidates
    have marked : ({ s with
        candidates := none :: outer
        tokens := s.tokens.insertIdxIfInBounds k.token .key } : Scanner).Clean := by
      intro u hu
      rcases mem_insertIdxIfInBounds hu with rfl | hu
      · exact trivial
      · exact h u hu
    refine Clean.push ?_ trivial
    split
    · exact marked
    · exact marked.openBlock trivial
  · exact steps_blockMark h .blockMapping .value trivial trivial _ r

theorem steps_node {s : Scanner} (h : s.Clean) {read : Except Fault (Token × List Char)}
    (hr : ReadsToken read) : Steps (s.node read) :=
  (steps_saveCandidate h).bind fun _ hs => hr.bind fun _ ht => hs.push ht

theorem readsToken_name (make : String → Token) (hm : ∀ n, (make n).IsRead) (r : List Char) :
    ReadsToken (name make r) := by
  rw [name]
  cases readName r with
  | none => exact .malformed
  | some p => exact hm p.1

theorem readsToken_scalar {read : Reader} (h : Lexical read) : ReadsToken (scalar read) :=
  h.map fun _ _ => trivial

theorem steps_blockScalar {s : Scanner} (h : s.Clean) (folded : Bool) (r : List Char) :
    Steps (s.blockScalar folded r) := by
  refine (steps_dropCandidate h).bind fun s hs => ?_
  cases readBlock folded s.margin r with
  | none => exact .malformed
  | some p => exact hs.push trivial

theorem steps_plainScalar {s : Scanner} (h : s.Clean) : Steps s.plainScalar :=
  (steps_saveCandidate h).bind fun _ hs => hs.push trivial

theorem steps_prepare {s : Scanner} (h : s.Clean) : Steps s.prepare :=
  Results.bind (steps_dropStale (s := s.skipBlank) h) fun _ hs => hs.unwind _

theorem steps_readToken {s : Scanner} (h : s.Clean) : Steps s.readToken := by
  rw [readToken]
  split
  · exact steps_finish h
  · rename_i c r _
    exact .ite (steps_startDirective h r) <|
      .ite (steps_documentMark h .documentStart trivial) <|
      .ite (steps_documentMark h .documentEnd trivial) <|
      .ite (steps_openFlow h .openSequence trivial r) <|
      .ite (steps_openFlow h .openMapping trivial r) <|
      .ite (steps_closeFlow h .closeSequence trivial r) <|
      .ite (steps_closeFlow h .closeMapping trivial r) <|
      .ite (steps_comma h r) <|
      .ite (steps_blockMark h .blockSequence .entry trivial trivial true r) <|
      .ite (steps_blockMark h .blockMapping .key trivial trivial _ r) <|
      .ite (steps_valueMark h r) <|
      .ite (steps_node h (readsToken_name .reference (fun _ => trivial) r)) <|
      .ite (steps_node h (readsToken_name .anchor (fun _ => trivial) r)) <|
      .ite (steps_node h (readsToken_orMalformed (finds_readTag _))) <|
      .ite (steps_blockScalar h false r) <| .ite (steps_blockScalar h true r) <|
      .ite (steps_node h (readsToken_scalar (lexical_readSingle .none r))) <|
      .ite (steps_node h (readsToken_scalar (lexical_readDouble .text .none r))) <|
      .ite (steps_plainScalar h) .malformed

theorem steps_next {s : Scanner} (h : s.Clean) : Steps s.next :=
  (steps_prepare h).bind fun _ hs => steps_readToken hs

theorem lexical_of_mem_abandon {s : Scanner} (h : s.Clean) {f g : Fault} (hf : f.IsLexical)
    (hg : .fault g ∈ s.abandon f) : g.IsLexical := by
  rcases Array.mem_push.1 hg with hg | hg
  · rw [← Array.mem_toList_iff, Array.toList_extract, List.extract_eq_take_drop, List.drop_zero]
      at hg
    exact (h _ (Array.mem_toList_iff.1 (List.mem_of_mem_take hg))).elim
  · obtain rfl := Token.fault.inj hg
    exact hf

/-- Only the last token can be a fault, and it is one of the text. -/
theorem lexical_of_mem_run {steps : Nat} {s : Scanner} (h : s.Clean) {f : Fault}
    (hf : .fault f ∈ run steps s) : f.IsLexical := by
  induction steps generalizing s with
  | zero => exact lexical_of_mem_abandon h .malformed hf
  | succ steps ih =>
    rw [run] at hf
    split at hf
    · exact (h _ hf).elim
    · have next := steps_next h
      cases stepped : s.next with
      | ok s' =>
        rw [stepped] at hf next
        exact ih next hf
      | error g =>
        rw [stepped] at hf next
        exact lexical_of_mem_abandon h next hf

end Scanner

theorem lexical_of_mem_tokenize {cs : List Char} {f : Fault} (h : .fault f ∈ tokenize cs) :
    f.IsLexical :=
  Scanner.lexical_of_mem_run (s := Scanner.start cs) (by simp [Scanner.Clean, Scanner.start])
    (by simpa [tokenize] using h)

end CiWorkflow.Yaml
