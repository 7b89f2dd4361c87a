import CiWorkflow.Proofs.Yaml.TokenFault
import CiWorkflow.Yaml.Node

set_option autoImplicit false

namespace CiWorkflow.Yaml.Node

/-- Something that holds at all tokens, and the faults that can be met there. -/
structure Walk (foreseen : Fault → Prop) (holds : Parser → Prop) : Prop where
  malformed : foreseen .malformed
  peek {p : Parser} {f : Fault} : holds p → p.peek = .error f → foreseen f
  skip {p : Parser} {t : Token} : holds p → p.peek = .ok t → holds p.skip
  bindAnchor {p : Parser} (name : Option String) (node : Option Node) :
    holds p → holds (p.bindAnchor name node)

section Walk
variable {foreseen : Fault → Prop} {holds : Parser → Prop}

abbrev Checks {α : Type} (foreseen : Fault → Prop) (x : Except Fault α) : Prop :=
  Results foreseen (fun _ => True) x

abbrev Parses {α : Type} (foreseen : Fault → Prop) (holds : Parser → Prop)
    (x : Except Fault (α × Parser)) : Prop :=
  Results foreseen (fun q => holds q.2) x

variable {p : Parser} (w : Walk foreseen holds)
include w

theorem Walk.peeks (h : holds p) : Results foreseen (fun t => p.peek = .ok t) p.peek := by
  cases met : p.peek with
  | ok t => rfl
  | error f => exact w.peek h met

theorem Walk.checkAnchor (name : Option String) (p : Parser) :
    Checks foreseen (p.checkAnchor name) := by
  cases name with
  | none => trivial
  | some a => exact .ite w.malformed trivial

theorem Walk.resolveHandle (handles : List (String × String)) (h : Option String)
    (suffix : String) : Checks foreseen (resolveHandle handles h suffix) := by
  rw [Node.resolveHandle.eq_def]
  split
  · trivial
  · split
    · trivial
    · exact w.malformed

theorem Walk.named (h : holds p) (anchor : Option String)
    (tag : Option (Option String × String)) : Parses foreseen holds (match tag with
      | some (handle, suffix) => do
        let name ← Node.resolveHandle p.handles handle suffix
        pure (Properties.mk anchor (some name), p)
      | none => pure (Properties.mk anchor none, p)) := by
  cases tag with
  | none => exact h
  | some t => exact (w.resolveHandle p.handles t.1 t.2).bind fun _ _ => h

theorem Walk.readProperties (h : holds p) : Parses foreseen holds (readProperties p) := by
  rw [Node.readProperties]
  refine (w.peeks h).bind fun first met => ?_
  cases first with
  | anchor a =>
    have h := w.skip h met
    refine (w.peeks h).bind fun second met => ?_
    cases second with
    | tag handle suffix => exact w.named (w.skip h met) (some a) (some (handle, suffix))
    | _ => exact w.named h (some a) none
  | tag handle suffix =>
    have h := w.skip h met
    refine (w.peeks h).bind fun second met => ?_
    cases second with
    | anchor a => exact w.named (w.skip h met) (some a) (some (handle, suffix))
    | _ => exact w.named h none (some (handle, suffix))
  | _ => exact w.named h none none

theorem Walk.addScalar (h : holds p) (props : Properties) (plain : Bool) (text : String) :
    Parses foreseen holds (addScalar props plain text p) :=
  (w.checkAnchor props.anchor p).bind fun _ _ => w.bindAnchor _ _ h

/-- A collection takes its name before its items are read, and its value after them. -/
theorem Walk.collect {α : Type} {start : Parser} (h : holds start) {props : Properties}
    {tag : Tag} {items : Parser → Except Fault (α × Parser)} (make : Tag → α → Node)
    (hi : ∀ p : Parser, holds p → Parses foreseen holds (items p)) :
    Parses foreseen holds (do
      start.checkAnchor props.anchor
      let (make, rest) ← (do
        let (found, p) ← items (start.bindAnchor props.anchor none)
        pure ((make · found), p))
      let node := make (collectionTag tag props.tag)
      pure (node, rest.bindAnchor props.anchor (some node))) := by
  refine (w.checkAnchor props.anchor start).bind fun _ _ => ?_
  have made : Parses foreseen holds (do
      let (found, p) ← items (start.bindAnchor props.anchor none)
      pure ((make · found), p)) := (hi _ (w.bindAnchor _ _ h)).bind fun _ hp => hp
  exact made.bind fun _ hr => w.bindAnchor _ _ hr

end Walk

structure Keeps (foreseen : Fault → Prop) (holds : Parser → Prop) (fuel : Nat) : Prop where
  parse (block loose : Bool) {p : Parser} : holds p →
    Parses foreseen holds (parse fuel block loose p)
  parseUnless (block loose : Bool) (stops : List Token) {p : Parser} : holds p →
    Parses foreseen holds (parseUnless fuel block loose stops p)
  parseEntries {p : Parser} : holds p → Parses foreseen holds (parseEntries fuel p)
  parseLooseEntries {p : Parser} : holds p → Parses foreseen holds (parseLooseEntries fuel p)
  parseKeys {p : Parser} : holds p → Parses foreseen holds (parseKeys fuel p)
  parseBlockValue {p : Parser} : holds p → Parses foreseen holds (parseBlockValue fuel p)
  parseFlowValue (closers : List Token) {p : Parser} : holds p →
    Parses foreseen holds (parseFlowValue fuel closers p)
  parseFlowItems (first : Bool) {p : Parser} : holds p →
    Parses foreseen holds (parseFlowItems fuel first p)
  parseFlowEntries (first : Bool) {p : Parser} : holds p →
    Parses foreseen holds (parseFlowEntries fuel first p)

section Keeps
variable {foreseen : Fault → Prop} {holds : Parser → Prop} {fuel : Nat} {p : Parser}
  (w : Walk foreseen holds)
include w

theorem Keeps.parseUnless_succ (k : Keeps foreseen holds fuel) (block loose : Bool)
    (stops : List Token) (h : holds p) :
    Parses foreseen holds (Node.parseUnless (fuel + 1) block loose stops p) := by
  rw [Node.parseUnless]
  exact (w.peeks h).bind fun _ _ => .ite h (k.parse block loose h)

theorem Keeps.parseEntries_succ (k : Keeps foreseen holds fuel) (h : holds p) :
    Parses foreseen holds (Node.parseEntries (fuel + 1) p) := by
  rw [Node.parseEntries]
  refine (w.peeks h).bind fun _ met => ?_
  split
  · exact (k.parseUnless _ _ _ (w.skip h met)).bind fun _ h =>
      (k.parseEntries h).bind fun _ h => h
  · exact w.skip h met
  · exact w.malformed

theorem Keeps.parseLooseEntries_succ (k : Keeps foreseen holds fuel) (h : holds p) :
    Parses foreseen holds (Node.parseLooseEntries (fuel + 1) p) := by
  rw [Node.parseLooseEntries]
  refine (w.peeks h).bind fun _ met => ?_
  split
  · exact (k.parseUnless _ _ _ (w.skip h met)).bind fun _ h =>
      (k.parseLooseEntries h).bind fun _ h => h
  · exact h

theorem Keeps.parseKeys_succ (k : Keeps foreseen holds fuel) (h : holds p) :
    Parses foreseen holds (Node.parseKeys (fuel + 1) p) := by
  rw [Node.parseKeys]
  refine (w.peeks h).bind fun _ met => ?_
  split
  · exact (k.parseUnless _ _ _ (w.skip h met)).bind fun _ h => (k.parseBlockValue h).bind fun _ h =>
      (k.parseKeys h).bind fun _ h => h
  · exact w.skip h met
  · exact w.malformed

theorem Keeps.parseBlockValue_succ (k : Keeps foreseen holds fuel) (h : holds p) :
    Parses foreseen holds (Node.parseBlockValue (fuel + 1) p) := by
  rw [Node.parseBlockValue]
  refine (w.peeks h).bind fun _ met => ?_
  split
  · exact k.parseUnless _ _ _ (w.skip h met)
  · exact h

theorem Keeps.parseFlowValue_succ (k : Keeps foreseen holds fuel) (closers : List Token)
    (h : holds p) : Parses foreseen holds (Node.parseFlowValue (fuel + 1) closers p) := by
  rw [Node.parseFlowValue]
  refine (w.peeks h).bind fun _ met => ?_
  split
  · exact k.parseUnless _ _ _ (w.skip h met)
  · exact h

theorem Keeps.parse_succ (k : Keeps foreseen holds fuel) (block loose : Bool) (h : holds p) :
    Parses foreseen holds (Node.parse (fuel + 1) block loose p) := by
  rw [Node.parse]
  refine (w.peeks h).bind fun _ met => ?_
  split
  · split
    · exact w.skip h met
    · exact w.skip h met
    · exact w.malformed
  · refine (w.readProperties h).bind fun q h => ?_
    obtain ⟨props, p⟩ := q
    refine (w.peeks h).bind fun token met => ?_
    have blank : Parses foreseen holds (if props.anchor.isSome || props.tag.isSome
        then addScalar props true "" p else throw .malformed) :=
      .ite (w.addScalar h props true "") w.malformed
    have inside := w.skip h met
    cases token with
    | entry => exact .ite (w.collect h sequence fun _ => k.parseLooseEntries) blank
    | scalar plain text => exact w.addScalar inside props plain text
    | openSequence => exact w.collect inside sequence fun _ => k.parseFlowItems true
    | openMapping => exact w.collect inside mapping fun _ => k.parseFlowEntries true
    | blockSequence => exact .ite (w.collect inside sequence fun _ => k.parseEntries) blank
    | blockMapping => exact .ite (w.collect inside mapping fun _ => k.parseKeys) blank
    | _ => exact blank

theorem Walk.afterComma {t : Token} (h : holds p) (met : p.peek = .ok t) (first : Bool) :
    holds (if first then p else p.skip) := by
  cases first with
  | true => exact h
  | false => exact w.skip h met

theorem Keeps.parseFlowItems_succ (k : Keeps foreseen holds fuel) (first : Bool) (h : holds p) :
    Parses foreseen holds (Node.parseFlowItems (fuel + 1) first p) := by
  rw [Node.parseFlowItems]
  refine (w.peeks h).bind fun _ met => .ite (w.skip h met) ?_
  refine (w.peeks h).bind fun _ _ => .ite w.malformed ?_
  have h := w.afterComma h met first
  refine (w.peeks h).bind fun _ met => ?_
  split
  · exact w.skip h met
  · exact (k.parseUnless _ _ _ (w.skip h met)).bind fun _ h =>
      (k.parseFlowValue _ h).bind fun _ h => (k.parseFlowItems _ h).bind fun _ h => h
  · exact (k.parse _ _ h).bind fun _ h => (k.parseFlowItems _ h).bind fun _ h => h

theorem Keeps.parseFlowEntries_succ (k : Keeps foreseen holds fuel) (first : Bool) (h : holds p) :
    Parses foreseen holds (Node.parseFlowEntries (fuel + 1) first p) := by
  rw [Node.parseFlowEntries]
  refine (w.peeks h).bind fun _ met => .ite (w.skip h met) ?_
  refine (w.peeks h).bind fun _ _ => .ite w.malformed ?_
  have h := w.afterComma h met first
  refine (w.peeks h).bind fun _ met => ?_
  split
  · exact w.skip h met
  · exact (k.parseUnless _ _ _ (w.skip h met)).bind fun _ h =>
      (k.parseFlowValue _ h).bind fun _ h => (k.parseFlowEntries _ h).bind fun _ h => h
  · exact (k.parse _ _ h).bind fun _ h => (k.parseFlowEntries _ h).bind fun _ h => h

theorem Walk.keeps : ∀ fuel : Nat, Keeps foreseen holds fuel
  | 0 => {
      parse := fun _ _ _ _ => w.malformed
      parseUnless := fun _ _ _ _ _ => w.malformed
      parseEntries := fun _ => w.malformed
      parseLooseEntries := fun _ => w.malformed
      parseKeys := fun _ => w.malformed
      parseBlockValue := fun _ => w.malformed
      parseFlowValue := fun _ _ _ => w.malformed
      parseFlowItems := fun _ _ _ => w.malformed
      parseFlowEntries := fun _ _ _ => w.malformed }
  | fuel + 1 =>
    have k := Walk.keeps fuel
    { parse := fun block loose => k.parse_succ w block loose
      parseUnless := fun block loose stops => k.parseUnless_succ w block loose stops
      parseEntries := k.parseEntries_succ w
      parseLooseEntries := k.parseLooseEntries_succ w
      parseKeys := k.parseKeys_succ w
      parseBlockValue := k.parseBlockValue_succ w
      parseFlowValue := fun closers => k.parseFlowValue_succ w closers
      parseFlowItems := fun first => k.parseFlowItems_succ w first
      parseFlowEntries := fun first => k.parseFlowEntries_succ w first }

end Keeps

end CiWorkflow.Yaml.Node
