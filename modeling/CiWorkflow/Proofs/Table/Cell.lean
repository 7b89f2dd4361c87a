import CiWorkflow.Proofs.Number.General
import CiWorkflow.Table.Cell

/-! The text of a cell. In a column of decimals a number is written anew, and every other text is
kept. What is written never fails, and has no white space around it. -/

set_option autoImplicit false

namespace CiWorkflow.Table

open Text Number

/-- A number as a column of decimals shows it, and any other text as it is. -/
def rewritten (s : String) : String :=
  match readFloat? (s.toList.filter (· != ',')) with
  | some x => general x
  | none => s

def Kind.shows (k : Kind) (s : String) : String :=
  match k with
  | .decimal => rewritten s
  | _ => s

theorem Kind.shows_of_ne {k : Kind} (h : k ≠ .decimal) (s : String) : k.shows s = s := by
  cases k with
  | decimal => exact absurd rfl h
  | _ => rfl

theorem Kind.rank_max (a b : Kind) : (a.max b).rank = Nat.max a.rank b.rank := by
  cases a <;> cases b <;> rfl

/-- The kind of a column is at least as general as that of each cell. -/
theorem rank_le_columnKind {cells : List Value} {v : Value} (h : v ∈ cells) :
    (kind v).rank ≤ (columnKind cells).rank := by
  have most (k : Kind) (ks : List Kind) : k.rank ≤ (ks.foldl Kind.max k).rank ∧
      ∀ k' ∈ ks, k'.rank ≤ (ks.foldl Kind.max k).rank := by
    induction ks generalizing k with
    | nil => exact ⟨Nat.le_refl _, fun _ none => absurd none List.not_mem_nil⟩
    | cons first ks ih =>
      obtain ⟨low, others⟩ := ih (k.max first)
      rw [Kind.rank_max] at low
      refine ⟨Nat.le_trans (Nat.le_max_left _ _) low, List.forall_mem_cons.2 ⟨?_, others⟩⟩
      exact Nat.le_trans (Nat.le_max_right _ _) low
  exact (most .flag (cells.map kind)).2 _ (List.mem_map_of_mem h)

theorem columnKind_of_text {cells : List Value} {v : Value} (h : v ∈ cells)
    (word : kind v = .text) : columnKind cells = .text := by
  have low := rank_le_columnKind h
  rw [word] at low
  cases column : columnKind cells with
  | text => rfl
  | _ =>
    rw [column] at low
    exact absurd low (by decide)

section
variable {s : String} {cs : List Char}

theorem kind_text (h : IsPrinted s.toList) : kind (.text s) = kindOfText s.toList := by
  rw [kind, visible_of_printed h]

theorem firstColoured?_of_no_escape (h : escapeChar ∉ cs) : firstColoured? cs = none := by
  induction cs with
  | nil => rfl
  | cons c r ih =>
    have hc : escapeChar ≠ c := List.ne_of_not_mem_cons h
    have hr : escapeChar ∉ r := List.not_mem_of_not_mem_cons h
    have plain : coloured? (c :: r) = none := by
      unfold coloured?
      split
      · rename_i same
        exact absurd (List.cons.inj same).1 hc.symm
      · rfl
    rw [firstColoured?, plain, ih hr]
    rfl

theorem decimalText_text (s : String) : decimalText false (.text s) = .ok (rewritten s) := by
  simp only [decimalText, rewritten, Bool.false_eq_true, if_false]
  cases readFloat? (s.toList.filter (· != ',')) <;> rfl

theorem cellText_of_no_escape (h : escapeChar ∉ s.toList) (k : Kind) :
    cellText k false (.text s) = .ok (k.shows s) := by
  cases k with
  | decimal => exact decimalText_text s
  | whole =>
    simp only [cellText, wholeText, repainted, firstColoured?_of_no_escape h, String.ofList_toList]
    rfl
  | _ => rfl

/-- Texts, and what stands for a cell that is missing, never fail. -/
theorem exists_cellText (k : Kind) (hides : Bool) {v : Value}
    (h : v = .null ∨ ∃ s, v = .text s) : ∃ t, cellText k hides v = .ok t := by
  cases k with
  | decimal =>
    rcases h with rfl | ⟨s, rfl⟩
    · exact ⟨_, rfl⟩
    · simp only [cellText, decimalText]
      split
      · split <;> exact ⟨_, rfl⟩
      · exact ⟨_, rfl⟩
  | _ => exact ⟨_, rfl⟩

theorem isNeat_shows (h : IsNeat s.toList) (k : Kind) : IsNeat (k.shows s).toList := by
  cases k with
  | decimal =>
    simp only [Kind.shows, rewritten]
    split
    · exact isNeat_general _
    · exact h
  | _ => exact h

end

end CiWorkflow.Table
