import CiWorkflow.Text.Wrap
import CiWorkflow.Proofs.Text.Trim

set_option autoImplicit false

namespace CiWorkflow.Text

def IsNarrow (cs : List Char) : Prop := ∀ c ∈ cs, columns? c = some 1

instance (cs : List Char) : Decidable (IsNarrow cs) :=
  decidable_of_iff (cs.all (columns? · == some 1) = true) (by simp [IsNarrow])

section Clusters
variable {cs : List Char} {width : Nat}

theorem IsNarrow.ne (narrow : IsNarrow cs) {c d : Char} (hc : c ∈ cs) (hd : columns? d ≠ some 1) :
    c ≠ d := fun same => hd (same ▸ narrow c hc)

def single (c : Char) : Cluster := ⟨[c], 1⟩

theorem clustersFrom_narrow (narrow : IsNarrow cs) (done : List Cluster) (base : Option Char) :
    clustersFrom done base cs = done.reverse ++ cs.map single := by
  induction cs generalizing done base with
  | nil => cases done <;> simp [clustersFrom]
  | cons c r ih =>
    have one := narrow c List.mem_cons_self
    have rest : IsNarrow r := fun d hd => narrow d (List.mem_cons_of_mem c hd)
    have plain : c ≠ joiner := narrow.ne List.mem_cons_self (by decide +kernel)
    have steady : c ≠ '\ufe0f' := narrow.ne List.mem_cons_self (by decide +kernel)
    cases done with
    | nil => simp [clustersFrom, one, ih rest, single]
    | cons g done =>
      rw [clustersFrom.eq_def]
      simp [one, plain, steady, ih rest, single]

theorem clusters_narrow (narrow : IsNarrow cs) : clusters cs = cs.map single :=
  clustersFrom_narrow narrow [] none

theorem columnCount_narrow (narrow : IsNarrow cs) : columnCount cs = cs.length := by
  rw [columnCount, clusters_narrow narrow]
  clear narrow
  induction cs with
  | nil => rfl
  | cons c r ih =>
    rw [List.map_cons, List.foldr_cons, ih, List.length_cons, Nat.add_comm]
    rfl

theorem cropFrom_single {size : Nat} (fits : size + cs.length ≤ width) :
    cropFrom width size (cs.map single) = cs := by
  induction cs generalizing size with
  | nil => rfl
  | cons c r ih =>
    rw [List.length_cons] at fits
    have now : size + (single c).columns ≤ width := by
      change size + 1 ≤ width
      omega
    rw [List.map_cons, cropFrom, if_pos now, ih (by change size + 1 + r.length ≤ width; omega)]
    rfl

end Clusters

section Words
variable {cs : List Char} {width : Nat}

theorem flatten_wordsWithin_sublist (fuel : Nat) (cs : List Char) :
    (wordsWithin fuel cs).flatten.Sublist cs := by
  have parts (p : Char → Bool) (ds : List Char) :
      ds.takeWhile p ++ ds.drop (ds.takeWhile p).length = ds :=
    List.prefix_iff_eq_append.1 (List.takeWhile_prefix p)
  induction fuel generalizing cs with
  | zero => exact List.nil_sublist cs
  | succ fuel ih =>
    rw [wordsWithin]
    split
    · exact List.nil_sublist cs
    · rw [List.flatten_cons, List.append_assoc, List.append_assoc]
      conv => rhs; rw [← parts isBlank cs]
      refine List.Sublist.append_left ?_ _
      conv => rhs; rw [← parts (fun c => !isBlank c) (cs.drop _)]
      refine List.Sublist.append_left ?_ _
      conv => rhs; rw [← parts isBlank (List.drop _ _)]
      exact List.Sublist.append_left (ih _) _

theorem breaks_of_fits {start used : Nat} {ws : List (List Char)} (narrow : IsNarrow ws.flatten)
    (fits : used + ws.flatten.length ≤ width) : breaks width start used ws = [] := by
  induction ws generalizing start used with
  | nil => rfl
  | cons word rest ih =>
    rw [List.flatten_cons] at narrow fits
    rw [List.length_append] at fits
    have first : IsNarrow word := fun c hc => narrow c (List.mem_append_left _ hc)
    have others : IsNarrow rest.flatten := fun c hc => narrow c (List.mem_append_right _ hc)
    have trimmed := (prefix_trimEnd word).sublist
    have short := trimmed.length_le
    have size : columnCount (trimEnd word) = (trimEnd word).length :=
      columnCount_narrow fun c hc => first c (trimmed.subset hc)
    rw [breaks, size, columnCount_narrow first, if_pos (by omega)]
    exact ih others (by omega)

end Words

theorem laidOut_narrow {cs : List Char} {width : Nat} (narrow : IsNarrow cs)
    (fits : cs.length ≤ width) : laidOut width cs = cs := by
  have audible : cs.filter (fun c => !isSilent c) = cs := by
    refine List.filter_eq_self.2 fun c hc => ?_
    have loud : ['\x07', '\x08', '\x0b', '\x0c', '\r'].all (columns? · != some 1) = true := by
      decide +kernel
    have other : c ∉ ['\x07', '\x08', '\x0b', '\x0c', '\r'] := fun mem =>
      bne_iff_ne.1 (List.all_eq_true.1 loud c mem) (narrow c hc)
    simpa [isSilent] using other
  have whole {d : Char} (hd : columns? d ≠ some 1) : splitAt (· == d) cs = [cs] :=
    splitAt_of_none fun c hc => beq_false_of_ne (narrow.ne hc hd)
  have pieces := flatten_wordsWithin_sublist cs.length cs
  have unbroken : breaks width 0 0 (words cs) = [] :=
    breaks_of_fits (fun c hc => narrow c (pieces.subset hc))
      (by rw [words, Nat.zero_add]; exact Nat.le_trans pieces.length_le fits)
  have kept : dropExcess width cs = cs := by
    rw [dropExcess, Nat.sub_eq_zero_of_le fits, Nat.min_zero]
    exact List.take_length
  rw [laidOut, audible, whole (d := '\n') (by decide +kernel)]
  simp only [List.flatMap_cons, List.flatMap_nil, whole (d := '\t') (by decide +kernel), expandTabs,
    wrapLine, unbroken, cutAt, List.map_cons, List.map_nil, kept, crop, clusters_narrow narrow]
  rw [cropFrom_single (by omega)]
  simp

end CiWorkflow.Text
