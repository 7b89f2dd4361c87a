import CiWorkflow.Proofs.Table.Grid

/-! Tables read back: the rule under the headers shows how wide the columns are, and so the cells
can be cut out of the lines, even where texts in them have blanks inside. -/

set_option autoImplicit false

namespace CiWorkflow.Table

open Text

def words (cs : List Char) : List (List Char) := (splitAt (· == ' ') cs).filter (!·.isEmpty)

/-- Cuts cells of some widths out of a line, two columns apart, and takes the blanks around them
away. -/
def cut : List Nat → List Char → List (List Char)
  | [], _ => []
  | n :: widths, cs => trim (cs.take n) :: cut widths (cs.drop (n + 2))

def cellsOf (table : String) : List (List String) :=
  match splitAt (· == '\n') table.toList with
  | _ :: rule :: rows =>
    rows.map fun row => (cut ((words rule).map List.length) row).map String.ofList
  | _ => []

section
variable {cs : List Char}

theorem words_append (cs rest : List Char) :
    words (cs ++ ' ' :: rest) = words cs ++ words rest := by
  rw [words, splitAt_append rfl, List.filter_append, words, words]

theorem words_blanks (cs : List Char) (n : Nat) :
    words (cs ++ List.replicate n ' ') = words cs := by
  induction n generalizing cs with
  | zero => rw [List.replicate_zero, List.append_nil]
  | succ n ih =>
    have rest : words (List.replicate n ' ') = [] := ih []
    rw [List.replicate_succ, words_append, rest, List.append_nil]

theorem words_trimEnd (h : IsPrinted cs) : words (trimEnd cs) = words cs := by
  obtain ⟨after, whole, blank⟩ := exists_blank_after cs
  have spaces : after = List.replicate after.length ' ' := by
    refine List.eq_replicate_of_mem fun c hc => ?_
    have printed := h c (by rw [whole]; exact List.mem_append_right _ hc)
    exact (isBlank_of_printed printed).1 (blank c hc)
  conv_rhs => rw [whole, spaces, words_blanks]

theorem cut_append_of_blank {bs : List Char} (h : ∀ b ∈ bs, isBlank b = true) (widths : List Nat)
    (cs : List Char) : cut widths (cs ++ bs) = cut widths cs := by
  induction widths generalizing cs bs with
  | nil => rfl
  | cons n widths ih =>
    rw [cut, cut, List.take_append, List.drop_append,
      trim_append_of_blank fun b hb => h b (List.mem_of_mem_take hb),
      ih fun b hb => h b (List.mem_of_mem_drop hb)]

theorem cut_trimEnd (widths : List Nat) (cs : List Char) :
    cut widths (trimEnd cs) = cut widths cs := by
  obtain ⟨after, whole, blank⟩ := exists_blank_after cs
  conv_rhs => rw [whole, cut_append_of_blank blank]

theorem cut_intercalate {β : Type} {columns : List β} {width : β → Nat} {cell : β → List Char}
    (h : ∀ b ∈ columns, (cell b).length = width b) :
    cut (columns.map width) ([' ', ' '].intercalate (columns.map cell)) =
      columns.map fun b => trim (cell b) := by
  induction columns with
  | nil => rfl
  | cons b rest ih =>
    obtain ⟨first, others⟩ := List.forall_mem_cons.1 h
    cases rest with
    | nil =>
      rw [List.map_singleton, List.map_singleton, List.intercalate_singleton, cut, ← first,
        List.take_length]
      rfl
    | cons b' rest =>
      have length : width b + 2 = (cell b ++ [' ', ' ']).length := by
        rw [List.length_append, first]
        rfl
      have some : (b' :: rest).map cell ≠ [] := List.cons_ne_nil _ _
      change cut (width b :: (b' :: rest).map width)
        ([' ', ' '].intercalate (cell b :: (b' :: rest).map cell)) = _
      rw [List.intercalate_cons_of_ne_nil some, cut, length, List.drop_left, ih others,
        List.append_assoc, ← first, List.take_left]
      rfl

theorem splitAt_unlines {p : Char → Bool} (feed : p '\n' = true) {lines : List (List Char)}
    (some : lines ≠ []) (h : ∀ cs ∈ lines, ∀ c ∈ cs, p c = false) :
    splitAt p (unlines lines) = lines := by
  rw [unlines]
  induction lines with
  | nil => exact absurd rfl some
  | cons cs rest ih =>
    obtain ⟨first, others⟩ := List.forall_mem_cons.1 h
    cases rest with
    | nil => rw [List.intercalate_singleton, splitAt_of_none first]
    | cons cs' rest =>
      rw [List.intercalate_cons_cons, List.append_assoc, List.singleton_append,
        splitAt_ended first feed, ih (List.cons_ne_nil _ _) others]

/-- The rule under the headers, before blanks are taken away at its end. -/
theorem words_dashes {widths : List Int} (h : ∀ n ∈ widths, 0 < n) :
    words ([' ', ' '].intercalate (widths.map fun n => List.replicate n.toNat '-')) =
      widths.map fun n => List.replicate n.toNat '-' := by
  have dashes (n : Int) (hn : 0 < n) : words (List.replicate n.toNat '-') =
      [List.replicate n.toNat '-'] := by
    have plain : ∀ c ∈ List.replicate n.toNat '-', (c == ' ') = false := by
      intro c hc
      rw [List.eq_of_mem_replicate hc]
      decide
    have some : (List.replicate n.toNat '-').isEmpty = false := by
      rw [List.isEmpty_replicate, decide_eq_false_iff_not]
      omega
    rw [words, splitAt_of_none plain, List.filter_singleton, some]
    rfl
  induction widths with
  | nil => rfl
  | cons n rest ih =>
    obtain ⟨first, others⟩ := List.forall_mem_cons.1 h
    cases rest with
    | nil => rw [List.map_singleton, List.intercalate_singleton, dashes n first]
    | cons m rest =>
      have some : (m :: rest).map (fun n => List.replicate n.toNat '-') ≠ [] :=
        List.cons_ne_nil _ _
      change words ([' ', ' '].intercalate (List.replicate n.toNat '-' :: (m :: rest).map _)) = _
      -- There is nothing between the two blanks, so they part the same words as one would.
      rw [List.intercalate_cons_of_ne_nil some, List.append_assoc, List.cons_append, words_append,
        List.cons_append, List.nil_append, ← List.nil_append (' ' :: _), words_append,
        dashes n first, ih others]
      rfl

end

namespace Column
variable {α : Type} {columns : List (Column α)} {items : List α} {a : α}

theorem line_eq (cells : List (List Char)) :
    line cells = trimEnd ([' ', ' '].intercalate cells) := by
  simp [line, rowLine, Style.simple]

theorem printed_gap : IsPrinted [' ', ' '] := by decide

theorem printed_line {cells : List (List Char)} (h : ∀ cs ∈ cells, IsPrinted cs) :
    IsPrinted (line cells) := by
  have whole : IsPrinted ([' ', ' '].intercalate cells) := forall_mem_intercalate printed_gap h
  rw [line_eq]
  exact fun c hc => whole c ((prefix_trimEnd _).subset hc)

theorem cut_line (neat : ∀ c ∈ columns, c.IsNeat items) (ha : a ∈ items) :
    cut (columns.map fun c => (c.width items).toNat) (line (columns.map (·.filled items a))) =
      columns.map fun c => (c.shown items a).toList := by
  have length (c) (hc : c ∈ columns) : (c.filled items a).length = (c.width items).toNat := by
    rw [← ((neat c hc).fills ha).length, Int.toNat_natCast]
  rw [line_eq, cut_trimEnd, cut_intercalate length]
  exact List.map_congr_left fun c hc => ((neat c hc).fills ha).trimmed

theorem isPrinted_dashes (widths : List Int) :
    IsPrinted ([' ', ' '].intercalate (widths.map fun n => List.replicate n.toNat '-')) := by
  refine forall_mem_intercalate printed_gap fun cs hcs c hc => ?_
  obtain ⟨n, -, rfl⟩ := List.mem_map.1 hcs
  rw [List.eq_of_mem_replicate hc]
  decide

theorem ruleLine_eq (widths : List Int) : ruleLine widths ⟨[], '-', [' ', ' '], []⟩ =
    trimEnd ([' ', ' '].intercalate (widths.map fun n => List.replicate n.toNat '-')) := by
  simp [ruleLine]

theorem length_words_rule (neat : ∀ c ∈ columns, c.IsNeat items) :
    (words (ruleLine (columns.map (·.width items)) ⟨[], '-', [' ', ' '], []⟩)).map List.length =
      columns.map fun c => (c.width items).toNat := by
  have pos : ∀ n ∈ columns.map (·.width items), 0 < n := by
    intro n hn
    obtain ⟨c, hc, rfl⟩ := List.mem_map.1 hn
    exact (neat c hc).width_pos
  rw [ruleLine_eq, words_trimEnd (isPrinted_dashes _), words_dashes pos]
  simp only [List.map_map, Function.comp_def, List.length_replicate]

theorem printed_lines (neat : ∀ c ∈ columns, c.IsNeat items) :
    ∀ cs ∈ lines columns items, IsPrinted cs := by
  refine List.forall_mem_cons.2 ⟨?_, List.forall_mem_cons.2 ⟨?_, ?_⟩⟩
  · refine printed_line fun cs hcs => ?_
    obtain ⟨c, hc, rfl⟩ := List.mem_map.1 hcs
    exact (neat c hc).headed
  · rw [ruleLine_eq]
    exact fun c hc => isPrinted_dashes _ c ((prefix_trimEnd _).subset hc)
  · intro cs hcs
    obtain ⟨a, ha, rfl⟩ := List.mem_map.1 hcs
    refine printed_line fun cs hcs => ?_
    obtain ⟨c, hc, rfl⟩ := List.mem_map.1 hcs
    exact ((neat c hc).fills ha).printed

/-- The table of columns of texts. Each cell is found again as its column shows it. -/
theorem cellsOf_lines (neat : ∀ c ∈ columns, c.IsNeat items) :
    cellsOf (String.ofList (unlines (lines columns items))) =
      items.map fun a => columns.map fun c => c.shown items a := by
  have whole (cs) (hcs : cs ∈ lines columns items) (c) (hc : c ∈ cs) : (c == '\n') = false :=
    beq_eq_false_iff_ne.2 (ne_of_printed (printed_lines neat cs hcs c hc) (by decide))
  have some : lines columns items ≠ [] := List.cons_ne_nil _ _
  rw [cellsOf, String.toList_ofList, splitAt_unlines rfl some whole, lines]
  dsimp only
  rw [length_words_rule neat, List.map_map]
  refine List.map_congr_left fun a ha => ?_
  rw [Function.comp_apply, cut_line neat ha, List.map_map]
  exact List.map_congr_left fun c _ => String.ofList_toList

theorem escape_not_mem_unlines (neat : ∀ c ∈ columns, c.IsNeat items) :
    escapeChar ∉ unlines (lines columns items) := by
  refine fun escape => forall_mem_intercalate (P := (· ≠ escapeChar)) ?_ ?_ _ escape rfl
  · exact List.forall_mem_singleton.2 (by decide)
  · exact fun cs hcs c hc => ne_of_printed (printed_lines neat cs hcs c hc) (by decide)

end Column

end CiWorkflow.Table
