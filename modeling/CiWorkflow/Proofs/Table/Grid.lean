import CiWorkflow.Proofs.Table.Cell
import CiWorkflow.Table.Layout

/-! Tables with a row for each item of a list and a cell for each column. In such a table rows can
be turned into columns and back, and each column by itself decides what is done to its cells. -/

set_option autoImplicit false

namespace CiWorkflow.Table

open Text

theorem forall_mem_intercalate {P : Char → Prop} {gap : List Char} {texts : List (List Char)}
    (inside : ∀ c ∈ gap, P c) (h : ∀ cs ∈ texts, ∀ c ∈ cs, P c) :
    ∀ c ∈ gap.intercalate texts, P c := by
  induction texts with
  | nil => exact fun _ hc => absurd hc List.not_mem_nil
  | cons cs rest ih =>
    obtain ⟨first, others⟩ := List.forall_mem_cons.1 h
    cases rest with
    | nil => rwa [List.intercalate_singleton]
    | cons cs' rest =>
      rw [List.intercalate_cons_cons]
      exact List.forall_mem_append.2 ⟨List.forall_mem_append.2 ⟨first, inside⟩, ih others⟩

section Turning
variable {α β γ : Type}

theorem foldl_eq_of_stuck {op : α → α → α} {n : α} {ns : List α} (h : ∀ m ∈ ns, op n m = n) :
    ns.foldl op n = n := by
  induction ns with
  | nil => rfl
  | cons m ns ih =>
    obtain ⟨first, others⟩ := List.forall_mem_cons.1 h
    rw [List.foldl_cons, first, ih others]

theorem columnsOf_map {items : List α} (nonempty : items ≠ []) (columns : List β)
    (cell : β → α → Value) :
    columnsOf (items.map fun a => columns.map fun b => cell b a) =
      columns.map fun b => items.map (cell b) := by
  have count : ((items.map fun a => columns.map fun b => cell b a).map List.length).foldl max 0 =
      columns.length := by
    obtain ⟨a, rest, rfl⟩ := List.exists_cons_of_ne_nil nonempty
    rw [List.map_cons, List.map_cons, List.foldl_cons, List.length_map, Nat.zero_max]
    refine foldl_eq_of_stuck fun m hm => ?_
    obtain ⟨row, hrow, rfl⟩ := List.mem_map.1 hm
    obtain ⟨a, -, rfl⟩ := List.mem_map.1 hrow
    rw [List.length_map, Nat.max_self]
  rw [columnsOf, count]
  refine List.ext_getElem (by simp) fun i low high => ?_
  have within : i < columns.length := by simpa using low
  simp [within]

/-- Columns that have a cell for each item, turned back into rows. -/
theorem transpose_map {columns : List β} (nonempty : columns ≠ []) (items : List α)
    (cell : β → α → γ) :
    transpose (columns.map fun b => items.map (cell b)) =
      items.map fun a => columns.map fun b => cell b a := by
  obtain ⟨b, rest, rfl⟩ := List.exists_cons_of_ne_nil nonempty
  have height : ((rest.map fun b => items.map (cell b)).map List.length).foldl min
      (items.map (cell b)).length = items.length := by
    rw [List.length_map]
    refine foldl_eq_of_stuck fun m hm => ?_
    obtain ⟨column, hcolumn, rfl⟩ := List.mem_map.1 hm
    obtain ⟨b, -, rfl⟩ := List.mem_map.1 hcolumn
    rw [List.length_map, Nat.min_self]
  rw [List.map_cons, transpose, height, ← List.map_cons (f := fun b => items.map (cell b))]
  refine List.ext_getElem (by simp) fun i low high => ?_
  have within : i < items.length := by simpa using low
  simp [List.filterMap_map, within]

end Turning

section Aligning
variable {number : Bool} {least : Int} {cells : List (List Char)} {cs : List Char}

namespace View

def places (v : View) (cs : List Char) : Int :=
  match charsAfterPoint (v.seen cs) with
  | some n => n
  | none => -1

def readied (v : View) (number : Bool) (cells : List (List Char)) (cs : List Char) : List Char :=
  if number then cs ++ blanks (maxOf (-1) (cells.map v.places) - v.places cs) else trim cs

def columnWidth (v : View) (number : Bool) (least : Int) (cells : List (List Char)) : Int :=
  maxOf least ((cells.map (v.readied number cells)).map v.cellWidth)

def fitted (v : View) (number : Bool) (least : Int) (cells : List (List Char)) (cs : List Char) :
    List Char :=
  v.fillCell number (v.columnWidth number least cells) (v.readied number cells cs)

theorem alignColumn_eq (v : View) (number : Bool) (least : Int) (cells : List (List Char)) :
    v.alignColumn number least cells = cells.map (v.fitted number least cells) := by
  have ready : (if number then v.alignPoint cells else cells.map trim) =
      cells.map (v.readied number cells) := by
    cases number <;> rfl
  simp only [alignColumn, ready]
  exact List.map_map

def direct : View := ⟨false, false⟩

theorem measured_direct (cs : List Char) : direct.measured cs = [cs] := rfl

theorem width_direct (h : IsPrinted cs) : direct.width cs = cs.length := by
  rw [View.width, View.seen, direct, if_neg Bool.false_ne_true, width?_of_printed h]
  rfl

theorem cellWidth_direct (h : IsPrinted cs) : direct.cellWidth cs = cs.length := width_direct h

theorem fillCell_direct (h : IsPrinted cs) (number : Bool) (size : Int) :
    direct.fillCell number size cs =
      if number then blanks (size - cs.length) ++ cs else cs ++ blanks (size - cs.length) := by
  have filled : direct.fillCell number size cs =
      fillLine number size (direct.width cs) cs.length cs := rfl
  rw [filled, width_direct h, fillLine, Int.sub_add_cancel]

theorem exists_readied (h : IsNeat cs) (number : Bool) (cells : List (List Char)) :
    ∃ n : Nat, direct.readied number cells cs = cs ++ List.replicate n ' ' := by
  cases number with
  | true => exact ⟨_, rfl⟩
  | false => exact ⟨0, h.bare.trim_eq.trans (List.append_nil cs).symm⟩

theorem le_maxOf {n start : Int} {ns : List Int} (h : n ≤ start ∨ n ∈ ns) :
    n ≤ maxOf start ns := by
  rw [maxOf]
  induction ns generalizing start with
  | nil => exact h.resolve_right List.not_mem_nil
  | cons m ns ih =>
    refine ih ?_
    rcases h with h | h
    · exact .inl (Int.le_trans h (Int.le_max_left _ _))
    · rcases List.mem_cons.1 h with rfl | h
      · exact .inl (Int.le_max_right _ _)
      · exact .inr h

theorem exists_fitted (h : ∀ cs ∈ cells, IsNeat cs) (number : Bool) (least : Int)
    (among : cs ∈ cells) : ∃ before after : Nat,
      direct.fitted number least cells cs =
        List.replicate before ' ' ++ cs ++ List.replicate after ' ' ∧
      ((direct.fitted number least cells cs).length : Int) =
        direct.columnWidth number least cells := by
  obtain ⟨n, ready⟩ := exists_readied (h cs among) number cells
  have printed : IsPrinted (direct.readied number cells cs) :=
    ready ▸ isPrinted_append.2 ⟨(h cs among).printed, isPrinted_blanks n⟩
  have fits : direct.cellWidth (direct.readied number cells cs) ≤
      direct.columnWidth number least cells :=
    le_maxOf (.inr (List.mem_map_of_mem (List.mem_map_of_mem among)))
  rw [cellWidth_direct printed] at fits
  rw [fitted, fillCell_direct printed]
  generalize direct.columnWidth number least cells = size at fits
  rw [ready] at fits ⊢
  simp only [blanks]
  cases number with
  | true =>
    refine ⟨_, n, (List.append_assoc _ _ _).symm, ?_⟩
    simp only [if_true, List.length_append, List.length_replicate] at fits ⊢
    omega
  | false =>
    refine ⟨0, n + (size - (cs ++ List.replicate n ' ').length).toNat, ?_, ?_⟩
    · simp [List.append_assoc]
    · simp only [Bool.false_eq_true, if_false, List.length_append, List.length_replicate] at fits ⊢
      omega

/-- In its column a cell stands between blanks, and all cells take as much as the column. -/
structure Fills (filled cs : List Char) (size : Int) : Prop where
  printed : IsPrinted filled
  trimmed : trim filled = cs
  length : (filled.length : Int) = size

theorem fills_fitted (h : ∀ cs ∈ cells, IsNeat cs) (number : Bool) (least : Int)
    (among : cs ∈ cells) :
    Fills (direct.fitted number least cells cs) cs (direct.columnWidth number least cells) := by
  obtain ⟨before, after, whole, length⟩ := exists_fitted h number least among
  have neat := h cs among
  refine ⟨?_, ?_, length⟩
  · rw [whole]
    exact isPrinted_append.2 ⟨isPrinted_append.2 ⟨isPrinted_blanks before, neat.printed⟩,
      isPrinted_blanks after⟩
  · rw [whole]
    refine neat.bare.trim_around fun b hb => ?_
    rw [List.replicate_append_replicate] at hb
    rw [List.eq_of_mem_replicate hb]
    decide

theorem maxOf_fitted (h : ∀ cs ∈ cells, IsNeat cs) (some : cells ≠ []) (number : Bool)
    (least : Int) :
    maxOf least ((cells.map (direct.fitted number least cells)).map direct.cellWidth) =
      direct.columnWidth number least cells := by
  have width (cs) (among : cs ∈ cells) : direct.cellWidth (direct.fitted number least cells cs) =
      direct.columnWidth number least cells := by
    have fills := fills_fitted h number least among
    rw [cellWidth_direct fills.printed, fills.length]
  have low : least ≤ direct.columnWidth number least cells := le_maxOf (.inl (Int.le_refl _))
  generalize direct.columnWidth number least cells = size at width low
  obtain ⟨cs, rest, rfl⟩ := List.exists_cons_of_ne_nil some
  rw [List.map_map, List.map_cons, maxOf, List.foldl_cons, Function.comp_apply,
    width cs List.mem_cons_self, Int.max_eq_right low]
  refine foldl_eq_of_stuck fun n hn => ?_
  obtain ⟨cs', among, rfl⟩ := List.mem_map.1 hn
  rw [Function.comp_apply, width cs' (List.mem_cons_of_mem cs among), Int.max_self]

end View

end Aligning

/-- A column of texts: its header, and its cell for each item of a list. -/
structure Column (α : Type) where
  header : String
  cell : α → String

namespace Column
variable {α : Type} {c : Column α} {columns : List (Column α)} {items : List α} {a : α}

def kind (c : Column α) (items : List α) : Kind := columnKind (items.map fun a => .text (c.cell a))

/-- What is shown in a cell. The kind of the column is decided by all its cells. -/
def shown (c : Column α) (items : List α) (a : α) : String := (c.kind items).shows (c.cell a)

def cells (c : Column α) (items : List α) : List (List Char) :=
  items.map fun a => (c.shown items a).toList

def least (c : Column α) : Int := View.direct.cellWidth c.header.toList + 2

def width (c : Column α) (items : List α) : Int :=
  View.direct.columnWidth (c.kind items).isNumber c.least (c.cells items)

def filled (c : Column α) (items : List α) (a : α) : List Char :=
  View.direct.fitted (c.kind items).isNumber c.least (c.cells items) (c.shown items a).toList

def headed (c : Column α) (items : List α) : List Char :=
  View.direct.alignHeader (c.kind items).isNumber (c.width items) c.header.toList

/-- The texts of the column are printable ASCII, and its cells have no white space around them. -/
structure IsNeat (c : Column α) (items : List α) : Prop where
  header : IsPrinted c.header.toList
  cell : ∀ a ∈ items, Text.IsNeat (c.cell a).toList

theorem IsNeat.cells (h : c.IsNeat items) : ∀ cs ∈ c.cells items, Text.IsNeat cs := by
  intro cs among
  obtain ⟨a, ha, rfl⟩ := List.mem_map.1 among
  exact isNeat_shows (h.cell a ha) _

theorem IsNeat.fills (h : c.IsNeat items) (ha : a ∈ items) :
    View.Fills (c.filled items a) (c.shown items a).toList (c.width items) :=
  View.fills_fitted h.cells _ _ (List.mem_map_of_mem ha)

theorem IsNeat.width_pos (h : c.IsNeat items) : 0 < c.width items := by
  have low : c.least ≤ c.width items := View.le_maxOf (.inl (Int.le_refl _))
  rw [least, View.cellWidth_direct h.header] at low
  omega

theorem IsNeat.headed (h : c.IsNeat items) : IsPrinted (c.headed items) := by
  rw [Column.headed, View.alignHeader, View.measured_direct, List.map_singleton, unlines,
    List.intercalate_singleton, fillLine]
  split
  · exact isPrinted_append.2 ⟨isPrinted_blanks _, h.header⟩
  · exact isPrinted_append.2 ⟨h.header, isPrinted_blanks _⟩

theorem map_fitted (c : Column α) (items : List α) :
    (c.cells items).map (View.direct.fitted (c.kind items).isNumber c.least (c.cells items)) =
      items.map (c.filled items) := List.map_map

theorem aligned_eq (columns : List (Column α)) (items : List α) :
    (columns.map fun c => View.direct.alignColumn (c.kind items).isNumber c.least
      (c.cells items)) = columns.map fun c => items.map (c.filled items) :=
  List.map_congr_left fun c _ => (View.alignColumn_eq _ _ _ _).trans (c.map_fitted items)

theorem IsNeat.width_eq (h : c.IsNeat items) (nonempty : items ≠ []) :
    maxOf c.least (items.map fun a => View.direct.cellWidth (c.filled items a)) =
      c.width items := by
  have some : c.cells items ≠ [] := by simpa [Column.cells] using nonempty
  have most := View.maxOf_fitted h.cells some (c.kind items).isNumber c.least
  rw [map_fitted, List.map_map] at most
  exact most

theorem withDividers_none {β : Type} (rows : α → β) :
    withDividers (items.map fun _ => false) (items.map rows) =
      items.map fun a => Row.cells (rows a) := by
  induction items with
  | nil => rfl
  | cons a items ih => exact congrArg (Row.cells (rows a) :: ·) ih

/-- The table laid out: headers, rows and widths, column by column. -/
theorem ofCells_map (some : columns ≠ []) (nonempty : items ≠ [])
    (neat : ∀ c ∈ columns, c.IsNeat items) :
    Grid.ofCells .direct (columns.map fun c => c.header.toList) (columns.map (·.kind items))
        (columns.map (·.cells items)) (items.map fun _ => false) =
      ⟨columns.map (·.headed items),
        items.map fun a => .cells (columns.map fun c => c.filled items a),
        columns.map (·.width items)⟩ := by
  have filled {β : Type} (f : Column α → β) : (columns.map f).isEmpty = false := by
    simpa using some
  have least (c : Column α) : View.direct.cellWidth c.header.toList + 2 = c.least := rfl
  simp only [Grid.ofCells, filled, Bool.false_eq_true, if_false, List.map_map, List.zip_map',
    Function.comp_def, least, aligned_eq]
  rw [transpose_map some, withDividers_none]
  rw [Grid.mk.injEq]
  refine ⟨List.map_congr_left fun c hc => ?_, rfl, List.map_congr_left fun c hc => ?_⟩
  · rw [(neat c hc).width_eq nonempty, headed]
  · exact (neat c hc).width_eq nonempty

/-- A row of cells as a line of the table. -/
def line (cells : List (List Char)) : List Char := rowLine .simple cells

/-- The lines of the table: one of headers, the rule under it, and one for each item. -/
def lines (columns : List (Column α)) (items : List α) : List (List Char) :=
  line (columns.map (·.headed items))
    :: ruleLine (columns.map (·.width items)) ⟨[], '-', [' ', ' '], []⟩
    :: items.map fun a => line (columns.map fun c => c.filled items a)

theorem padded_simple (cell : List Char) : Style.simple.padded cell = cell := by
  simp [Style.padded, Style.simple]

theorem not_divider (neat : ∀ c ∈ columns, c.IsNeat items) (ha : a ∈ items) :
    ((columns.map fun c => c.filled items a).take 2).any (trim · == dividerText) = false := by
  refine List.any_eq_false.2 fun cs among => ?_
  obtain ⟨c, hc, rfl⟩ := List.mem_map.1 (List.mem_of_mem_take among)
  rw [((neat c hc).fills ha).trimmed, beq_iff_eq]
  intro mark
  have printed := (isNeat_shows ((neat c hc).cell a ha) (c.kind items)).printed
  rw [← shown, mark] at printed
  exact absurd printed (by decide)

theorem cellLines_simple (g : Grid) (cells : List (List Char)) :
    g.cellLines .simple false cells = [line cells] := by
  have same : cells.map Style.simple.padded = cells :=
    (List.map_congr_left fun cell _ => padded_simple cell).trans (List.map_id _)
  rw [Grid.cellLines, rowLines, if_neg Bool.false_ne_true, same, line]

theorem ruleLines_simple (g : Grid) :
    g.ruleLines .simple Style.simple.underHeader =
      [ruleLine g.widths ⟨[], '-', [' ', ' '], []⟩] := by
  have same : (g.widths.map fun n => n + 2 * (Style.simple.padding : Int)) = g.widths :=
    (List.map_congr_left fun n _ => Int.add_zero n).trans (List.map_id _)
  rw [Grid.ruleLines, same]
  rfl

theorem looseLines_map (neat : ∀ c ∈ columns, c.IsNeat items) (headers : List (List Char))
    (widths : List Int) :
    (Grid.mk headers (items.map fun a => .cells (columns.map fun c => c.filled items a))
      widths).looseLines .simple false =
        items.map fun a => line (columns.map (·.filled items a)) := by
  rw [Grid.looseLines, List.flatMap_map]
  refine (List.flatMap_congr fun a ha => ?_).trans List.map_eq_flatMap.symm
  dsimp only
  rw [not_divider neat ha, Bool.and_false, if_neg Bool.false_ne_true, cellLines_simple]

theorem grid_lines (some : columns ≠ []) (neat : ∀ c ∈ columns, c.IsNeat items) :
    (Grid.mk (columns.map (·.headed items))
      (items.map fun a => .cells (columns.map fun c => c.filled items a))
      (columns.map (·.width items))).lines .simple false = .ok (lines columns items) := by
  have headers : (columns.map (·.headed items)).isEmpty = false := by simpa using some
  have between : Style.simple.between.isSome = false := rfl
  have bare : Style.simple.bareHeader = true := rfl
  simp only [Grid.lines, headers, between, bare, looseLines_map neat, cellLines_simple,
    ruleLines_simple, Bool.not_false, Bool.and_self, Bool.false_eq_true, if_false, if_true,
    List.nil_append, List.append_nil]
  rfl

theorem view_of_printed {texts : List (List Char)} (h : ∀ cs ∈ texts, IsPrinted cs) :
    View.ofTexts .simple texts = .direct := by
  have whole : texts.any (·.any isBreak) = false := by
    refine List.any_eq_false.2 fun cs hcs broken => ?_
    obtain ⟨c, hc, isBreak⟩ := List.any_eq_true.1 broken
    rcases Bool.or_eq_true_iff.1 isBreak with feed | back
    · exact ne_of_printed (h cs hcs c hc) (by decide) (beq_iff_eq.1 feed)
    · exact ne_of_printed (h cs hcs c hc) (by decide) (beq_iff_eq.1 back)
  have quiet : escapeChar ∉ ['\t'].intercalate texts := by
    refine fun escape => forall_mem_intercalate (P := (· ≠ escapeChar)) ?_ ?_ _ escape rfl
    · exact List.forall_mem_singleton.2 (by decide)
    · exact fun cs hcs c hc => ne_of_printed (h cs hcs c hc) (by decide)
  rw [View.ofTexts, whole, Bool.and_false, hasInvisible, visible_of_no_escape quiet,
    bne_self_eq_false]
  rfl

theorem mapM_eq_ok {ε β : Type} {f : α → Except ε β} {g : α → β}
    (h : ∀ a ∈ items, f a = .ok (g a)) : items.mapM f = .ok (items.map g) := by
  induction items with
  | nil => rfl
  | cons a items ih =>
    obtain ⟨first, others⟩ := List.forall_mem_cons.1 h
    rw [List.mapM_cons, first, ih others]
    rfl

def rows (columns : List (Column α)) (items : List α) : List (List Value) :=
  items.map fun a => columns.map fun c => .text (c.cell a)

theorem padHeaders_rows (some : columns ≠ []) (nonempty : items ≠ []) :
    padHeaders (columns.map (·.header)) (rows columns items) = columns.map (·.header) := by
  obtain ⟨a, rest, rfl⟩ := List.exists_cons_of_ne_nil nonempty
  have headers : (columns.map (·.header)).isEmpty = false := by simpa using some
  simp only [rows, List.map_cons, padHeaders, headers, Bool.false_eq_true, if_false,
    List.length_map, Nat.sub_self]
  rfl

theorem isDivider_row (neat : ∀ c ∈ columns, c.IsNeat items) (ha : a ∈ items) :
    isDivider (columns.map fun c => .text (c.cell a)) = false := by
  refine List.any_eq_false.2 fun v hv => ?_
  obtain ⟨c, hc, rfl⟩ := List.mem_map.1 (List.mem_of_mem_take hv)
  have cell := (neat c hc).cell a ha
  dsimp only
  rw [cell.bare.trim_eq, beq_iff_eq]
  intro mark
  have printed := cell.printed
  rw [mark] at printed
  exact absurd printed (by decide)

theorem cells_ok (neat : ∀ c ∈ columns, c.IsNeat items) :
    (columns.map fun c => (items.map fun a => Value.text (c.cell a), c.kind items)).mapM
      (fun p => p.1.mapM (cellText p.2 false)) =
      .ok (columns.map fun c => items.map fun a => c.shown items a) := by
  rw [List.mapM_map]
  refine mapM_eq_ok fun c hc => ?_
  rw [Function.comp_apply, List.mapM_map]
  refine mapM_eq_ok fun a ha => ?_
  have cell := ((neat c hc).cell a ha).printed
  exact cellText_of_no_escape (cell.not_mem (by decide)) _

theorem dividers_rows (neat : ∀ c ∈ columns, c.IsNeat items) :
    (rows columns items).map isDivider = items.map fun _ => false := by
  rw [rows, List.map_map]
  exact List.map_congr_left fun a ha => isDivider_row neat ha

theorem filter_rows (neat : ∀ c ∈ columns, c.IsNeat items) :
    (rows columns items).filter (fun row => !isDivider row) = rows columns items := by
  refine List.filter_eq_self.2 fun row hrow => ?_
  obtain ⟨a, ha, rfl⟩ := List.mem_map.1 hrow
  rw [isDivider_row neat ha]
  rfl

theorem view_rows (neat : ∀ c ∈ columns, c.IsNeat items) :
    View.ofTexts .simple ((columns.map (·.header)).map String.toList ++
      (rows columns items).flatMap (·.map plainText)) = .direct := by
  refine view_of_printed fun cs hcs => ?_
  rcases List.mem_append.1 hcs with header | cell
  · obtain ⟨s, hs, rfl⟩ := List.mem_map.1 header
    obtain ⟨c, hc, rfl⟩ := List.mem_map.1 hs
    exact (neat c hc).header
  · obtain ⟨row, hrow, among⟩ := List.mem_flatMap.1 cell
    obtain ⟨a, ha, rfl⟩ := List.mem_map.1 hrow
    obtain ⟨v, hv, rfl⟩ := List.mem_map.1 among
    obtain ⟨c, hc, rfl⟩ := List.mem_map.1 hv
    exact ((neat c hc).cell a ha).printed

theorem render_rows (some : columns ≠ []) (nonempty : items ≠ [])
    (neat : ∀ c ∈ columns, c.IsNeat items) :
    render .simple (columns.map (·.header)) (rows columns items) =
      .ok (String.ofList (unlines (lines columns items))) := by
  have turned : columnsOf (rows columns items) =
      columns.map fun c => items.map fun a => Value.text (c.cell a) :=
    columnsOf_map nonempty columns fun c a => .text (c.cell a)
  have kind (c : Column α) : columnKind (items.map fun a => .text (c.cell a)) = c.kind items := rfl
  have texts : ((columns.map fun c => items.map fun a => c.shown items a).map fun column =>
      column.map String.toList) = columns.map (·.cells items) := by
    simp only [List.map_map, Function.comp_def, cells]
  have shown : (columns.map (·.headed items)).isEmpty = false := by simpa using some
  have folds : View.direct.folds = false := rfl
  have hides : View.direct.hides = false := rfl
  rw [render, padHeaders_rows some nonempty, filter_rows neat, view_rows neat, turned,
    dividers_rows neat, hides, folds]
  simp only [List.map_map, List.zip_map', Function.comp_def, kind]
  rw [cells_ok neat]
  simp only [bind, Except.bind, texts, ofCells_map some nonempty neat, shown, Bool.false_and,
    Bool.false_eq_true, if_false, grid_lines some neat]
  rfl

end Column

theorem exists_mapM {ε α β : Type} {f : α → Except ε β} {items : List α}
    (h : ∀ a ∈ items, ∃ b, f a = .ok b) : ∃ bs, items.mapM f = .ok bs := by
  induction items with
  | nil => exact ⟨[], rfl⟩
  | cons a items ih =>
    obtain ⟨⟨b, first⟩, others⟩ := List.forall_mem_cons.1 h
    obtain ⟨bs, rest⟩ := ih others
    exact ⟨b :: bs, by rw [List.mapM_cons, first, rest]; rfl⟩

theorem of_mem_columnsOf {rows : List (List Value)} {column : List Value} {v : Value}
    (h : column ∈ columnsOf rows) (hv : v ∈ column) : v = .null ∨ ∃ row ∈ rows, v ∈ row := by
  obtain ⟨i, -, rfl⟩ := List.mem_map.1 h
  obtain ⟨row, hrow, rfl⟩ := List.mem_map.1 hv
  cases found : row[i]? with
  | none => exact .inl rfl
  | some v => exact .inr ⟨row, hrow, List.mem_of_getElem? found⟩

theorem exists_render (headers : List String) {rows : List (List Value)}
    (h : ∀ row ∈ rows, ∀ v ∈ row, ∃ s, v = .text s) :
    ∃ text, render .simple headers rows = .ok text := by
  have cells (view : View) : ∃ cells, ((columnsOf (rows.filter fun row => !isDivider row)).zip
      ((columnsOf (rows.filter fun row => !isDivider row)).map columnKind)).mapM
        (fun p => p.1.mapM (cellText p.2 view.hides)) = .ok cells := by
    refine exists_mapM fun p hp => exists_mapM fun v hv => exists_cellText _ _ ?_
    refine (of_mem_columnsOf (List.of_mem_zip hp).1 hv).imp_right ?_
    rintro ⟨row, hrow, among⟩
    exact h row (List.mem_filter.1 hrow).1 v among
  obtain ⟨columns, fine⟩ := cells (View.ofTexts .simple
    (((padHeaders headers rows).map String.toList) ++
      (rows.filter fun row => !isDivider row).flatMap (·.map plainText)))
  rw [render, fine]
  simp only [bind, Except.bind]
  split
  · exact ⟨_, rfl⟩
  · exact ⟨_, rfl⟩

end CiWorkflow.Table
