import CiWorkflow.Table.Cell
import CiWorkflow.Text.Lines
import CiWorkflow.Text.Width

set_option autoImplicit false

namespace CiWorkflow.Table

open Text

structure Rule where
  left : List Char
  fill : Char
  cross : List Char
  right : List Char

structure Frame where
  left : List Char
  gap : List Char
  right : List Char

structure Style where
  above : Option Rule
  underHeader : Option Rule
  between : Option Rule
  below : Option Rule
  frame : Frame
  /-- The number of blanks on both sides of a cell. -/
  padding : Nat
  /-- With a header there is no line above and none below. -/
  bareHeader : Bool
  /-- Cells of many lines are known. -/
  folds : Bool

def Style.simple : Style :=
  let rule : Rule := ⟨[], '-', [' ', ' '], []⟩
  ⟨rule, rule, none, rule, ⟨[], [' ', ' '], []⟩, 0, true, true⟩

def Style.plain : Style := ⟨none, none, none, none, ⟨[], [' ', ' '], []⟩, 0, false, true⟩

def Style.grid : Style :=
  let rule (c : Char) : Rule := ⟨['+'], c, ['+'], ['+']⟩
  ⟨rule '-', rule '=', rule '-', rule '-', ⟨['|'], ['|'], ['|']⟩, 1, false, true⟩

def Style.github : Style :=
  let rule : Rule := ⟨['|'], '-', ['|'], ['|']⟩
  ⟨rule, rule, none, none, ⟨['|'], ['|'], ['|']⟩, 1, true, true⟩

def Style.named : List (String × Style) := [
  ("simple", .simple),
  ("plain", .plain),
  ("grid", .grid),
  ("github", .github)]

/-- An unknown name stands for the simple style, but without folding. -/
def Style.ofName (name : String) : Style :=
  (named.lookup name).getD { Style.simple with folds := false }

/-- The line for a divider where no line stands between rows: a blank one if there is no other. -/
def Style.dividing (style : Style) : Rule :=
  ((style.underHeader <|> style.below <|> style.above).getD ⟨[], ' ', [], []⟩)

structure View where
  /-- A cell of many lines takes as many lines of the table. -/
  folds : Bool
  /-- Control sequences occur, and take no columns. -/
  hides : Bool

def View.seen (v : View) (cs : List Char) : List Char := if v.hides then visible cs else cs

/-- Columns taken; a text with control characters counts as less than empty. -/
def View.width (v : View) (cs : List Char) : Int := (width? (v.seen cs)).getD (-1)

def blanks (n : Int) : List Char := List.replicate n.toNat ' '

def isBreak (c : Char) : Bool := c == '\n' || c == '\r'

def View.measured (v : View) (cs : List Char) : List (List Char) :=
  if v.folds then splitAt isBreak cs else [cs]

def maxOf (start : Int) (ns : List Int) : Int := ns.foldl max start

def View.cellWidth (v : View) (cs : List Char) : Int :=
  match (v.measured cs).map v.width with
  | [] => 0
  | n :: rest => maxOf n rest

def fillLine (number : Bool) (size width : Int) (length : Nat) (cs : List Char) : List Char :=
  let n := size - width + length - cs.length
  if number then blanks n ++ cs else cs ++ blanks n

def unlines (lines : List (List Char)) : List Char := ['\n'].intercalate lines

/-- Fills the lines of a cell up; what is measured and what is filled may differ in lines. -/
def View.fillCell (v : View) (number : Bool) (size : Int) (cs : List Char) : List Char :=
  let fill (m line : List Char) : List Char := fillLine number size (v.width m) m.length line
  if v.folds then unlines (((lines cs).zip (v.measured cs)).map fun p => fill p.2 p.1)
  else fill cs cs

/-- Numbers get as many characters after the point as the longest of them. -/
def View.alignPoint (v : View) (cells : List (List Char)) : List (List Char) :=
  let places (cs : List Char) : Int := match charsAfterPoint (v.seen cs) with
    | some n => n
    | none => -1
  let most := maxOf (-1) (cells.map places)
  cells.map fun cs => cs ++ blanks (most - places cs)

def View.alignColumn (v : View) (number : Bool) (least : Int) (cells : List (List Char)) :
    List (List Char) :=
  let cells := if number then v.alignPoint cells else cells.map trim
  let size := maxOf least (cells.map v.cellWidth)
  cells.map (v.fillCell number size)

def View.alignHeader (v : View) (number : Bool) (size : Int) (cs : List Char) : List Char :=
  unlines ((v.measured cs).map fun line =>
    fillLine number size (v.width line) line.length line)

def ruleLine (widths : List Int) (r : Rule) : List Char :=
  trimEnd (r.left ++ r.cross.intercalate (widths.map fun n => List.replicate n.toNat r.fill)
    ++ r.right)

def Style.padded (style : Style) (cell : List Char) : List Char :=
  let pad := List.replicate style.padding ' '
  pad ++ cell ++ pad

def rowLine (style : Style) (cells : List (List Char)) : List Char :=
  trimEnd (style.frame.left ++ style.frame.gap.intercalate cells ++ style.frame.right)

def rowLines (style : Style) (folds : Bool) (widths : List Int) (cells : List (List Char)) :
    List (List Char) :=
  if folds then
    let columns := cells.map lines
    let height := (columns.map List.length).foldl max 0
    (List.range height).map fun i => rowLine style
      ((columns.zip widths).map fun p => style.padded ((p.1[i]?).getD (blanks p.2)))
  else [rowLine style (cells.map style.padded)]

def transpose {α : Type} (lists : List (List α)) : List (List α) :=
  match lists with
  | [] => []
  | first :: rest =>
    let height := (rest.map List.length).foldl min first.length
    (List.range height).map fun i => lists.filterMap (·[i]?)

def columnsOf (rows : List (List Value)) : List (List Value) :=
  let count := (rows.map List.length).foldl max 0
  (List.range count).map fun i => rows.map fun row => (row[i]?).getD .null

/-- As many headers as the first row has cells, the missing ones in front. -/
def padHeaders (headers : List String) (rows : List (List Value)) : List String :=
  match rows with
  | row :: _ =>
    if headers.isEmpty then [] else List.replicate (row.length - headers.length) "" ++ headers
  | [] => headers

inductive Row (α : Type) where
  | divider
  | cells (cs : α)
  deriving DecidableEq, Repr

def dividerText : List Char := ['\x01']

def isDivider (row : List Value) : Bool :=
  (row.take 2).any fun v => match v with
    | .text s => trim s.toList == dividerText
    | _ => false

def withDividers {α : Type} : (dividers : List Bool) → List α → List (Row α)
  | [], _ => []
  | true :: more, rows => .divider :: withDividers more rows
  | false :: more, row :: rows => .cells row :: withDividers more rows
  | false :: more, [] => withDividers more []

structure Grid where
  headers : List (List Char)
  rows : List (Row (List (List Char)))
  widths : List Int

namespace Grid

def ruleLines (g : Grid) (style : Style) (r : Option Rule) : List (List Char) :=
  (r.map (ruleLine (g.widths.map (· + 2 * style.padding)))).toList

def cellLines (g : Grid) (style : Style) (folds : Bool) (cells : List (List Char)) :
    List (List Char) := rowLines style folds g.widths cells

/-- Rows without lines between them. A row counts as a divider also by the text of its cells. -/
def looseLines (g : Grid) (style : Style) (folds : Bool) : List (List Char) :=
  g.rows.flatMap fun
    | .divider => g.ruleLines style style.dividing
    | .cells cs =>
      if !folds && (cs.take 2).any (trim · == dividerText) then
        g.ruleLines style style.dividing
      else g.cellLines style folds cs

/-- Rows with a line after each but the last one. A divider is the line after nothing, or at the
end a row by itself. There are no more lines than rows of cells. -/
def ruledLines (g : Grid) (style : Style) (folds : Bool) : Except Fault (List (List Char)) :=
  let count := g.rows.countP fun
    | .divider => false
    | .cells _ => true
  let row : Row (List (List Char)) → List (List Char)
    | .divider => []
    | .cells cs => g.cellLines style folds cs
  match g.rows.getLast? with
  | none => .ok []
  | some last =>
    if count == 0 then .error .onlyDividers
    else
      let first := (g.rows.dropLast.take count).flatMap fun r =>
        row r ++ g.ruleLines style style.between
      .ok <| first ++ match last with
        | .divider => if folds then g.cellLines style folds [dividerText]
          else [rowLine style [dividerText]]
        | .cells cs => g.cellLines style folds cs

def lines (g : Grid) (style : Style) (folds : Bool) : Except Fault (List (List Char)) := do
  let outer (r : Option Rule) : List (List Char) :=
    if style.bareHeader && !g.headers.isEmpty then [] else g.ruleLines style r
  let rows ← if style.between.isSome then g.ruledLines style folds
    else pure (g.looseLines style folds)
  pure (outer style.above
    ++ (if g.headers.isEmpty then []
      else g.cellLines style folds g.headers ++ g.ruleLines style style.underHeader)
    ++ rows
    ++ outer style.below)

/-- Lays a table out: no column is narrower than its header and two blanks. -/
def ofCells (v : View) (headers : List (List Char)) (kinds : List Kind)
    (columns : List (List (List Char))) (dividers : List Bool) : Grid :=
  let least := if headers.isEmpty then columns.map fun _ => 0
    else headers.map fun h => v.cellWidth h + 2
  let numbers := kinds.map Kind.isNumber
  let aligned := (columns.zip (numbers.zip least)).map fun p => v.alignColumn p.2.1 p.2.2 p.1
  let measuredColumns := if aligned.isEmpty then headers.map fun _ => [[]] else aligned
  let widths := (least.zip measuredColumns).map fun p => maxOf p.1 (p.2.map v.cellWidth)
  let sides := if numbers.isEmpty then headers.map fun _ => false else numbers
  { headers := (headers.zip (sides.zip widths)).map fun p => v.alignHeader p.2.1 p.2.2 p.1
    rows := withDividers dividers (transpose aligned)
    widths := widths }

end Grid

def plainText : Value → List Char
  | .bytes bs => match String.fromUTF8? ⟨bs.toArray⟩ with
    | some s => s.toList
    | none => charsOfBytes (bs.filter (· < 128))
  | v => v.shown.toList

def View.ofTexts (style : Style) (texts : List (List Char)) : View :=
  ⟨style.folds && texts.any (·.any isBreak), hasInvisible (['\t'].intercalate texts)⟩

def render (style : Style) (headers : List String) (rows : List (List Value)) :
    Except Fault String := do
  let headers := (padHeaders headers rows).map String.toList
  let dividers := rows.map isDivider
  let rows := rows.filter fun row => !isDivider row
  let view := View.ofTexts style (headers ++ rows.flatMap (·.map plainText))
  let columns := columnsOf rows
  let kinds := columns.map columnKind
  let cells ← (columns.zip kinds).mapM fun p => p.1.mapM (cellText p.2 view.hides)
  let grid := Grid.ofCells view headers kinds (cells.map fun c => c.map String.toList) dividers
  if grid.headers.isEmpty && grid.rows.isEmpty then pure ""
  else pure (String.ofList (unlines (← grid.lines style view.folds)))

end CiWorkflow.Table
