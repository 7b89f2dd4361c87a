import CiWorkflow.Text.Class
import CiWorkflow.Text.Lines
import CiWorkflow.Text.Width

/-! Lines of a limited width: tabulators become blanks, words move to the next line where they do
not fit, and words that fit in no line are cut. -/

set_option autoImplicit false

namespace CiWorkflow.Text

structure Cluster where
  chars : List Char
  columns : Nat
  deriving DecidableEq, Repr

def Cluster.extend (g : Cluster) (cs : List Char) (columns : Nat) : Cluster :=
  ⟨g.chars ++ cs, g.columns + columns⟩

/-- Continues with clusters, the latest first. A joiner takes the character after it along. Of
`base`, the latest character with columns, a selector can make a wide picture once. -/
def clustersFrom : List Cluster → (base : Option Char) → List Char → List Cluster
  | done, _, [] => done.reverse
  | [], base, c :: r =>
    let n := (columns? c).getD 0
    clustersFrom [⟨[c], n⟩] (if n == 0 then base else some c) r
  | g :: done, base, c :: r =>
    if c == joiner then
      match r with
      | d :: r => clustersFrom (g.extend [c, d] 0 :: done) base r
      | [] => clustersFrom (g.extend [c] 0 :: done) base []
    else if c == '\ufe0f' then
      let isWidened := base.any fun b => inRanges widenedRanges b.toNat
      clustersFrom (g.extend [c] (if isWidened then 1 else 0) :: done)
        (if isWidened then none else base) r
    else match (columns? c).getD 0 with
      | 0 => clustersFrom (g.extend [c] 0 :: done) base r
      | n => clustersFrom (⟨[c], n⟩ :: g :: done) (some c) r

def clusters (cs : List Char) : List Cluster := clustersFrom [] none cs

def columnCount (cs : List Char) : Nat := (clusters cs).foldr (fun g n => g.columns + n) 0

/-- Pieces of at most `width` columns; `line` is the piece begun, and takes `size` columns. -/
def chopFrom (width : Nat) : (line : List Char) → (size : Nat) → List Cluster → List (List Char)
  | line, size, [] => if size == 0 then [] else [line]
  | line, size, g :: gs =>
    if width < size + g.columns then line :: chopFrom width g.chars g.columns gs
    else chopFrom width (line ++ g.chars) (size + g.columns) gs

def chop (width : Nat) (cs : List Char) : List (List Char) := chopFrom width [] 0 (clusters cs)

def wordsWithin : (fuel : Nat) → List Char → List (List Char)
  | 0, _ => []
  | fuel + 1, cs =>
    let lead := cs.takeWhile isBlank
    let r := cs.drop lead.length
    let body := r.takeWhile fun c => !isBlank c
    let r := r.drop body.length
    let tail := r.takeWhile isBlank
    if body.isEmpty then []
    else (lead ++ body ++ tail) :: wordsWithin fuel (r.drop tail.length)

/-- Words with the blanks after them, the first also with those before it. Blanks alone are no
word. -/
def words (cs : List Char) : List (List Char) := wordsWithin cs.length cs

def pieceBreaks : (start : Nat) → List (List Char) → List Nat
  | _, [] => []
  | start, piece :: rest =>
    (if start == 0 then [] else [start]) ++ pieceBreaks (start + piece.length) rest

/-- Places where lines are to be broken. A word begins at `start`, after `used` columns of its
line. -/
def breaks (width : Nat) : (start used : Nat) → List (List Char) → List Nat
  | _, _, [] => []
  | start, used, word :: rest =>
    let next := start + word.length
    let size := columnCount (trimEnd word)
    if used + size ≤ width then breaks width next (used + columnCount word) rest
    else if width < size then
      let pieces := chop width word
      pieceBreaks start pieces
        ++ breaks width next ((pieces.getLast?.map columnCount).getD used) rest
    else if used == 0 || start == 0 then breaks width next used rest
    else start :: breaks width next (columnCount word) rest

def cutAt : (position : Nat) → List Nat → List Char → List (List Char)
  | _, [], cs => [cs]
  | position, place :: places, cs =>
    cs.take (place - position) :: cutAt place places (cs.drop (place - position))

def dropExcess (width : Nat) (cs : List Char) : List Char :=
  let count := (cs.reverse.takeWhile isBlank).length
  cs.take (cs.length - min count (cs.length - width))

def cropFrom (width : Nat) : (size : Nat) → List Cluster → List Char
  | _, [] => []
  | size, g :: gs =>
    if size + g.columns ≤ width then g.chars ++ cropFrom width (size + g.columns) gs
    else List.replicate (width - size) ' '

def crop (width : Nat) (cs : List Char) : List Char := cropFrom width 0 (clusters cs)

def wrapLine (width : Nat) (cs : List Char) : List (List Char) :=
  (cutAt 0 (breaks width 0 0 (words cs)) cs).map fun line => crop width (dropExcess width line)

/-- Fills each tabulator up with blanks, one at least, to a column that is a multiple of eight. -/
def expandTabs (column : Nat) : List (List Char) → List Char
  | [] => []
  | [last] => last
  | part :: rest =>
    let stop := (column + columnCount part) / 8 * 8 + 8
    part ++ List.replicate (stop - column - columnCount part) ' ' ++ expandTabs stop rest

/-- Controls that move the cursor or ring, of those that are no line end of a text. -/
def isSilent (c : Char) : Bool := ['\x07', '\x08', '\x0b', '\x0c', '\r'].contains c

def laidOut (width : Nat) (cs : List Char) : List Char :=
  let rows := splitAt (· == '\n') (cs.filter fun c => !isSilent c)
  ['\n'].intercalate <| rows.flatMap fun row =>
    wrapLine width (expandTabs 0 (splitAt (· == '\t') row))

end CiWorkflow.Text
