import TwinNode.Console.Layout
import TwinNode.Rounding

/-! A table has a head and rows of cells; a cell may have several lines. A column is as wide
as its longest line, with a blank on both sides, as long as the table fits on the console;
the frame of the head is drawn heavier than that of the rows. Columns are measured before
tabs are expanded, so a cell with tabs may be broken. -/

namespace TwinNode

open TwinNode.Console

structure Table where
  title : Option String := none
  head : List (List Char)
  rows : List (List (List Char))
  deriving DecidableEq, Repr

namespace Table

/-- A character that ends a line when a text is measured. -/
def endsLine (c : Char) : Bool :=
  c == '\n' || (0x1C ≤ c.toNat && c.toNat ≤ 0x1E) || c == '\u0085' || c == '\u2028' || c == '\u2029'

/-- The width of the widest line of a text. -/
def textWidth (text : List Char) : Nat :=
  (Text.splitWhere endsLine text).foldl (fun n line => max n (width line)) 0

/-- The widths of the columns, with the blanks on both sides, as the texts ask for them. -/
def wantedWidths (t : Table) : List Nat :=
  let widest :=
    t.rows.foldl (fun ws row => List.zipWith max ws (row.map textWidth)) (t.head.map textWidth)
  widest.map (· + 2)

def totalWidth (widths : List Nat) : Nat := widths.foldl (· + ·) 0

/-- Takes `excess` evenly from the columns that are as wide as `widest`, but from none more than
`most`; `count` columns of that width are left. -/
def takeEvenly (widest most : Nat) (excess count : Nat) : List Nat → List Nat
  | [] => []
  | w :: ws =>
    if w = widest then
      -- What is left is divided anew for each column, so that nothing of the excess is lost by
      -- rounding.
      let taken := min most (divideToEven excess count)
      (w - taken) :: takeEvenly widest most (excess - taken) (count - 1) ws
    else w :: takeEvenly widest most excess count ws

/-- Makes the widest columns as narrow as the next ones, until all fit into `total`. -/
def narrow (total : Nat) (widths : List Nat) : Nat → List Nat
  | 0 => widths
  | fuel + 1 =>
    let excess := totalWidth widths - total
    if excess = 0 then widths
    else
      let widest := widths.foldl max 0
      let next := (widths.filter (· ≠ widest)).foldl max 0
      narrow total (takeEvenly widest (min excess (widest - next)) excess
        (widths.count widest) widths) fuel

/-- The number of cells that the frame takes in each line. -/
def frameWidth (columns : Nat) : Nat := columns + 1

/-- The widths of the columns, with the blanks on both sides, on a console of the given width. -/
def widths (t : Table) (total : Nat) : List Nat :=
  let free := total - frameWidth t.head.length
  let wanted := t.wantedWidths.map (min · free)
  narrow free wanted (totalWidth wanted)

/-- A line of the frame. -/
def border (left fill joint right : Char) (widths : List Nat) : String :=
  String.singleton left ++
    String.intercalate (String.singleton joint)
      (widths.map fun w => String.ofList (List.replicate w fill)) ++
    String.singleton right

/-- A line of a cell with blanks up to the given width. If the line ends in a joiner, the first of
them is drawn over the line, and one more is needed. -/
def padded (total : Nat) (line : List Char) : List Char := padRight total (padRight total line)

/-- The lines of a cell, with blanks up to the width of its column. -/
def cellLines (columnWidth : Nat) (text : List Char) : List (List Char) :=
  (layout (columnWidth - 2) .ellipsis text).map fun line =>
    ' ' :: padded (columnWidth - 2) line ++ [' ']

/-- The lines of a row; a cell with fewer lines than others is blank below. -/
def rowLines (bar : Char) (widths : List Nat) (cells : List (List Char)) : List String :=
  let columns := List.zipWith cellLines widths cells
  let height := columns.foldl (fun n lines => max n lines.length) 0
  (List.range height).map fun i =>
    let parts :=
      List.zipWith (fun w lines => String.ofList (lines.getD i (List.replicate w ' ')))
        widths columns
    String.singleton bar ++ String.intercalate (String.singleton bar) parts ++ String.singleton bar

/-- A title in the middle of a line; an odd blank goes to the right. -/
def centered (total : Nat) (title : String) : String :=
  let free := total - title.length
  String.ofList (List.replicate (free / 2) ' ') ++ title ++
    String.ofList (List.replicate (free - free / 2) ' ')

def render (t : Table) (total : Nat) : List String :=
  let ws := t.widths total
  t.title.toList.map (centered (totalWidth ws + frameWidth ws.length)) ++
    [border '┏' '━' '┳' '┓' ws] ++ rowLines '┃' ws t.head ++ [border '┡' '━' '╇' '┩' ws] ++
    t.rows.flatMap (rowLines '│' ws) ++ [border '└' '─' '┴' '┘' ws]

end Table

end TwinNode
