import EntityForge.Terminal.Wrap

/-!
Tables and boxes of text. A table is as wide as its cells need; in a smaller room its widest columns
give way first, as far as they may, and at last all of them. Every cell has a space at both sides.
-/
namespace EntityForge.Terminal

structure Rule where
  left : Char
  line : Char
  divider : Char
  right : Char
  deriving DecidableEq, Repr

structure Border where
  top : Rule
  head : Rule
  bottom : Rule
  bar : Char
  deriving DecidableEq, Repr

def Border.rounded : Border :=
  ⟨⟨'╭', '─', '┬', '╮'⟩, ⟨'├', '─', '┼', '┤'⟩, ⟨'╰', '─', '┴', '╯'⟩, '│'⟩

def Border.blank : Border :=
  let rule : Rule := ⟨' ', ' ', ' ', ' '⟩
  ⟨rule, rule, rule, ' '⟩

def Rule.over (r : Rule) (widths : List Nat) : List Char :=
  r.left :: Text.join [r.divider] (widths.map fun width => List.replicate width r.line) ++ [r.right]

structure Column where
  title : List Char := []
  wraps : Bool := true
  toRight : Bool := false
  deriving DecidableEq, Repr

structure Table where
  caption : List Char := []
  border : Border
  hasHead : Bool
  columns : List Column
  rows : List (List (List Char))
  deriving DecidableEq, Repr

def nearest (n d : Nat) : Nat :=
  let q := n / d
  let r := n % d
  if 2 * r < d ∨ (2 * r = d ∧ q % 2 = 0) then q else q + 1

/-- Takes an excess from some widths in equal shares, from each no more than its limit. A width comes
with its limit, which is zero if nothing is to be taken from it. -/
def share (excess : Nat) : List (Nat × Nat) → List Nat
  | [] => []
  | (width, limit) :: rest =>
    let sharers := (((width, limit) :: rest).filter fun e => e.2 ≠ 0).length
    let taken := if limit = 0 then 0 else min limit (nearest excess sharers)
    (width - taken) :: share (excess - taken) rest

def narrow (room : Nat) : Nat → List (Nat × Bool) → List (Nat × Bool)
  | 0, columns => columns
  | fuel + 1, columns =>
    let excess := span (columns.map Prod.fst) - room
    let breaking := (columns.filter Prod.snd).map Prod.fst
    let widest := breaking.foldl max 0
    let second := (breaking.filter (· ≠ widest)).foldl max 0
    if excess = 0 ∨ widest = second then columns
    else
      let limit := min excess (widest - second)
      let widths := share excess (columns.map fun (width, breaks) =>
        (width, if breaks && width == widest then limit else 0))
      narrow room fuel (widths.zip (columns.map Prod.snd))

namespace Table

def allRows (t : Table) : List (List (List Char)) :=
  (if t.hasHead then [t.columns.map Column.title] else []) ++ t.rows

def neededWidths (t : Table) : List Nat :=
  t.columns.zipIdx.map fun (_, i) =>
    (t.allRows.map fun row => cells (row.getD i []) + 2).foldl max 0

def widths (t : Table) (room : Nat) : List Nat :=
  let needed := t.neededWidths
  let wanted := needed.map fun width => max 1 (min width room)
  if span wanted ≤ room then wanted
  else
    let narrowed := (narrow room (span wanted + 1) (wanted.zip (t.columns.map Column.wraps))).map Prod.fst
    let reduced := if span narrowed ≤ room then narrowed
      else share (span narrowed - room) (narrowed.map fun width => (width, width))
    List.zipWith min needed reduced

def cellLines (c : Column) (width : Nat) (text : List Char) : List (List Char) :=
  let room := width - 2
  if room = 0 then []
  else
    let lines := if c.wraps then wrap room .ellipsis text
      else [truncate room .ellipsis (dropExcess room text)]
    lines.map fun line =>
      let placed := if c.toRight then
          let kept := Text.stripEnd line
          List.replicate (room - cells kept) ' ' ++ kept
        else line
      ' ' :: fit room placed ++ [' ']

def fillHeight (atBottom : Bool) (height width : Nat) (lines : List (List Char)) : List (List Char) :=
  let missing := List.replicate (height - lines.length) (List.replicate width ' ')
  if atBottom then missing ++ lines else lines ++ missing

def rowLines (t : Table) (widths : List Nat) (isHead : Bool) (row : List (List Char)) :
    List (List Char) :=
  let contents := (t.columns.zip (widths.zip row)).map fun (c, width, text) => cellLines c width text
  let tallest := (contents.map List.length).foldl max 0
  let height := max 1 tallest
  let filled := (widths.zip contents).map fun (width, lines) =>
    fillHeight false height width (fillHeight isHead tallest width lines)
  (List.range height).map fun i =>
    t.border.bar :: Text.join [t.border.bar] (filled.map fun lines => lines.getD i []) ++ [t.border.bar]

def centre (width : Nat) (line : List Char) : List Char :=
  let kept := truncate width .fold (Text.stripEnd line)
  fit width (List.replicate ((width - cells kept) / 2) ' ' ++ kept)

def lines (t : Table) (width : Nat) : List (List Char) :=
  let frame := t.columns.length + 1
  let widths := t.widths (width - frame)
  let total := span widths + frame
  let caption := if t.caption.isEmpty then [] else (wrap total .fold t.caption).map (centre total)
  let head := if t.hasHead
    then t.rowLines widths true (t.columns.map Column.title) ++ [t.border.head.over widths] else []
  let body := t.rows.flatMap (t.rowLines widths false)
  (caption ++ [t.border.top.over widths] ++ head ++ body ++ [t.border.bottom.over widths]).map (crop width)

end Table

structure Panel where
  title : List Char
  text : List Char
  deriving DecidableEq, Repr

namespace Panel

def topLine (p : Panel) (width : Nat) : List Char :=
  if width ≤ 4 then Border.rounded.top.over [width - 2]
  else
    let room := width - 4
    let title := truncate room .fold (' ' :: p.title ++ [' '])
    let excess := room - cells title
    let line := Border.rounded.top.line
    [Border.rounded.top.left, line] ++ List.replicate (excess / 2) line ++ title ++
      List.replicate (excess - excess / 2) line ++ [line, Border.rounded.top.right]

def lines (p : Panel) (width : Nat) : List (List Char) :=
  let room := width - 4
  let body := if room = 0 then [] else wrap room .fold p.text
  let bar := Border.rounded.bar
  ([p.topLine width] ++
    body.map (fun line => [bar, ' '] ++ fit room line ++ [' ', bar]) ++
    [Border.rounded.bottom.over [width - 2]]).map (crop width)

end Panel

end EntityForge.Terminal
