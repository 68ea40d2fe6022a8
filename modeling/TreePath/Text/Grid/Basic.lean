/-!
# Grids of characters

Sets with more characters than a byte can tell apart arrange them in rows: the cell of a character
is named by two bytes, its row and its place in the row. `Grid.char?` is the character of a cell.

A grid is made from the empty one by putting characters into cells (`Grid.put`), later ones over
earlier ones.

The tables of characters are strings, one character for each cell, with a dot where a set leaves a
cell empty. Rows that follow each other are put in together (`putRows`), single runs tell where they
begin (`putRuns`), and characters that lie scattered are put in beside a list of their cells
(`fill`). All grids have the same size, so that the cell of two bytes is found by its number,
whatever the set.
-/

namespace TreePath.Text

/-- A set of characters in cells. -/
structure Grid where
  /-- The cells, one row after the other, each row with 256 of them. -/
  cells : Array (Option Char)
deriving Inhabited

namespace Grid

/-! ### Cells -/

/-- The grid without characters. -/
def empty : Grid :=
  ⟨Array.replicate 65536 none⟩

/-- Where a cell stands. -/
def index (row place : Nat) : Nat :=
  256 * row + place

/-- The character in a cell. -/
def char? (g : Grid) (row place : Nat) : Option Char :=
  (g.cells[index row place]?).join

/-- Puts a character into a cell. -/
def put (g : Grid) (row place : Nat) (c : Char) : Grid :=
  ⟨g.cells.setIfInBounds (index row place) (some c)⟩

/-! ### Many cells -/

/-- Puts characters side by side into a row. A dot leaves its cell as it is. -/
def putRun (g : Grid) (row place : Nat) : List Char → Grid
  | [] => g
  | c :: rest => (if c == '.' then g else g.put row place c).putRun row (place + 1) rest

/-- Puts characters into rows that follow each other. -/
def putRows (g : Grid) (row place : Nat) : List String → Grid
  | [] => g
  | run :: rest => (g.putRun row place run.toList).putRows (row + 1) place rest

/-- Puts characters into rows; each run tells its row and its first place. -/
def putRuns (g : Grid) (runs : List (Nat × Nat × String)) : Grid :=
  runs.foldl (fun g r ↦ g.putRun r.1 r.2.1 r.2.2.toList) g

/-- Puts characters into cells, one into each. -/
def fill (g : Grid) (cells : List (Nat × Nat)) (chars : List Char) : Grid :=
  (cells.zip chars).foldl (fun g e ↦ g.put e.1.1 e.1.2 e.2) g

/-! ### Characters -/

/-- The numbers from one to another. -/
def span (first last : Nat) : List Nat :=
  (List.range (last + 1 - first)).map (· + first)

/-- So many characters from a number on. -/
def charsFrom (first count : Nat) : List Char :=
  (List.range count).map fun i ↦ Char.ofNat (i + first)

/-- For each number of 16 bits, whether the grid has the character with it. -/
def marks (g : Grid) : Array Bool :=
  g.cells.foldl (fun marks c? ↦
    match c? with
    | some c => marks.setIfInBounds c.toNat true
    | none => marks) (Array.replicate 65536 false)

/-- The characters between two numbers of 16 bits that the grid does not have, in order. -/
def missing (g : Grid) (first last : Nat) : List Char :=
  let marks := g.marks
  (span first last).filterMap fun n ↦
    if n.isValidChar && !marks.getD n false then some (Char.ofNat n) else none

end Grid

end TreePath.Text
