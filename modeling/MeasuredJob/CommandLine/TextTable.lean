import MeasuredJob.Text.Blank

/-!
# Text tables

Rows of cells in aligned columns.  A column is as wide as the largest UTF-8 size among its cells,
and cells are padded by characters, so every cell fits its column whatever characters it holds.
Cells without a header are not shown.
-/

namespace MeasuredJob
namespace TextTable

def widen : List Nat → List String → List Nat
  | [], _ => []
  | ws, [] => ws
  | w :: ws, cell :: cells => max w cell.utf8ByteSize :: widen ws cells

def widths (headers : List String) (rows : List (List String)) : List Nat :=
  rows.foldl widen (headers.map String.utf8ByteSize)

def pad (width : Nat) (cell : String) : String :=
  cell ++ String.ofList (List.replicate (width - cell.length) ' ')

/-- One row, with two spaces between columns and no white space at its end. -/
def line (widths : List Nat) (cells : List String) : String :=
  Text.trimEnd ("  ".intercalate (List.zipWith pad widths cells)) ++ "\n"

/-- The headers and then the rows, each on a line of its own. -/
def format (headers : List String) (rows : List (List String)) : String :=
  String.join ((headers :: rows).map (line (widths headers rows)))

end TextTable
end MeasuredJob
