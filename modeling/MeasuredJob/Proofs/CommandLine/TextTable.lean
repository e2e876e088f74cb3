import Mathlib.Data.List.Forall2
import MeasuredJob.CommandLine.TextTable
import MeasuredJob.Proofs.Script.Lines
import MeasuredJob.Proofs.Text.Trimming

/-!
# Columns of a text table

Cells are padded to the width of their column in characters, while that width is a size in bytes.
No text has more characters than bytes, so every cell fits and the lines of a table agree about
where a column starts.  The last cells of a row may be empty and are trimmed away with the white
space before them, which moves nothing.

A program that keeps the widths in an array takes them by their indices, and it stops where an index
is beyond the array.  `formatIndexed?` makes a table in this way, and it makes every table.
-/

namespace MeasuredJob
namespace TextTable

/-! ## Widths -/

theorem length_widen (ws : List ℕ) (cells : List String) : (widen ws cells).length = ws.length := by
  induction ws generalizing cells with
  | nil => rfl
  | cons w ws ih =>
    cases cells with
    | nil => rfl
    | cons cell cells => rw [widen, List.length_cons, List.length_cons, ih]

theorem length_foldl_widen (ws : List ℕ) (rows : List (List String)) :
    (rows.foldl widen ws).length = ws.length := by
  induction rows generalizing ws with
  | nil => rfl
  | cons cells rows ih => rw [List.foldl_cons, ih, length_widen]

theorem length_widths (headers : List String) (rows : List (List String)) :
    (widths headers rows).length = headers.length := by
  rw [widths, length_foldl_widen, List.length_map]

theorem getElem?_widen (ws : List ℕ) (cells : List String) (i : ℕ) :
    (widen ws cells)[i]? =
      ws[i]?.map fun w => max w (cells[i]?.elim 0 String.utf8ByteSize) := by
  induction ws generalizing cells i with
  | nil => rfl
  | cons w ws ih =>
    cases cells with
    | nil => simp [widen]
    | cons cell cells =>
      cases i with
      | zero => rfl
      | succ i => exact ih cells i

/-- The columns are as wide as their cells. -/
def Fits (ws : List ℕ) (cells : List String) : Prop :=
  ∀ (i w : ℕ) (cell : String), ws[i]? = some w → cells[i]? = some cell → cell.utf8ByteSize ≤ w

theorem fits_map (cells : List String) : Fits (cells.map String.utf8ByteSize) cells := by
  intro i w cell hw hcell
  rw [List.getElem?_map, hcell] at hw
  exact Nat.le_of_eq (Option.some.inj hw)

theorem fits_widen (ws : List ℕ) (cells : List String) : Fits (widen ws cells) cells := by
  intro i w cell hw hcell
  rw [getElem?_widen, hcell] at hw
  obtain ⟨v, -, rfl⟩ := Option.map_eq_some_iff.mp hw
  exact Nat.le_max_right v cell.utf8ByteSize

theorem Fits.widen {ws : List ℕ} {cells : List String} (h : Fits ws cells) (more : List String) :
    Fits (widen ws more) cells := by
  intro i w cell hw hcell
  rw [getElem?_widen] at hw
  obtain ⟨v, hv, rfl⟩ := Option.map_eq_some_iff.mp hw
  exact Nat.le_trans (h i v cell hv hcell) (Nat.le_max_left v _)

/-- Widening keeps what fits already and makes room for every row. -/
theorem fits_foldl_widen {ws : List ℕ} {rows : List (List String)} {cells : List String}
    (h : Fits ws cells ∨ cells ∈ rows) : Fits (rows.foldl widen ws) cells := by
  induction rows generalizing ws with
  | nil => exact h.resolve_right List.not_mem_nil
  | cons more rows ih =>
    refine ih ?_
    rcases h with h | h
    · exact .inl (h.widen more)
    · rcases List.mem_cons.mp h with rfl | h
      · exact .inl (fits_widen ws cells)
      · exact .inr h

theorem fits_widths {headers : List String} {rows : List (List String)} {cells : List String}
    (h : cells ∈ headers :: rows) : Fits (widths headers rows) cells := by
  rcases List.mem_cons.mp h with rfl | h
  · exact fits_foldl_widen (.inl (fits_map cells))
  · exact fits_foldl_widen (.inr h)

/-- No text has more characters than bytes. -/
theorem length_le_utf8ByteSize (s : String) : s.length ≤ s.utf8ByteSize := by
  induction s using String.push_induction with
  | empty => exact Nat.zero_le _
  | push s c ih =>
    rw [String.length_push, String.utf8ByteSize_push]
    exact Nat.add_le_add ih c.utf8Size_pos

theorem Fits.length_le {ws : List ℕ} {cells : List String} (h : Fits ws cells) {i w : ℕ}
    {cell : String} (hw : ws[i]? = some w) (hcell : cells[i]? = some cell) : cell.length ≤ w :=
  Nat.le_trans (length_le_utf8ByteSize cell) (h i w cell hw hcell)

/-! ## Rows as characters -/

/-- A row without its line break. -/
def row (ws : List ℕ) (cells : List String) : String :=
  Text.trimEnd ("  ".intercalate (List.zipWith pad ws cells))

/-- A cell and the spaces from its end to the next column. -/
def block (w : ℕ) (cell : String) : List Char :=
  cell.toList ++ List.replicate (w - cell.length + 2) ' '

/-- The place at which a column starts. -/
def offset : List ℕ → ℕ → ℕ
  | _, 0 => 0
  | [], _ + 1 => 0
  | w :: ws, i + 1 => w + 2 + offset ws i

theorem format_eq_unlines (headers : List String) (rows : List (List String)) :
    format headers rows = Script.unlines ((headers :: rows).map (row (widths headers rows))) := by
  rw [format, Script.unlines, List.map_map]
  rfl

theorem intercalate_append_self {α : Type} (sep first : List α) (more : List (List α)) :
    sep.intercalate (first :: more) ++ sep = ((first :: more).map (· ++ sep)).flatten := by
  induction more generalizing first with
  | nil => simp
  | cons second more ih =>
    rw [List.intercalate_cons_cons, List.append_assoc, ih]
    rfl

theorem toList_pad_append (w : ℕ) (cell : String) :
    (pad w cell).toList ++ "  ".toList = block w cell := by
  rw [pad, block, String.toList_append, String.toList_ofList, List.append_assoc,
    List.replicate_add]
  rfl

/-- The spaces behind the last cell are trimmed, however many there are. -/
theorem toList_row (ws : List ℕ) (cells : List String) :
    (row ws cells).toList =
      Text.dropEndWhile Text.isBlank (List.zipWith block ws cells).flatten := by
  have hspaces : ∀ c ∈ "  ".toList, Text.isBlank c = true := by
    intro c hc
    obtain rfl : c = ' ' := by simpa using hc
    rfl
  have hblocks : List.zipWith block ws cells =
      ((List.zipWith pad ws cells).map String.toList).map (· ++ "  ".toList) := by
    rw [List.map_map, List.map_zipWith]
    exact congrArg (List.zipWith · ws cells)
      (funext fun w => funext fun cell => (toList_pad_append w cell).symm)
  rw [row, Text.toList_trimEnd, String.toList_intercalate, hblocks]
  cases (List.zipWith pad ws cells).map String.toList with
  | nil => rfl
  | cons first more => rw [← intercalate_append_self, Text.dropEndWhile_append_of_pos hspaces]

theorem length_block {w : ℕ} {cell : String} (h : cell.length ≤ w) :
    (block w cell).length = w + 2 := by
  rw [block, List.length_append, List.length_replicate, String.length_toList]
  omega

theorem offset_zero (ws : List ℕ) : offset ws 0 = 0 := by
  cases ws <;> rfl

theorem offset_succ {ws : List ℕ} {i w : ℕ} (h : ws[i]? = some w) :
    offset ws (i + 1) = offset ws i + (w + 2) := by
  induction ws generalizing i with
  | nil => cases h
  | cons v ws ih =>
    cases i with
    | zero =>
      obtain rfl : v = w := Option.some.inj h
      rw [offset_zero, offset, offset_zero, Nat.zero_add, Nat.add_zero]
    | succ i => rw [offset, ih h, offset, Nat.add_assoc _ (offset ws i)]

theorem Fits.tail {w : ℕ} {ws : List ℕ} {cell : String} {cells : List String}
    (h : Fits (w :: ws) (cell :: cells)) : Fits ws cells :=
  fun i => h (i + 1)

/-- The cells before a column fill the places before it. -/
theorem exists_append_block {ws : List ℕ} {cells : List String} (h : Fits ws cells) {i w : ℕ}
    {cell : String} (hw : ws[i]? = some w) (hcell : cells[i]? = some cell) :
    ∃ front back, (List.zipWith block ws cells).flatten = front ++ (block w cell ++ back) ∧
      front.length = offset ws i := by
  induction i generalizing ws cells with
  | zero =>
    cases ws with
    | nil => cases hw
    | cons v ws =>
      cases cells with
      | nil => cases hcell
      | cons first cells =>
        obtain rfl : v = w := Option.some.inj hw
        obtain rfl : first = cell := Option.some.inj hcell
        exact ⟨[], (List.zipWith block ws cells).flatten, rfl, rfl⟩
  | succ i ih =>
    cases ws with
    | nil => cases hw
    | cons v ws =>
      cases cells with
      | nil => cases hcell
      | cons first cells =>
        obtain ⟨front, back, hsplit, hlength⟩ := ih h.tail hw hcell
        refine ⟨block v first ++ front, back, ?_, ?_⟩
        · rw [List.zipWith_cons_cons, List.flatten_cons, hsplit, List.append_assoc]
        · rw [List.length_append, length_block (h.length_le (i := 0) rfl rfl), hlength,
            offset]

theorem length_flatten_blocks {ws : List ℕ} {cells : List String} (h : Fits ws cells) :
    (List.zipWith block ws cells).flatten.length = offset ws cells.length := by
  induction ws generalizing cells with
  | nil => cases cells <;> rfl
  | cons w ws ih =>
    cases cells with
    | nil => rfl
    | cons cell cells =>
      rw [List.zipWith_cons_cons, List.flatten_cons, List.length_append, ih h.tail,
        length_block (h.length_le (i := 0) rfl rfl), List.length_cons, offset]

/-! ## Cells in their columns -/

/-- A text that a cell can show as it is: it is on one line, with no white space at its ends. -/
def Plain (cell : String) : Prop :=
  '\n' ∉ cell.toList ∧ Text.trim cell = cell

instance (cell : String) : Decidable (Plain cell) :=
  inferInstanceAs (Decidable (_ ∧ _))

/-- The cells of a line stand in columns that start at the given places. -/
structure Aligned (offset : ℕ → ℕ) (cells : List String) (line : String) : Prop where
  starts : ∀ (i : ℕ) (cell : String), cells[i]? = some cell →
    cell.toList <+: line.toList.drop (offset i)
  apart : ∀ (i : ℕ) (cell : String), cells[i]? = some cell →
    offset i + cell.length + 2 ≤ offset (i + 1)
  /-- As far as the line goes, only spaces stand between a cell and the next column. -/
  spaced : ∀ (i : ℕ) (cell : String), cells[i]? = some cell → ∀ j c,
    offset i + cell.length ≤ j → j < offset (i + 1) → line.toList[j]? = some c → c = ' '
  /-- The line does not go beyond the last of its columns. -/
  within : line.length ≤ offset cells.length
  ends : ∀ c ∈ line.toList.getLast?, Text.isBlank c = false

theorem row_prefix_flatten (ws : List ℕ) (cells : List String) :
    (row ws cells).toList <+: (List.zipWith block ws cells).flatten := by
  obtain ⟨tail, htail, -⟩ :=
    Text.exists_append_dropEndWhile Text.isBlank (List.zipWith block ws cells).flatten
  exact ⟨tail, by rw [toList_row, ← htail]⟩

theorem prefix_drop_row {ws : List ℕ} {cells : List String} (h : Fits ws cells) {i w : ℕ}
    {cell : String} (hw : ws[i]? = some w) (hcell : cells[i]? = some cell)
    (htrim : Text.trim cell = cell) : cell.toList <+: (row ws cells).toList.drop (offset ws i) := by
  cases hlast : cell.toList.getLast? with
  | none =>
    rw [List.getLast?_eq_none_iff.mp hlast]
    exact List.nil_prefix
  | some c =>
    -- Trimming stops at the cell, so all that stands before it stays where it is.
    obtain ⟨front, back, hsplit, hlength⟩ := exists_append_block h hw hcell
    have hend : (front ++ cell.toList).getLast? = some c := by
      rw [List.getLast?_append, hlast, Option.some_or]
    rw [toList_row, hsplit, block, List.append_assoc, ← List.append_assoc front,
      Text.dropEndWhile_append hend ((Text.trim_eq_self_iff.mp htrim).2 c hlast), List.append_assoc,
      ← hlength, List.drop_left]
    exact List.prefix_append _ _

theorem eq_space_of_getElem?_row {ws : List ℕ} {cells : List String} (h : Fits ws cells) {i w : ℕ}
    {cell : String} (hw : ws[i]? = some w) (hcell : cells[i]? = some cell) {j : ℕ} {c : Char}
    (hj : offset ws i + cell.length ≤ j) (hj' : j < offset ws (i + 1))
    (hc : (row ws cells).toList[j]? = some c) : c = ' ' := by
  obtain ⟨front, back, hsplit, hlength⟩ := exists_append_block h hw hcell
  obtain ⟨tail, htail⟩ := row_prefix_flatten ws cells
  have hfront : (front ++ cell.toList).length = offset ws i + cell.length := by
    rw [List.length_append, hlength, String.length_toList]
  have hflat : ((front ++ cell.toList) ++
      (List.replicate (w - cell.length + 2) ' ' ++ back))[j]? = some c := by
    rw [List.append_assoc, ← List.append_assoc cell.toList, ← block, ← hsplit, ← htail,
      List.getElem?_append_left (List.getElem?_eq_some_iff.mp hc).1, hc]
  have hcount : j - (offset ws i + cell.length) < w - cell.length + 2 := by
    have hfits := h.length_le hw hcell
    rw [offset_succ hw] at hj'
    omega
  rw [List.getElem?_append_right (by omega), hfront,
    List.getElem?_append_left (by simpa using hcount), List.getElem?_replicate, if_pos hcount]
    at hflat
  exact (Option.some.inj hflat).symm

theorem aligned_row {ws : List ℕ} {cells : List String} (h : Fits ws cells)
    (hcells : cells.length ≤ ws.length) (htrim : ∀ cell ∈ cells, Text.trim cell = cell) :
    Aligned (offset ws) cells (row ws cells) := by
  have hwidth {i : ℕ} {cell : String} (hcell : cells[i]? = some cell) : ∃ w, ws[i]? = some w :=
    ⟨_, List.getElem?_eq_getElem
      (Nat.lt_of_lt_of_le (List.getElem?_eq_some_iff.mp hcell).1 hcells)⟩
  refine {
    starts := fun i cell hcell => ?_
    apart := fun i cell hcell => ?_
    spaced := fun i cell hcell j c hj hj' hc => ?_
    within := ?_
    ends := fun c hc => ?_ }
  · obtain ⟨w, hw⟩ := hwidth hcell
    exact prefix_drop_row h hw hcell (htrim cell (List.mem_of_getElem? hcell))
  · obtain ⟨w, hw⟩ := hwidth hcell
    have hfits := h.length_le hw hcell
    rw [offset_succ hw]
    omega
  · obtain ⟨w, hw⟩ := hwidth hcell
    exact eq_space_of_getElem?_row h hw hcell hj hj' hc
  · rw [← String.length_toList, ← length_flatten_blocks h]
    exact (row_prefix_flatten ws cells).length_le
  · rw [toList_row] at hc
    exact Text.getLast?_dropEndWhile hc

theorem mem_row {ws : List ℕ} {cells : List String} {c : Char} (h : c ∈ (row ws cells).toList) :
    c = ' ' ∨ ∃ cell ∈ cells, c ∈ cell.toList := by
  obtain ⟨chars, hblock, hc⟩ := List.mem_flatten.mp ((row_prefix_flatten ws cells).subset h)
  rw [← List.map_uncurry_zip_eq_zipWith] at hblock
  obtain ⟨⟨w, cell⟩, hentry, rfl⟩ := List.mem_map.mp hblock
  rcases List.mem_append.mp hc with hc | hc
  · exact .inr ⟨cell, (List.of_mem_zip hentry).2, hc⟩
  · exact .inl (List.eq_of_mem_replicate hc)

/-- Cells without a column are left out. -/
theorem row_take (ws : List ℕ) (cells : List String) :
    row ws (cells.take ws.length) = row ws cells := by
  have hcells : List.zipWith pad ws (cells.take ws.length) = List.zipWith pad ws cells := by
    induction ws generalizing cells with
    | nil => rfl
    | cons w ws ih =>
      cases cells with
      | nil => rfl
      | cons cell cells =>
        rw [List.length_cons, List.take_succ_cons, List.zipWith_cons_cons, List.zipWith_cons_cons,
          ih]
  rw [row, row, hcells]

theorem widen_take (ws : List ℕ) (cells : List String) :
    widen ws (cells.take ws.length) = widen ws cells := by
  induction ws generalizing cells with
  | nil => rfl
  | cons w ws ih =>
    cases cells with
    | nil => rfl
    | cons cell cells => rw [List.length_cons, List.take_succ_cons, widen, widen, ih]

theorem foldl_widen_take (ws : List ℕ) (rows : List (List String)) :
    (rows.map (List.take ws.length)).foldl widen ws = rows.foldl widen ws := by
  induction rows generalizing ws with
  | nil => rfl
  | cons cells rows ih =>
    have hrest := ih (widen ws cells)
    rw [length_widen] at hrest
    rw [List.map_cons, List.foldl_cons, widen_take, hrest, List.foldl_cons]

theorem Fits.take {ws : List ℕ} {cells : List String} (h : Fits ws cells) (n : ℕ) :
    Fits ws (cells.take n) := by
  intro i w cell hw hcell
  rw [List.getElem?_take] at hcell
  split at hcell
  · exact h i w cell hw hcell
  · cases hcell

/-! ## Widths by their indices -/

/-- Make the column of an entry as wide as it is, unless the index is beyond the list. -/
def widenAt? (ws : List ℕ) (entry : String × ℕ) : Option (List ℕ) :=
  ws[entry.2]?.map fun w => ws.set entry.2 (max w entry.1.utf8ByteSize)

def widenIndexed? (ws : List ℕ) (cells : List String) : Option (List ℕ) :=
  (cells.zipIdx.take ws.length).foldlM widenAt? ws

def rowIndexed? (ws : List ℕ) (cells : List String) : Option String :=
  (cells.zipIdx.mapM fun entry => ws[entry.2]?.map (pad · entry.1)).map fun padded =>
    Text.trimEnd ("  ".intercalate padded)

/-- The table, unless a width is looked up beyond the list of widths. -/
def formatIndexed? (headers : List String) (rows : List (List String)) : Option String := do
  let ws ← rows.foldlM widenIndexed? (headers.map String.utf8ByteSize)
  let heading ← rowIndexed? ws headers
  let others ← rows.mapM fun cells => rowIndexed? ws (cells.take ws.length)
  pure (Script.unlines (heading :: others))

theorem getElem?_append_cons (front back : List ℕ) (w : ℕ) :
    (front ++ w :: back)[front.length]? = some w := by
  rw [List.getElem?_append_right (Nat.le_refl _), Nat.sub_self, List.getElem?_cons_zero]

theorem widenAt?_append_cons (front back : List ℕ) (w : ℕ) (cell : String) :
    widenAt? (front ++ w :: back) (cell, front.length) =
      some (front ++ max w cell.utf8ByteSize :: back) := by
  rw [widenAt?, getElem?_append_cons, Option.map_some, List.set_append_right _ _ (Nat.le_refl _),
    Nat.sub_self, List.set_cons_zero]

/-- Widening goes from column to column, so `front` are the widths of those that it has passed. -/
theorem foldlM_widenAt? (front ws : List ℕ) (cells : List String) :
    ((cells.zipIdx front.length).take ws.length).foldlM widenAt? (front ++ ws) =
      some (front ++ widen ws cells) := by
  induction ws generalizing front cells with
  | nil => rfl
  | cons w ws ih =>
    cases cells with
    | nil => rfl
    | cons cell cells =>
      have hrest := ih (front ++ [max w cell.utf8ByteSize]) cells
      rw [List.length_append, List.length_singleton, List.append_assoc, List.append_assoc] at hrest
      rw [List.zipIdx_cons, List.length_cons, List.take_succ_cons, List.foldlM_cons,
        widenAt?_append_cons, widen]
      exact hrest

theorem widenIndexed?_eq (ws : List ℕ) (cells : List String) :
    widenIndexed? ws cells = some (widen ws cells) :=
  foldlM_widenAt? [] ws cells

theorem mapM_pad (front ws : List ℕ) {cells : List String} (h : cells.length ≤ ws.length) :
    ((cells.zipIdx front.length).mapM fun entry => (front ++ ws)[entry.2]?.map (pad · entry.1)) =
      some (List.zipWith pad ws cells) := by
  induction ws generalizing front cells with
  | nil =>
    rw [List.eq_nil_of_length_eq_zero (Nat.le_zero.mp h)]
    rfl
  | cons w ws ih =>
    cases cells with
    | nil => rfl
    | cons cell cells =>
      have hrest := ih (front ++ [w]) (Nat.le_of_succ_le_succ h)
      rw [List.length_append, List.length_singleton, List.append_assoc] at hrest
      rw [List.zipIdx_cons, List.mapM_cons, getElem?_append_cons, Option.map_some]
      exact congrArg (Option.bind · fun padded => some (pad w cell :: padded)) hrest

theorem rowIndexed?_eq {ws : List ℕ} {cells : List String} (h : cells.length ≤ ws.length) :
    rowIndexed? ws cells = some (row ws cells) := by
  rw [rowIndexed?]
  exact congrArg (Option.map _) (mapM_pad [] ws h)

/-- A cell without a column would be an index beyond the widths. -/
example : rowIndexed? [3] ["a", "b"] = none := by
  decide

/-- No index is beyond the list of widths, and so what is made of them is the table. -/
theorem formatIndexed?_eq (headers : List String) (rows : List (List String)) :
    formatIndexed? headers rows = some (format headers rows) := by
  have hwidths : rows.foldlM widenIndexed? (headers.map String.utf8ByteSize) =
      some (widths headers rows) := by
    rw [widths]
    generalize headers.map String.utf8ByteSize = ws
    induction rows generalizing ws with
    | nil => rfl
    | cons cells rows ih =>
      rw [List.foldlM_cons, widenIndexed?_eq]
      exact ih (widen ws cells)
  have hrow (ws : List ℕ) : (fun cells => rowIndexed? ws (cells.take ws.length)) =
      fun cells => pure (row ws cells) := by
    funext cells
    rw [rowIndexed?_eq (List.length_take_le ws.length cells), row_take]
    rfl
  have hheaders : headers.length ≤ (widths headers rows).length :=
    Nat.le_of_eq (length_widths headers rows).symm
  rw [formatIndexed?, hwidths, format_eq_unlines, List.map_cons]
  simp only [Option.bind_eq_bind, Option.bind_some, rowIndexed?_eq hheaders, hrow, List.mapM_pure]
  rfl

/-! ## Tables -/

/-- The text has a line for each of the lists of cells and nothing else, and the columns of all lines
start at the same places. -/
def Tabular (table : List (List String)) (text : String) : Prop :=
  ∃ (offset : ℕ → ℕ) (lines : List String), text = Script.unlines lines ∧
    (∀ l ∈ lines, '\n' ∉ l.toList) ∧ offset 0 = 0 ∧ List.Forall₂ (Aligned offset) table lines

theorem format_take (headers : List String) (rows : List (List String)) :
    format headers (rows.map (List.take headers.length)) = format headers rows := by
  have hwidths : widths headers (rows.map (List.take headers.length)) = widths headers rows := by
    have hfold := foldl_widen_take (headers.map String.utf8ByteSize) rows
    rwa [List.length_map] at hfold
  have hrow : row (widths headers rows) ∘ List.take headers.length = row (widths headers rows) := by
    funext cells
    rw [Function.comp_apply, ← length_widths headers rows, row_take]
  rw [format_eq_unlines, format_eq_unlines, hwidths, List.map_cons, List.map_cons, List.map_map,
    hrow]

/-- The text is made of the lists of cells, a row for each of them.  Every cell is filled up with
spaces to the width of its column, two more spaces stand between cells, and there is no white space
at the end of a row. -/
def Prints (table : List (List String)) (text : String) : Prop :=
  ∃ widths : List ℕ, (∀ cells ∈ table, cells.length ≤ widths.length ∧ Fits widths cells) ∧
    text = String.join (table.map fun cells =>
      Text.trimEnd ("  ".intercalate (List.zipWith (fun w cell =>
        cell ++ String.ofList (List.replicate (w - cell.length) ' ')) widths cells)) ++ "\n")

theorem prints_format {headers : List String} {rows : List (List String)}
    (h : ∀ cells ∈ rows, cells.length ≤ headers.length) :
    Prints (headers :: rows) (format headers rows) := by
  refine ⟨widths headers rows, fun cells hcells => ⟨?_, fits_widths hcells⟩, rfl⟩
  rw [length_widths]
  rcases List.mem_cons.mp hcells with rfl | hcells
  · exact Nat.le_refl _
  · exact h cells hcells

/-- The table of the cells that have headers. -/
theorem tabular_take {headers : List String} {rows : List (List String)}
    (h : ∀ cells ∈ headers :: rows, ∀ cell ∈ cells, Plain cell) :
    Tabular ((headers :: rows).map (List.take headers.length)) (format headers rows) := by
  refine ⟨offset (widths headers rows), _, format_eq_unlines headers rows, ?_, offset_zero _, ?_⟩
  · intro l hl hbreak
    obtain ⟨cells, hcells, rfl⟩ := List.mem_map.mp hl
    rcases mem_row hbreak with hspace | ⟨cell, hcell, hmem⟩
    · exact absurd hspace (by decide)
    · exact (h cells hcells cell hcell).1 hmem
  · rw [List.forall₂_map_left_iff, List.forall₂_map_right_iff, List.forall₂_same]
    intro cells hcells
    rw [← length_widths headers rows, ← row_take]
    exact aligned_row ((fits_widths hcells).take _) (List.length_take_le _ cells) fun cell hcell =>
      (h cells hcells cell (List.mem_of_mem_take hcell)).2

theorem tabular_format {headers : List String} {rows : List (List String)}
    (hlength : ∀ cells ∈ rows, cells.length ≤ headers.length)
    (h : ∀ cells ∈ headers :: rows, ∀ cell ∈ cells, Plain cell) :
    Tabular (headers :: rows) (format headers rows) := by
  have hrows : rows.map (List.take headers.length) = rows :=
    (List.map_congr_left fun cells hcells => List.take_of_length_le (hlength cells hcells)).trans
      (List.map_id rows)
  have htable := tabular_take h
  rwa [List.map_cons, List.take_length, hrows] at htable

/-- A table is one line for the headers and one for each row, in columns that all lines share.  Its
widths are never looked up beyond their list, and cells without a header do not matter. -/
theorem tabular_of_plain {headers : List String} {rows : List (List String)}
    (h : ∀ cells ∈ headers :: rows, ∀ cell ∈ cells, Plain cell) :
    formatIndexed? headers rows = some (format headers rows) ∧
      format headers (rows.map (List.take headers.length)) = format headers rows ∧
      Tabular ((headers :: rows).map (List.take headers.length)) (format headers rows) :=
  ⟨formatIndexed?_eq headers rows, format_take headers rows, tabular_take h⟩

/-- The second row has fewer cells than there are headers and the third one has more.  The first one
is wider in bytes than in characters. -/
theorem tabular_of_ragged :
    formatIndexed? ["NAME", "KIND"] [["größe", "m"], ["x"], ["", "ß", "more"]] =
        some "NAME     KIND\ngröße    m\nx\n         ß\n" ∧
      Tabular [["NAME", "KIND"], ["größe", "m"], ["x"], ["", "ß"]]
        "NAME     KIND\ngröße    m\nx\n         ß\n" := by
  have hplain : ∀ cells ∈ [["NAME", "KIND"], ["größe", "m"], ["x"], ["", "ß", "more"]],
      ∀ cell ∈ cells, Plain cell := by
    decide +kernel
  have htext : format ["NAME", "KIND"] [["größe", "m"], ["x"], ["", "ß", "more"]] =
      "NAME     KIND\ngröße    m\nx\n         ß\n" := by
    decide +kernel
  obtain ⟨hindexed, -, htable⟩ := tabular_of_plain hplain
  rw [htext] at hindexed htable
  exact ⟨hindexed, htable⟩

end TextTable
end MeasuredJob
