import MeasuredJob.Shell

/-!
# Reading here-documents

A shell reads a text line by line, and the body of a here-document ends at the first line that is
the closing word.  So what is written is what is read when no line has a line break in it and no
line of the body is the closing word.
-/

namespace MeasuredJob
namespace Shell

/-- The lines that a shell reads. -/
def readLines (s : String) : List String :=
  (s.toList.splitOn '\n').map String.ofList

/-- The body of the first here-document that begins with the line `opening`, if some line ends
it. -/
def readHereDocument? (opening closing s : String) : Option (List String) :=
  let rest := ((readLines s).dropWhile fun l => l != opening).tail
  if closing ∈ rest then some (rest.takeWhile fun l => l != closing) else none

theorem lines_cons_cons (l l' : String) (ls : List String) :
    lines (l :: l' :: ls) = l ++ "\n" ++ lines (l' :: ls) :=
  String.intercalate_cons_cons

/-- Nothing is lost when a text is read line by line. -/
theorem lines_readLines (s : String) : lines (readLines s) = s := by
  have hchars : (readLines s).map String.toList = s.toList.splitOn '\n' := by
    simp [readLines, Function.comp_def]
  rw [← String.toList_inj, lines, String.toList_intercalate, hchars]
  exact List.intercalate_splitOn '\n'

theorem readLines_lines {ls : List String} (hne : ls ≠ []) (h : ∀ l ∈ ls, '\n' ∉ l.toList) :
    readLines (lines ls) = ls := by
  have hsplit : ('\n' :: []).intercalate (ls.map String.toList) = (lines ls).toList := by
    rw [lines, String.toList_intercalate]
    rfl
  have hpieces : ∀ piece ∈ ls.map String.toList, '\n' ∉ piece := by
    intro piece hpiece
    obtain ⟨l, hl, rfl⟩ := List.mem_map.mp hpiece
    exact h l hl
  have hnonempty : ls.map String.toList ≠ [] := by
    rw [ne_eq, List.map_eq_nil_iff]
    exact hne
  rw [readLines, ← hsplit, List.splitOn_intercalate '\n' hpieces hnonempty, List.map_map]
  exact (List.map_congr_left fun l _ => String.ofList_toList).trans (List.map_id ls)

/-! ## Up to a line -/

theorem takeWhile_append_line {l : String} {before : List String} (h : l ∉ before)
    (after : List String) : (before ++ l :: after).takeWhile (fun l' => l' != l) = before := by
  have htaken : ∀ l' ∈ before, (l' != l) = true := by
    intro l' hl'
    exact bne_iff_ne.mpr fun heq => h (heq ▸ hl')
  rw [List.takeWhile_append_of_pos htaken, List.takeWhile_cons_of_neg (by simp), List.append_nil]

theorem dropWhile_append_line {l : String} {before : List String} (h : l ∉ before)
    (after : List String) : (before ++ l :: after).dropWhile (fun l' => l' != l) = l :: after := by
  have hskipped : ∀ l' ∈ before, (l' != l) = true := by
    intro l' hl'
    exact bne_iff_ne.mpr fun heq => h (heq ▸ hl')
  rw [List.dropWhile_append_of_pos hskipped, List.dropWhile_cons_of_neg (by simp)]

theorem readHereDocument?_lines {before body after : List String} {opening closing : String}
    (hlines : ∀ l ∈ before ++ opening :: (body ++ closing :: after), '\n' ∉ l.toList)
    (hopening : opening ∉ before) (hclosing : closing ∉ body) :
    readHereDocument? opening closing (lines (before ++ opening :: (body ++ closing :: after))) =
      some body := by
  have hread := readLines_lines (by simp) hlines
  rw [readHereDocument?, hread, dropWhile_append_line hopening, List.tail_cons,
    takeWhile_append_line hclosing, if_pos (by simp)]

end Shell
end MeasuredJob
