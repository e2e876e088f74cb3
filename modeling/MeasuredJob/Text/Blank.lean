/-!
# Blank characters and trimming

Scripts, option values and commands come from people, so surrounding white space never carries
meaning.  This module fixes which characters are blank and how text is trimmed.  Every operation
works on the list of characters of a text and is lifted to `String` at the end: the laws about a
trimmed text are laws about lists.
-/

namespace MeasuredJob
namespace Text

/-- The characters that carry the Unicode property White_Space.  The zero-width space, the byte
order mark and the information separators do not carry it. -/
def isBlank (c : Char) : Bool :=
  let n := c.toNat
  (0x09 ≤ n && n ≤ 0x0D) || n == 0x20 || n == 0x85 || n == 0xA0 || n == 0x1680 ||
    (0x2000 ≤ n && n ≤ 0x200A) || n == 0x2028 || n == 0x2029 || n == 0x202F || n == 0x205F ||
    n == 0x3000

/-- Drop the trailing characters that satisfy `p`. -/
def dropEndWhile (p : Char → Bool) (cs : List Char) : List Char :=
  (cs.reverse.dropWhile p).reverse

/-- Drop the characters that satisfy `p` at both ends. -/
def strip (p : Char → Bool) (cs : List Char) : List Char :=
  dropEndWhile p (cs.dropWhile p)

@[simp] theorem dropEndWhile_nil (p : Char → Bool) : dropEndWhile p [] = [] := rfl

/-- Nothing but characters that satisfy `p` is dropped at the end. -/
theorem exists_append_dropEndWhile (p : Char → Bool) (cs : List Char) :
    ∃ tail, cs = dropEndWhile p cs ++ tail ∧ ∀ c ∈ tail, p c = true := by
  refine ⟨(cs.reverse.takeWhile p).reverse, ?_, ?_⟩
  · rw [dropEndWhile, ← List.reverse_append, List.takeWhile_append_dropWhile, List.reverse_reverse]
  · intro c hc
    rw [List.mem_reverse] at hc
    exact List.all_eq_true.mp List.all_takeWhile c hc

def trim (s : String) : String :=
  String.ofList (strip isBlank s.toList)

def trimEnd (s : String) : String :=
  String.ofList (dropEndWhile isBlank s.toList)

def trimChar (c : Char) (s : String) : String :=
  String.ofList (strip (· == c) s.toList)

def trimEndChar (c : Char) (s : String) : String :=
  String.ofList (dropEndWhile (· == c) s.toList)

/-- A text is blank when nothing is left of it after trimming. -/
def blank (s : String) : Bool :=
  trim s == ""

@[simp] theorem toList_trim (s : String) : (trim s).toList = strip isBlank s.toList :=
  String.toList_ofList

@[simp] theorem toList_trimEnd (s : String) :
    (trimEnd s).toList = dropEndWhile isBlank s.toList :=
  String.toList_ofList

/-- Lower the ASCII letters and keep every other character: names are compared this way, and other
scripts have no agreed folding here. -/
def lower (s : String) : String :=
  String.ofList (s.toList.map Char.toLower)

/-- Some part of the characters is `needle`. -/
def occursIn (needle : List Char) : List Char → Bool
  | [] => needle.isEmpty
  | c :: cs => needle.isPrefixOf (c :: cs) || occursIn needle cs

theorem occursIn_iff {needle cs : List Char} : occursIn needle cs = true ↔ needle <:+: cs := by
  induction cs with
  | nil => rw [occursIn, List.isEmpty_iff, List.infix_nil]
  | cons c cs ih =>
    rw [occursIn, Bool.or_eq_true, List.isPrefixOf_iff_prefix, ih, List.infix_cons_iff]

def occurs (needle s : String) : Bool :=
  occursIn needle.toList s.toList

theorem occurs_iff {needle s : String} : occurs needle s = true ↔ needle.toList <:+: s.toList :=
  occursIn_iff

end Text
end MeasuredJob
