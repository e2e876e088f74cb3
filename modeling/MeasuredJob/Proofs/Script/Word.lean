import MeasuredJob.Shell

/-!
# Reading words

How a shell takes a word from the front of a text and removes its quotes.  Between single quotes
every character stands for itself, a backslash outside of them quotes the next character, and a word
goes on until an unquoted character that ends it.  Expansions and double quotes are not read: a word
with an unquoted character that begins one is refused.
-/

namespace MeasuredJob
namespace Shell

/-- A character of a word whose quotes are removed. -/
structure WordChar where
  char : Char
  /-- The character has no special meaning, whichever it is. -/
  quoted : Bool
deriving DecidableEq, Repr

namespace WordChar

def ofQuoted (c : Char) : WordChar := ⟨c, true⟩

def ofPlain (c : Char) : WordChar := ⟨c, false⟩

@[simp] theorem map_char_ofQuoted (cs : List Char) : (cs.map ofQuoted).map char = cs := by
  rw [List.map_map]
  exact List.map_id cs

end WordChar

/-- Where a reader stands in a word. -/
inductive Quoting where
  | unquoted
  /-- Right behind an unquoted backslash. -/
  | backslash
  | singleQuotes
deriving DecidableEq, Repr

/-- The characters that end a word: blanks, line breaks, and those that operators are made of. -/
def delimiters : List Char := [' ', '\t', '\n', '|', '&', ';', '<', '>', '(', ')']

/-- The characters that begin an expansion or double quotes. -/
def openers : List Char := ['$', '\x60', '"']

/-- No word goes on with this text. -/
def EndsWord (rest : List Char) : Prop :=
  ∀ c ∈ rest.head?, c ∈ delimiters

/-- The characters up to the end of the word, and the text behind it. -/
def readWord? : Quoting → List Char → Option (List WordChar × List Char)
  | .unquoted, [] => some ([], [])
  | .backslash, [] => none
  | .singleQuotes, [] => none
  | .unquoted, c :: cs =>
    if c = '\'' then readWord? .singleQuotes cs
    else if c = '\\' then readWord? .backslash cs
    else if c ∈ delimiters then some ([], c :: cs)
    else if c ∈ openers then none
    else (readWord? .unquoted cs).map (Prod.map (WordChar.ofPlain c :: ·) id)
  -- A backslash in front of a line break joins two lines, and neither of them is part of the word.
  | .backslash, c :: cs =>
    if c = '\n' then readWord? .unquoted cs
    else (readWord? .unquoted cs).map (Prod.map (WordChar.ofQuoted c :: ·) id)
  | .singleQuotes, c :: cs =>
    if c = '\'' then readWord? .unquoted cs
    else (readWord? .singleQuotes cs).map (Prod.map (WordChar.ofQuoted c :: ·) id)

/-- The word at the front of a text, and what is left of the text. -/
def nextWord? (cs : List Char) : Option (List WordChar × List Char) :=
  match cs with
  | [] => none
  | c :: _ => if c ∈ delimiters then none else readWord? .unquoted cs

theorem readWord?_of_endsWord {rest : List Char} (h : EndsWord rest) :
    readWord? .unquoted rest = some ([], rest) := by
  cases rest with
  | nil => rfl
  | cons c cs =>
    have hc : c ∈ delimiters := h c rfl
    have hquote : c ≠ '\'' := fun heq => absurd (heq ▸ hc) (by decide)
    have hbackslash : c ≠ '\\' := fun heq => absurd (heq ▸ hc) (by decide)
    rw [readWord?, if_neg hquote, if_neg hbackslash, if_pos hc]

/-! ## Single quotes -/

/-- A character inside single quotes.  A single quote closes them, stands for itself behind a
backslash and opens them again. -/
def quoteChar (c : Char) : List Char :=
  if c = '\'' then ['\'', '\\', '\'', '\''] else [c]

/-- A text as one word. -/
def singleQuoted (cs : List Char) : List Char :=
  '\'' :: (cs.flatMap quoteChar ++ ['\''])

/-- One character of a quoted text is read, and the reader is between single quotes again. -/
theorem readWord?_quoteChar (c : Char) (cs : List Char) :
    readWord? .singleQuotes (quoteChar c ++ cs) =
      (readWord? .singleQuotes cs).map (Prod.map (WordChar.ofQuoted c :: ·) id) := by
  by_cases hc : c = '\''
  · subst hc
    show readWord? .singleQuotes ('\'' :: '\\' :: '\'' :: '\'' :: cs) = _
    simp [readWord?]
  · rw [quoteChar, if_neg hc, List.singleton_append, readWord?, if_neg hc]

theorem readWord?_flatMap_quoteChar (cs : List Char) {rest : List Char} (h : EndsWord rest) :
    readWord? .singleQuotes (cs.flatMap quoteChar ++ '\'' :: rest) =
      some (cs.map WordChar.ofQuoted, rest) := by
  induction cs with
  | nil =>
    rw [List.flatMap_nil, List.nil_append, readWord?, if_pos rfl, readWord?_of_endsWord h]
    rfl
  | cons c cs ih =>
    rw [List.flatMap_cons, List.append_assoc, readWord?_quoteChar, ih]
    rfl

/-- Any text between single quotes is one word, all of it quoted. -/
theorem nextWord?_singleQuoted (cs : List Char) {rest : List Char} (h : EndsWord rest) :
    nextWord? (singleQuoted cs ++ rest) = some (cs.map WordChar.ofQuoted, rest) := by
  have hread := readWord?_flatMap_quoteChar cs h
  rw [singleQuoted, List.cons_append, List.append_assoc, List.singleton_append, nextWord?,
    if_neg (by decide), readWord?, if_pos rfl, hread]

end Shell
end MeasuredJob
