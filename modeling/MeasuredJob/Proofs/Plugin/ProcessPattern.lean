import MeasuredJob.Plugin.Sampler
import MeasuredJob.Proofs.Script.Word

/-!
# The pattern of a process

The pattern of a command is written in one pass, and still two layers come apart when it is read.
The shell takes it as one word of quoted characters.  In that word a backslash stands in front of
every character with a meaning in a regular expression and nowhere else, so the expression spells
the trimmed command and nothing else.
-/

namespace MeasuredJob

namespace Regex

/-- The characters with a meaning in an extended regular expression. -/
def specials : List Char :=
  ['\\', '.', '^', '$', '*', '+', '?', '(', ')', '[', ']', '\x7b', '\x7d', '|']

/-- The second text is the first one with a backslash in front of every special character, and has
no other backslash. -/
inductive Escapes : List Char → List Char → Prop
  | nil : Escapes [] []
  | ordinary {c : Char} {literal escaped : List Char} (hc : c ∉ specials)
      (h : Escapes literal escaped) : Escapes (c :: literal) (c :: escaped)
  | special {c : Char} {literal escaped : List Char} (hc : c ∈ specials)
      (h : Escapes literal escaped) : Escapes (c :: literal) ('\\' :: c :: escaped)

/-- Take every backslash away that stands in front of a character. -/
def unescape : List Char → List Char
  | '\\' :: c :: cs => c :: unescape cs
  | c :: cs => c :: unescape cs
  | [] => []

theorem unescape_cons_of_ne {c : Char} (hc : c ≠ '\\') (cs : List Char) :
    unescape (c :: cs) = c :: unescape cs := by
  rw [unescape]
  rintro _ _ heq -
  exact hc heq

theorem Escapes.unescape_eq {literal escaped : List Char} (h : Escapes literal escaped) :
    unescape escaped = literal := by
  induction h with
  | nil => rfl
  | @ordinary c literal escaped hc _ ih =>
    have hne : c ≠ '\\' := fun heq => hc (heq ▸ by decide)
    rw [unescape_cons_of_ne hne, ih]
  | special hc _ ih => rw [unescape, ih]

def escapeChar (c : Char) : List Char :=
  if c ∈ specials then ['\\', c] else [c]

theorem escapes_flatMap_escapeChar (cs : List Char) : Escapes cs (cs.flatMap escapeChar) := by
  induction cs with
  | nil => exact .nil
  | cons c cs ih =>
    rw [List.flatMap_cons, escapeChar]
    by_cases hc : c ∈ specials
    · rw [if_pos hc]
      exact .special hc ih
    · rw [if_neg hc]
      exact .ordinary hc ih

end Regex

namespace Sampler

open Shell (WordChar singleQuoted quoteChar nextWord? EndsWord)

theorem isMeta_iff {c : Char} : isMeta c = true ↔ c ∈ Regex.specials :=
  List.contains_iff_mem

/-- The one pass over a command is escaping and then quoting. -/
theorem patternChar_eq (c : Char) : patternChar c = (Regex.escapeChar c).flatMap quoteChar := by
  rw [patternChar, Regex.escapeChar]
  by_cases hquote : c = '\''
  · subst hquote
    rfl
  · have hsame : quoteChar c = [c] := if_neg hquote
    by_cases hc : c ∈ Regex.specials
    · rw [if_neg hquote, if_pos (isMeta_iff.mpr hc), if_pos hc, List.flatMap_cons,
        List.flatMap_singleton, hsame]
      rfl
    · rw [if_neg hquote, if_neg (mt isMeta_iff.mp hc), if_neg hc, List.flatMap_singleton, hsame]

theorem toList_pattern (command : String) :
    (pattern command).toList =
      singleQuoted ((Text.trim command).toList.flatMap Regex.escapeChar) := by
  rw [pattern, String.toList_ofList, singleQuoted, List.flatMap_assoc, Text.toList_trim,
    funext patternChar_eq]
  rfl

theorem nextWord?_pattern (command : String) {rest : List Char} (h : EndsWord rest) :
    nextWord? ((pattern command).toList ++ rest) =
      some (((Text.trim command).toList.flatMap Regex.escapeChar).map WordChar.ofQuoted, rest) := by
  rw [toList_pattern, Shell.nextWord?_singleQuoted _ h]

/-- The patterns of two commands are the same exactly if the commands are, up to white space around
them. -/
theorem pattern_eq_iff {command command' : String} :
    pattern command = pattern command' ↔ Text.trim command = Text.trim command' := by
  constructor
  · intro hpattern
    have hend : EndsWord [] := fun _ hc => absurd hc (Option.not_mem_none _)
    have hword := nextWord?_pattern command hend
    rw [hpattern, nextWord?_pattern command' hend, Option.some.injEq, Prod.mk.injEq] at hword
    have hescaped := congrArg (List.map WordChar.char) hword.1
    rw [WordChar.map_char_ofQuoted, WordChar.map_char_ofQuoted] at hescaped
    have hliteral := congrArg Regex.unescape hescaped
    rw [(Regex.escapes_flatMap_escapeChar _).unescape_eq,
      (Regex.escapes_flatMap_escapeChar _).unescape_eq] at hliteral
    exact String.toList_inj.mp hliteral.symm
  · intro htrim
    rw [← String.toList_inj, toList_pattern, toList_pattern, htrim]

/-- The pattern is one word for the shell wherever a word may end, and none of its characters is
special there.  The word is the trimmed command with its special characters escaped, so a pattern
tells a command apart from every other one. -/
theorem pattern_spells_command (command : String) :
    (∃ word : List WordChar,
      (∀ rest, EndsWord rest →
        nextWord? ((pattern command).toList ++ rest) = some (word, rest)) ∧
      (∀ c ∈ word, c.quoted = true) ∧
      Regex.Escapes (Text.trim command).toList (word.map WordChar.char) ∧
      Regex.unescape (word.map WordChar.char) = (Text.trim command).toList) ∧
    ∀ command', pattern command = pattern command' ↔ Text.trim command = Text.trim command' := by
  have hescapes := Regex.escapes_flatMap_escapeChar (Text.trim command).toList
  refine ⟨⟨_, fun rest hrest => nextWord?_pattern command hrest, ?_, ?_⟩,
    fun command' => pattern_eq_iff⟩
  · intro c hc
    obtain ⟨_, -, rfl⟩ := List.mem_map.mp hc
    rfl
  · rw [WordChar.map_char_ofQuoted]
    exact ⟨hescapes, hescapes.unescape_eq⟩

/-- Quotes, special characters and a backslash next to each other, in front of the parenthesis that
ends a substitution.  The white space around the command does not count. -/
theorem pattern_spells_command_of_special :
    pattern " sed 's|\\.||' " = "'sed '\\''s\\|\\\\\\.\\|\\|'\\'''" ∧
      EndsWord [')'] ∧
      ∃ word, nextWord? ((pattern " sed 's|\\.||' ").toList ++ [')']) = some (word, [')']) ∧
        Regex.unescape (word.map WordChar.char) = "sed 's|\\.||'".toList := by
  have hend : EndsWord [')'] := by
    intro c hc
    cases hc
    decide
  obtain ⟨⟨word, hword, -, -, hliteral⟩, -⟩ := pattern_spells_command " sed 's|\\.||' "
  refine ⟨by decide +kernel, hend, word, hword _ hend, hliteral.trans ?_⟩
  decide +kernel

end Sampler
end MeasuredJob
