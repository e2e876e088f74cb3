import MeasuredJob.Proofs.Text.Occurrence
import MeasuredJob.Script.Render

/-!
# Markers in the lines of a script

A script is a list of lines, and no marker has a line break, so the occurrences of a marker in a
script are those in its lines.  Counting them line by line leaves the one line that prints the
marker and the texts that come from outside.
-/

namespace MeasuredJob
namespace Marker

/-- How often the text of a marker occurs. -/
def occurrences (m : Marker) (s : String) : Nat :=
  Text.occurrencesIn m.text.toList s.toList

/-- How often the text of a marker occurs in several texts, each by itself. -/
def total (m : Marker) : List String → Nat
  | [] => 0
  | t :: ts => m.occurrences t + m.total ts

def lastChar : Marker → Char
  | .separator => 'T'
  | .collectionStart => 'T'
  | .collectionEnd => 'D'

theorem head?_text (m : Marker) : m.text.toList.head? = some 'M' := by
  cases m <;> decide

theorem getLast?_text (m : Marker) : m.text.toList.getLast? = some m.lastChar := by
  cases m <;> decide

theorem find?_eq_none_iff_occurrences {s : String} :
    find? s = none ↔ ∀ m : Marker, m.occurrences s = 0 := by
  rw [find?_eq_none_iff]
  exact forall_congr' fun _ => Text.occurrencesIn_eq_zero_iff.symm

theorem isSome_find?_iff {s : String} :
    (find? s).isSome = true ↔ ∃ m : Marker, m.text.toList <:+: s.toList := by
  rw [find?, List.find?_isSome]
  simp only [Text.occurs_iff]
  constructor
  · rintro ⟨m, -, hm⟩
    exact ⟨m, hm⟩
  · rintro ⟨m, hm⟩
    exact ⟨m, mem_all m, hm⟩

variable (m : Marker)

theorem occurrences_empty : m.occurrences "" = 0 := by
  cases m <;> decide

theorem total_append (ts ts' : List String) : m.total (ts ++ ts') = m.total ts + m.total ts' := by
  induction ts with
  | nil => exact (Nat.zero_add _).symm
  | cons t ts ih => rw [List.cons_append, total, total, ih, Nat.add_assoc]

theorem total_eq_zero_iff {ts : List String} :
    m.total ts = 0 ↔ ∀ t ∈ ts, m.occurrences t = 0 := by
  induction ts with
  | nil => simp [total]
  | cons t ts ih => rw [total, Nat.add_eq_zero_iff, ih, List.forall_mem_cons]

theorem occurrences_append_left {s : String} (hs : 'M' ∉ s.toList) (t : String) :
    m.occurrences (s ++ t) = m.occurrences t := by
  rw [occurrences, String.toList_append, Text.occurrencesIn_append_left m.head?_text hs]
  rfl

theorem occurrences_append_right (s : String) {t : String} (ht : m.lastChar ∉ t.toList) :
    m.occurrences (s ++ t) = m.occurrences s := by
  rw [occurrences, String.toList_append, Text.occurrencesIn_append_right m.getLast?_text ht]
  rfl

theorem occurrences_trimEnd (s : String) : m.occurrences (Text.trimEnd s) = m.occurrences s := by
  have hlast : Text.isBlank m.lastChar = false := by
    cases m <;> decide
  rw [occurrences, Text.toList_trimEnd,
    Text.occurrencesIn_dropEndWhile m.getLast?_text hlast]
  rfl

theorem occurrencesIn_strip {p : Char → Bool} (hfirst : p 'M' = false)
    (hlast : p m.lastChar = false) (cs : List Char) :
    Text.occurrencesIn m.text.toList (Text.strip p cs) =
      Text.occurrencesIn m.text.toList cs := by
  rw [Text.strip, Text.occurrencesIn_dropEndWhile m.getLast?_text hlast,
    Text.occurrencesIn_dropWhile m.head?_text hfirst]

theorem occurrences_trim (s : String) : m.occurrences (Text.trim s) = m.occurrences s := by
  have hlast : Text.isBlank m.lastChar = false := by
    cases m <;> decide
  rw [occurrences, Text.toList_trim, m.occurrencesIn_strip (by decide) hlast]
  rfl

theorem occurrences_trimChar (s : String) :
    m.occurrences (Text.trimChar '\n' s) = m.occurrences s := by
  have hlast : (m.lastChar == '\n') = false := by
    cases m <;> decide
  rw [occurrences, Text.trimChar, String.toList_ofList,
    m.occurrencesIn_strip (by decide) hlast]
  rfl

theorem occurrences_of_blank {s : String} (h : Text.blank s = true) : m.occurrences s = 0 := by
  rw [← occurrences_trim, eq_of_beq h, occurrences_empty]

end Marker

namespace Script

/-! ## Lines -/

/-- Lines of text, each with its line break. -/
def unlines (ls : List String) : String :=
  String.join (ls.map (· ++ "\n"))

theorem unlines_cons (l : String) (ls : List String) :
    unlines (l :: ls) = l ++ "\n" ++ unlines ls :=
  String.join_cons

theorem unlines_append (ls ls' : List String) :
    unlines (ls ++ ls') = unlines ls ++ unlines ls' := by
  induction ls with
  | nil => simp [unlines]
  | cons l ls ih =>
    rw [List.cons_append, unlines_cons, unlines_cons, ih, ← String.append_assoc]

theorem occurrences_unlines (m : Marker) (ls : List String) :
    m.occurrences (unlines ls) = m.total ls := by
  induction ls with
  | nil => exact m.occurrences_empty
  | cons l ls ih =>
    have hbreak : '\n' ∉ m.text.toList := by
      cases m <;> decide
    have hchars : (l ++ "\n" ++ unlines ls).toList = l.toList ++ '\n' :: (unlines ls).toList := by
      rw [String.toList_append, String.toList_append, List.append_assoc]
      rfl
    rw [unlines_cons, Marker.occurrences, hchars, Text.occurrencesIn_append_cons hbreak,
      Marker.total, ← ih]
    rfl

def headerLines (setName shell : String) (container : Container) (group : JobGroup) :
    List String := [
  "#!" ++ shell,
  "# MetricSet: " ++ setName,
  "# Job group: " ++ (group.name ++ (" (" ++ replicaText group.replicas ++ ")")),
  "# Container: " ++ container.name,
  "",
  "replica_index=\"$\x7bJOB_COMPLETION_INDEX:-0\x7d\""]

def fragmentLines (fragment : String) : List String :=
  let body := Text.trimChar '\n' fragment
  if Text.blank body then [] else ["", Text.trimEnd body]

def printLine (marker : Marker) : String :=
  "echo \"" ++ marker.text ++ "\""

def measuredLines (script : Script) : List String :=
  ["", printLine .separator, printLine .collectionStart, Text.trimEnd script.command.render,
    printLine .collectionEnd]

def interactiveLines (idleCommand : String) : List String :=
  ["", "echo \"Interactive mode, keeping container alive\"", Text.trimEnd idleCommand]

def textLines (setName : String) (settings : Settings) (interactive : Bool)
    (container : Container) (group : JobGroup) : List String :=
  headerLines setName settings.shell container group ++
    container.script.pre.flatMap fragmentLines ++
    measuredLines container.script ++
    container.script.post.flatMap fragmentLines ++
    if interactive then interactiveLines settings.idleCommand else []

theorem header_eq_unlines (setName shell : String) (container : Container) (group : JobGroup) :
    header setName shell container group =
      unlines (headerLines setName shell container group) := by
  have hnil : unlines [] = "" := rfl
  have hbreaks : "\n\n" = "\n" ++ "\n" := by
    simp only [String.reduceAppend]
  have hgroup : ")\n" = ")" ++ "\n" := by
    simp only [String.reduceAppend]
  have hreplica : "replica_index=\"$\x7bJOB_COMPLETION_INDEX:-0\x7d\"\n" =
      "replica_index=\"$\x7bJOB_COMPLETION_INDEX:-0\x7d\"" ++ "\n" := by
    simp only [String.reduceAppend]
  unfold header
  rw [hbreaks, hgroup, hreplica]
  simp only [headerLines, unlines_cons, hnil, String.append_assoc, String.append_empty,
    String.empty_append]

theorem fragmentText_eq_unlines (fragment : String) :
    fragmentText fragment = unlines (fragmentLines fragment) := by
  have hnil : unlines [] = "" := rfl
  rw [fragmentText, fragmentLines]
  by_cases hblank : Text.blank (Text.trimChar '\n' fragment) = true
  · rw [if_pos hblank, if_pos hblank, hnil]
  · rw [if_neg hblank, if_neg hblank, unlines_cons, unlines_cons, hnil, line,
      String.append_empty, String.empty_append]

theorem fragmentTexts_eq_unlines (fragments : List String) :
    fragmentTexts fragments = unlines (fragments.flatMap fragmentLines) := by
  induction fragments with
  | nil => rw [fragmentTexts, List.flatMap_nil, unlines, List.map_nil, List.map_nil]
  | cons fragment fragments ih =>
    rw [List.flatMap_cons, unlines_append, ← fragmentText_eq_unlines, ← ih, fragmentTexts,
      List.map_cons, String.join_cons, fragmentTexts]

theorem text_eq_unlines (setName : String) (settings : Settings) (interactive : Bool)
    (container : Container) (group : JobGroup) :
    text setName settings interactive container group =
      unlines (textLines setName settings interactive container group) := by
  have hnil : unlines [] = "" := rfl
  have hbreak : "\"\n" = "\"" ++ "\n" := by
    simp only [String.reduceAppend]
  have htail : (if interactive then interactiveTail settings.idleCommand else "") =
      unlines (if interactive then interactiveLines settings.idleCommand else []) := by
    cases interactive with
    | false => rfl
    | true =>
      have hkeep : "echo \"Interactive mode, keeping container alive\"\n" =
          "echo \"Interactive mode, keeping container alive\"" ++ "\n" := by
        simp only [String.reduceAppend]
      simp only [if_true, interactiveTail, interactiveLines, line, unlines_cons, hnil, hkeep,
        String.append_assoc, String.append_empty, String.empty_append]
  rw [text, setupRegion, htail, header_eq_unlines, fragmentTexts_eq_unlines,
    fragmentTexts_eq_unlines, textLines]
  simp only [unlines_append, measuredLines, measuredRegion, unlines_cons, hnil, markerLine,
    printLine, line, hbreak, String.append_assoc, String.append_empty, String.empty_append]

end Script
end MeasuredJob
