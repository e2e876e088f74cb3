import MeasuredJob.Proofs.Script.Markers
import MeasuredJob.Proofs.Script.Preamble
import MeasuredJob.Proofs.Success
import MeasuredJob.Proofs.Text.Trimming

/-!
# The regions of a script

A log reader cuts a script at the lines that print the markers.  The fragments and the command are
free text, so that a line of theirs may look much like such a line.  But a text without a marker has
no line that prints one, and the reader finds between its cuts what was written there.
-/

namespace MeasuredJob
namespace Script

/-! ## Cutting -/

/-- The text before the first line `l` and the text after it. -/
def cutAtLine? (l s : String) : Option (String × String) :=
  let ls := Shell.readLines s
  if l ∈ ls then
    some (unlines (ls.takeWhile fun l' => l' != l),
      Shell.lines (ls.dropWhile fun l' => l' != l).tail)
  else none

/-- What the lines that print the markers keep apart. -/
structure Regions where
  setup : String
  gap : String
  measured : String
  teardown : String
deriving DecidableEq, Repr

/-- Cut a script at the first line that prints the first marker, what is left at the first line that
prints the second one, and so on. -/
def regions? (s : String) : Option Regions := do
  let (setup, rest) ← cutAtLine? (printLine .separator) s
  let (gap, rest) ← cutAtLine? (printLine .collectionStart) rest
  let (measured, teardown) ← cutAtLine? (printLine .collectionEnd) rest
  pure { setup, gap, measured, teardown }

theorem unlines_eq_lines {ls : List String} (hne : ls ≠ []) :
    unlines ls = Shell.lines ls ++ "\n" := by
  induction ls with
  | nil => exact absurd rfl hne
  | cons l ls ih =>
    cases ls with
    | nil =>
      have hnil : unlines [] = "" := rfl
      rw [unlines_cons, hnil, String.append_empty, Shell.lines, String.intercalate_singleton]
    | cons l' ls =>
      rw [unlines_cons, ih (List.cons_ne_nil l' ls), Shell.lines_cons_cons, ← String.append_assoc]

theorem unlines_readLines (s : String) : unlines (Shell.readLines s) = s ++ "\n" := by
  obtain ⟨first, hfirst⟩ := Shell.exists_readLines_eq_cons s
  have hne : Shell.readLines s ≠ [] := hfirst ▸ List.cons_ne_nil _ _
  rw [unlines_eq_lines hne, Shell.lines_readLines]

/-- Lines that are read one by one are written as they were. -/
theorem unlines_flatMap_readLines (ls : List String) :
    unlines (ls.flatMap Shell.readLines) = unlines ls := by
  induction ls with
  | nil => rfl
  | cons l ls ih => rw [List.flatMap_cons, unlines_append, unlines_readLines, ih, unlines_cons]

/-- The pieces may have several lines each. -/
theorem cutAtLine?_unlines {l : String} {pieces : List String} (hl : '\n' ∉ l.toList)
    (hpieces : ∀ t ∈ pieces, l ∉ Shell.readLines t) (rest : String) :
    cutAtLine? l (unlines pieces ++ (l ++ "\n" ++ rest)) = some (unlines pieces, rest) := by
  have hread : Shell.readLines (unlines pieces ++ (l ++ "\n" ++ rest)) =
      pieces.flatMap Shell.readLines ++ l :: Shell.readLines rest := by
    rw [readLines_unlines_append, Shell.readLines_append_line, Shell.readLines_eq_singleton hl,
      List.singleton_append]
  have hbefore : l ∉ pieces.flatMap Shell.readLines := by
    rw [List.mem_flatMap]
    rintro ⟨t, ht, hmem⟩
    exact hpieces t ht hmem
  rw [cutAtLine?, hread, if_pos (by simp), Shell.takeWhile_append_line hbefore,
    Shell.dropWhile_append_line hbefore, List.tail_cons, unlines_flatMap_readLines,
    Shell.lines_readLines]

/-! ## Lines that print markers -/

variable (m : Marker)

theorem lineBreak_notMem_printLine : '\n' ∉ (printLine m).toList := by
  cases m <;> decide

theorem markerLine_eq : markerLine m = printLine m ++ "\n" := by
  have hbreak : "\"\n" = "\"" ++ "\n" := by
    simp only [String.reduceAppend]
  rw [markerLine, printLine, hbreak, ← String.append_assoc]

theorem total_readLines (s : String) : m.total (Shell.readLines s) = m.occurrences s := by
  have hbreak : m.lastChar ∉ "\n".toList := by
    cases m <;> decide
  rw [← occurrences_unlines, unlines_readLines, m.occurrences_append_right s hbreak]

/-- A text without the marker has no line that prints it. -/
theorem printLine_notMem_readLines {s : String} (h : m.occurrences s = 0) :
    printLine m ∉ Shell.readLines s := by
  intro hmem
  rw [← total_readLines, m.total_eq_zero_iff] at h
  have hprinted := h _ hmem
  rw [occurrences_printLine, if_pos rfl] at hprinted
  exact Nat.one_ne_zero hprinted

theorem cutAtLine?_printLine {pieces : List String} (h : m.total pieces = 0) (rest : String) :
    cutAtLine? (printLine m) (unlines pieces ++ (printLine m ++ "\n" ++ rest)) =
      some (unlines pieces, rest) :=
  cutAtLine?_unlines (lineBreak_notMem_printLine m)
    (fun t ht => printLine_notMem_readLines m (m.total_eq_zero_iff.mp h t ht)) rest

/-! ## Regions of a rendered script -/

def setupLines (setName shell : String) (container : Container) (group : JobGroup) : List String :=
  headerLines setName shell container group ++ container.script.pre.flatMap fragmentLines ++ [""]

theorem setupRegion_eq_unlines (setName shell : String) (container : Container)
    (group : JobGroup) :
    setupRegion setName shell container group =
      unlines (setupLines setName shell container group) := by
  rw [setupRegion, setupLines, unlines_append, unlines_append, header_eq_unlines,
    fragmentTexts_eq_unlines]
  rfl

theorem measuredRegion_eq_unlines (script : Script) :
    measuredRegion script = unlines [Text.trimEnd script.command.render] := by
  have hnil : unlines [] = "" := rfl
  rw [measuredRegion, line, unlines_cons, hnil, String.append_empty]

/-- The part of a script behind the line that prints the last marker. -/
def teardownRegion (settings : Settings) (interactive : Bool) (script : Script) : String :=
  fragmentTexts script.post ++ (if interactive then interactiveTail settings.idleCommand else "")

theorem text_eq_regions (setName : String) (settings : Settings) (interactive : Bool)
    (container : Container) (group : JobGroup) :
    text setName settings interactive container group =
      setupRegion setName settings.shell container group ++ (printLine .separator ++ "\n" ++
        (unlines [] ++ (printLine .collectionStart ++ "\n" ++
          (measuredRegion container.script ++ (printLine .collectionEnd ++ "\n" ++
            teardownRegion settings interactive container.script))))) := by
  have hnil : unlines [] = "" := rfl
  rw [text, teardownRegion, hnil]
  simp only [markerLine_eq, String.append_assoc, String.empty_append]

theorem regions?_text {setName : String} {settings : Settings} {interactive : Bool}
    {container : Container} {group : JobGroup}
    (hheader : ∀ m : Marker, m.total (headerLines setName settings.shell container group) = 0)
    (hfound : container.script.foundMarker? = none) :
    regions? (text setName settings interactive container group) = some {
      setup := setupRegion setName settings.shell container group
      gap := ""
      measured := measuredRegion container.script
      teardown := teardownRegion settings interactive container.script } := by
  have htexts : ∀ m : Marker, m.total container.script.pre = 0 ∧
      m.occurrences container.script.command.render = 0 := by
    intro m
    have htotal := total_contributedTexts m hfound
    simp only [contributedTexts, m.total_append, Marker.total] at htotal
    omega
  have hsetup : ∀ m : Marker, m.total (setupLines setName settings.shell container group) = 0 := by
    intro m
    rw [setupLines, m.total_append, m.total_append, total_fragments, hheader, (htexts m).1,
      Marker.total, m.occurrences_empty]
    rfl
  have hmeasured : ∀ m : Marker, m.total [Text.trimEnd container.script.command.render] = 0 := by
    intro m
    rw [Marker.total, m.occurrences_trimEnd, (htexts m).2]
    rfl
  rw [text_eq_regions, setupRegion_eq_unlines, measuredRegion_eq_unlines, regions?,
    cutAtLine?_printLine _ (hsetup _)]
  simp only [Option.bind_eq_bind, Option.bind_some]
  rw [cutAtLine?_printLine _ rfl]
  simp only [Option.bind_some]
  rw [cutAtLine?_printLine _ (hmeasured _)]
  rfl

/-! ## Fragments -/

/-- The fragments that are not blank, each below an empty line. -/
def paragraphs (fragments : List String) : String :=
  String.join ((fragments.filter fun f => !Text.blank f).map fun f =>
    "\n" ++ Text.trimEnd (Text.trimChar '\n' f) ++ "\n")

theorem fragmentTexts_eq_paragraphs (fragments : List String) :
    fragmentTexts fragments = paragraphs fragments := by
  rw [fragmentTexts, paragraphs]
  induction fragments with
  | nil => rw [List.map_nil, List.filter_nil, List.map_nil]
  | cons fragment fragments ih =>
    have hblank : Text.blank (Text.trimChar '\n' fragment) = Text.blank fragment :=
      Text.blank_trimChar (by decide) fragment
    rw [List.map_cons, String.join_cons, ih, fragmentText, hblank]
    by_cases hdropped : Text.blank fragment = true
    · rw [if_pos hdropped, List.filter_cons_of_neg (by simp [hdropped]), String.empty_append]
    · rw [if_neg hdropped, List.filter_cons_of_pos (by simp [hdropped]), List.map_cons,
        String.join_cons, line, ← String.append_assoc]

/-! ## Refusal -/

theorem foundMarker?_eq_some_iff {script : Script} {m : Marker} :
    script.foundMarker? = some m ↔
      ∃ before t after, script.contributedTexts = before ++ t :: after ∧
        Marker.find? t = some m ∧ ∀ u ∈ before, Marker.find? u = none := by
  rw [foundMarker?, List.findSome?_eq_some_iff]

theorem exists_foundMarker?_iff {script : Script} :
    (∃ m, script.foundMarker? = some m) ↔
      ∃ t ∈ script.contributedTexts, ∃ m : Marker, m.text.toList <:+: t.toList := by
  rw [← Option.isSome_iff_exists, foundMarker?, List.findSome?_isSome_iff]
  simp only [Marker.isSome_find?_iff]

end Script

/-- A script is refused exactly if one of its fragments or its command contains a marker, and the
first of them is reported.  From every other script a log reader recovers what was written: the
header and the fragments before the command, nothing, the command, and what comes after it. -/
theorem regions_of_render {setName : String} {settings : Settings} {container : Container}
    {group : JobGroup}
    (hfree : ∀ t ∈ [settings.shell, setName, group.name, container.name], Marker.find? t = none)
    (interactive : Bool) :
    (∀ e, Script.render setName settings interactive container group = .error e ↔
      ∃ before t after m, container.script.contributedTexts = before ++ t :: after ∧
        (∀ u ∈ before, Marker.find? u = none) ∧ Marker.find? t = some m ∧
        e = .markerInFragment container.name m) ∧
    ((∃ e, Script.render setName settings interactive container group = .error e) ↔
      ∃ t ∈ container.script.pre ++ [container.script.command.render] ++ container.script.post,
        ∃ m : Marker, m.text.toList <:+: t.toList) ∧
    ∀ s, Script.render setName settings interactive container group = .ok s →
      Script.regions? s = some {
        setup := Script.header setName settings.shell container group ++
          Script.paragraphs container.script.pre ++ "\n"
        gap := ""
        measured := Text.trimEnd container.script.command.render ++ "\n"
        teardown := Script.paragraphs container.script.post ++
          if interactive then "\necho \"Interactive mode, keeping container alive\"\n" ++
            Text.trimEnd settings.idleCommand ++ "\n" else "" } := by
  refine ⟨fun e => ?_, ?_, fun s hs => ?_⟩
  · rw [Script.render_eq_error_iff]
    simp only [Script.foundMarker?_eq_some_iff]
    constructor
    · rintro ⟨m, ⟨before, t, after, hsplit, hm, hbefore⟩, rfl⟩
      exact ⟨before, t, after, m, hsplit, hbefore, hm, rfl⟩
    · rintro ⟨before, t, after, m, hsplit, hbefore, hm, rfl⟩
      exact ⟨m, ⟨before, t, after, hsplit, hm, hbefore⟩, rfl⟩
  · rw [← Script.contributedTexts, ← Script.exists_foundMarker?_iff]
    simp only [Script.render_eq_error_iff]
    constructor
    · rintro ⟨e, m, hm, -⟩
      exact ⟨m, hm⟩
    · rintro ⟨m, hm⟩
      exact ⟨_, m, hm, rfl⟩
  · obtain ⟨hfound, rfl⟩ := Script.render_eq_ok_iff.mp hs
    have hheader : ∀ m : Marker,
        m.total (Script.headerLines setName settings.shell container group) = 0 := by
      intro m
      have hnames : ∀ t ∈ [settings.shell, setName, group.name, container.name],
          m.occurrences t = 0 := fun t ht =>
        Marker.find?_eq_none_iff_occurrences.mp (hfree t ht) m
      simp only [List.forall_mem_cons] at hnames
      rw [Script.total_headerLines, hnames.1, hnames.2.1, hnames.2.2.1, hnames.2.2.2.1]
    rw [Script.regions?_text hheader hfound, Script.setupRegion, Script.measuredRegion,
      Script.teardownRegion, Script.fragmentTexts_eq_paragraphs,
      Script.fragmentTexts_eq_paragraphs, Script.line, Script.interactiveTail, Script.line]
    simp only [String.append_assoc]
    rfl

/-- Everything in it looks like a marker and is none: the texts are interrupted by line breaks, or
put together from two fragments. -/
def Script.lookalike : Container := {
  name := "m"
  jobGroup := "w"
  image := "i"
  script := {
    pre := ["\n \t\n", "\n\n  echo \"METRICS OPERATOR\nTIMEPOINT\"  \n", "echo \"METRICS OPERATOR"]
    command := {
      launcher := some "mpirun "
      invocation := "run METRICS\necho \"COLLECTION END\"\t" }
    post := ["TIMEPOINT\"", ""] } }

theorem regions_of_lookalike :
    (∀ t ∈ ["/bin/bash", "set", "w", "m"], Marker.find? t = none) ∧
      ∃ s, Script.render "set" {} true Script.lookalike { name := "w", replicas := 2 } = .ok s ∧
        Script.regions? s = some {
          setup := "#!/bin/bash\n# MetricSet: set\n# Job group: w (2 replicas)\n" ++
            "# Container: m\n\nreplica_index=\"$\x7bJOB_COMPLETION_INDEX:-0\x7d\"\n" ++
            "\n  echo \"METRICS OPERATOR\nTIMEPOINT\"\n" ++ "\necho \"METRICS OPERATOR\n" ++ "\n"
          gap := ""
          measured := "mpirun run METRICS\necho \"COLLECTION END\"\n"
          teardown := "\nTIMEPOINT\"\n" ++
            "\necho \"Interactive mode, keeping container alive\"\nsleep infinity\n" } := by
  have hfree : ∀ t ∈ ["/bin/bash", "set", "w", "m"], Marker.find? t = none := by
    decide +kernel
  have hregions := @regions_of_render "set" {} Script.lookalike { name := "w", replicas := 2 }
    hfree true
  obtain ⟨s, hs⟩ : ∃ s, Script.render "set" {} true Script.lookalike
      { name := "w", replicas := 2 } = .ok s := Success.exists_of_isOk (by decide +kernel)
  refine ⟨hfree, s, hs, (hregions.2.2 s hs).trans ?_⟩
  decide +kernel

end MeasuredJob
