import MeasuredJob.Proofs.Script.Lines

/-!
# Markers of a script

A log reader looks for each marker once.  Whether it finds it once is decided by the texts that
rendering takes over without looking at them: those in the header, and the idle command.
-/

namespace MeasuredJob

/-- A log reader finds every marker once, and the markers in the order in which they are printed. -/
structure Script.MarkedOnce (text : String) : Prop where
  once : ∀ m : Marker, m.occurrences text = 1
  ordered : ∃ setup gap measured teardown, text = setup ++ Marker.separator.text ++ gap ++
    Marker.collectionStart.text ++ measured ++ Marker.collectionEnd.text ++ teardown

namespace Script

/-- The texts from outside that no one searches for markers. -/
def uncheckedTexts (setName : String) (settings : Settings) (interactive : Bool)
    (container : Container) : List String :=
  [settings.shell, setName, container.jobGroup, container.name] ++
    if interactive then [settings.idleCommand] else []

theorem foundMarker?_eq_none_iff {script : Script} :
    script.foundMarker? = none ↔ ∀ t ∈ script.contributedTexts, Marker.find? t = none := by
  rw [foundMarker?, List.findSome?_eq_none_iff]

theorem render_eq_ok_iff {setName : String} {settings : Settings} {interactive : Bool}
    {container : Container} {group : JobGroup} {s : String} :
    render setName settings interactive container group = .ok s ↔
      container.script.foundMarker? = none ∧
        s = text setName settings interactive container group := by
  rw [render]
  cases container.script.foundMarker? with
  | none => simp [eq_comm]
  | some marker => simp

theorem render_eq_error_iff {setName : String} {settings : Settings} {interactive : Bool}
    {container : Container} {group : JobGroup} {e : Error} :
    render setName settings interactive container group = .error e ↔
      ∃ m, container.script.foundMarker? = some m ∧ e = .markerInFragment container.name m := by
  rw [render]
  cases container.script.foundMarker? with
  | none => simp
  | some marker => simp [eq_comm]

/-! ## Counting in the pieces -/

variable (m : Marker)

theorem lastChar_notMem_replicaText (n : UInt32) : m.lastChar ∉ (replicaText n).toList := by
  have hdigits : m.lastChar ∉ n.toNat.repr.toList := by
    intro h
    rw [Nat.toList_repr] at h
    have hdigit : m.lastChar.isDigit = true :=
      Nat.isDigit_of_mem_toDigits (by decide) (by decide) h
    cases m <;> exact absurd hdigit (by decide)
  have hword : m.lastChar ∉ (if n = 1 then " replica" else " replicas").toList := by
    split <;> cases m <;> decide
  rw [replicaText, String.toList_append, List.mem_append, not_or]
  exact ⟨hdigits, hword⟩

theorem occurrences_nameLine (setName : String) :
    m.occurrences ("# MetricSet: " ++ setName) = m.occurrences setName := by
  -- The label has the first letter of every marker, so it is cut off at its colon.
  have hchars : ("# MetricSet: " ++ setName).toList =
      "# MetricSet".toList ++ ':' :: (" ".toList ++ setName.toList) := by
    rw [String.toList_append]
    rfl
  have hcolon : ':' ∉ m.text.toList := by
    cases m <;> decide
  have hlabel : Text.occurrencesIn m.text.toList "# MetricSet".toList = 0 := by
    cases m <;> decide
  rw [Marker.occurrences, hchars, Text.occurrencesIn_append_cons hcolon, hlabel, Nat.zero_add,
    Text.occurrencesIn_append_left m.head?_text (by decide)]
  rfl

theorem occurrences_groupLine (name : String) (replicas : UInt32) :
    m.occurrences ("# Job group: " ++ (name ++ (" (" ++ replicaText replicas ++ ")"))) =
      m.occurrences name := by
  have hreplicas : m.lastChar ∉ (" (" ++ replicaText replicas ++ ")").toList := by
    have hopen : m.lastChar ∉ " (".toList := by
      cases m <;> decide
    have hclose : m.lastChar ∉ ")".toList := by
      cases m <;> decide
    simp only [String.toList_append, List.mem_append, not_or]
    exact ⟨⟨hopen, lastChar_notMem_replicaText m replicas⟩, hclose⟩
  rw [m.occurrences_append_left (by decide), m.occurrences_append_right _ hreplicas]

theorem total_headerLines (setName shell : String) (container : Container) (group : JobGroup) :
    m.total (headerLines setName shell container group) =
      m.occurrences shell + m.occurrences setName + m.occurrences group.name +
        m.occurrences container.name := by
  have hshell : m.occurrences ("#!" ++ shell) = m.occurrences shell :=
    m.occurrences_append_left (by decide) shell
  have hname : m.occurrences ("# Container: " ++ container.name) = m.occurrences container.name :=
    m.occurrences_append_left (by decide) container.name
  have hreplica : m.occurrences "replica_index=\"$\x7bJOB_COMPLETION_INDEX:-0\x7d\"" = 0 := by
    cases m <;> decide
  simp only [headerLines, Marker.total, hshell,
    occurrences_nameLine, occurrences_groupLine, hname, m.occurrences_empty, hreplica]
  omega

theorem total_fragmentLines (fragment : String) :
    m.total (fragmentLines fragment) = m.occurrences fragment := by
  rw [← m.occurrences_trimChar fragment, fragmentLines]
  by_cases hblank : Text.blank (Text.trimChar '\n' fragment) = true
  · rw [if_pos hblank, m.occurrences_of_blank hblank]
    rfl
  · rw [if_neg hblank]
    simp only [Marker.total, m.occurrences_empty, m.occurrences_trimEnd, Nat.zero_add,
      Nat.add_zero]

theorem total_fragments (fragments : List String) :
    m.total (fragments.flatMap fragmentLines) = m.total fragments := by
  induction fragments with
  | nil => rfl
  | cons fragment fragments ih =>
    rw [List.flatMap_cons, m.total_append, total_fragmentLines, ih, Marker.total]

theorem occurrences_printLine (m' : Marker) :
    m.occurrences (printLine m') = if m = m' then 1 else 0 := by
  cases m <;> cases m' <;> decide

theorem total_measuredLines (script : Script) :
    m.total (measuredLines script) = 1 + m.occurrences script.command.render := by
  simp only [measuredLines, Marker.total, m.occurrences_empty, m.occurrences_trimEnd,
    occurrences_printLine]
  cases m <;> simp [Nat.add_comm]

theorem total_interactiveLines (idleCommand : String) :
    m.total (interactiveLines idleCommand) = m.occurrences idleCommand := by
  have hkeep : m.occurrences "echo \"Interactive mode, keeping container alive\"" = 0 := by
    cases m <;> decide
  simp only [interactiveLines, Marker.total, m.occurrences_empty, m.occurrences_trimEnd, hkeep,
    Nat.zero_add, Nat.add_zero]

theorem total_contributedTexts {script : Script} (h : script.foundMarker? = none) :
    m.total script.contributedTexts = 0 := by
  rw [m.total_eq_zero_iff]
  intro t ht
  exact Marker.find?_eq_none_iff_occurrences.mp (foundMarker?_eq_none_iff.mp h t ht) m

/-! ## Counting in the whole script -/

/-- The script prints the marker once, and every other occurrence is one in a text from outside. -/
theorem occurrences_text {setName : String} {settings : Settings} {interactive : Bool}
    {container : Container} {group : JobGroup} (hgroup : group.name = container.jobGroup) :
    m.occurrences (text setName settings interactive container group) =
      1 + m.total container.script.contributedTexts +
        m.total (uncheckedTexts setName settings interactive container) := by
  have htail : m.total (if interactive then interactiveLines settings.idleCommand else []) =
      m.total (if interactive then [settings.idleCommand] else []) := by
    cases interactive with
    | false => rfl
    | true => exact total_interactiveLines m settings.idleCommand
  rw [text_eq_unlines, occurrences_unlines]
  simp only [textLines, contributedTexts, uncheckedTexts, m.total_append, total_headerLines,
    total_fragments, total_measuredLines, htail, Marker.total, hgroup]
  omega

theorem ordered_text (setName : String) (settings : Settings) (interactive : Bool)
    (container : Container) (group : JobGroup) :
    ∃ setup gap measured teardown, text setName settings interactive container group =
      setup ++ Marker.separator.text ++ gap ++ Marker.collectionStart.text ++ measured ++
        Marker.collectionEnd.text ++ teardown := by
  refine ⟨setupRegion setName settings.shell container group ++ "echo \"",
    "\"\n" ++ "echo \"", "\"\n" ++ measuredRegion container.script ++ "echo \"",
    "\"\n" ++ fragmentTexts container.script.post ++
      (if interactive then interactiveTail settings.idleCommand else ""), ?_⟩
  simp only [text, markerLine, String.append_assoc]

/-- Where no contributed text contains a marker, the texts that no one searched decide. -/
theorem markedOnce_text_iff {setName : String} {settings : Settings} {interactive : Bool}
    {container : Container} {group : JobGroup} (hgroup : group.name = container.jobGroup)
    (hfound : container.script.foundMarker? = none) :
    MarkedOnce (text setName settings interactive container group) ↔
      ∀ t ∈ uncheckedTexts setName settings interactive container, Marker.find? t = none := by
  have hcount : ∀ m : Marker,
      m.occurrences (text setName settings interactive container group) = 1 ↔
        ∀ t ∈ uncheckedTexts setName settings interactive container, m.occurrences t = 0 := by
    intro m
    rw [occurrences_text m hgroup, total_contributedTexts m hfound, ← m.total_eq_zero_iff]
    omega
  constructor
  · intro hmarked t ht
    rw [Marker.find?_eq_none_iff_occurrences]
    exact fun m => (hcount m).mp (hmarked.once m) t ht
  · intro hfree
    refine ⟨fun m => (hcount m).mpr fun t ht => ?_, ordered_text ..⟩
    exact Marker.find?_eq_none_iff_occurrences.mp (hfree t ht) m

end Script
end MeasuredJob
