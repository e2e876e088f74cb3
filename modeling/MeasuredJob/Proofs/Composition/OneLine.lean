import MeasuredJob.Proofs.Command.Nesting
import MeasuredJob.Proofs.Composition.Fields
import MeasuredJob.Proofs.Customization.Decorating

/-!
# Measured commands on one line

A tool in front of a command governs it only as far as the line goes.  What a plugin of the library
needs more than one line for, such as the list of hosts or the sampling loop, it puts into fragments.
So a line break gets into a measured command only from a text that someone else has written, and the
words of every profiler around a command stand on its line.
-/

namespace MeasuredJob

open Success

/-! ## Line breaks -/

/-- The characters at which some reader of a text begins a new line: the line feed, the vertical
tab, the form feed, the carriage return, the next line, and the separators of lines and of
paragraphs. -/
def Text.lineBreaks : List Char :=
  ['\n', '\x0b', '\x0c', '\r', '\u0085', '\u2028', '\u2029']

/-- The text does not go on in a second line. -/
def Text.oneLine (s : String) : Bool :=
  s.toList.all fun c => !lineBreaks.contains c

/-- None of the flat options has the character in its value. -/
def OptionBag.Lacks (b : Char) (bag : OptionBag) : Prop :=
  ∀ entry ∈ bag.options.entries, b ∉ entry.2.spelling.toList

/-- The character is in none of the texts from outside that a measured command is made from. -/
structure Declaration.Lacks (b : Char) (settings : Settings) (decl : Declaration) : Prop where
  shell : b ∉ settings.shell.toList
  idleCommand : b ∉ settings.idleCommand.toList
  application : ∀ app ∈ decl.application,
    b ∉ app.command.toList ∧ ∀ line ∈ app.entrypoint, b ∉ line.toList
  options : ∀ use ∈ decl.metrics ++ decl.addons, use.bag.Lacks b

variable {b : Char}

theorem Text.ne_space_of_mem_lineBreaks (hb : b ∈ lineBreaks) : b ≠ ' ' := by
  rintro rfl
  exact absurd hb (by decide)

theorem Text.notMem_of_oneLine (hb : b ∈ lineBreaks) {s : String} (h : oneLine s = true) :
    b ∉ s.toList := by
  intro hmem
  have hnot := List.all_eq_true.mp h b hmem
  rw [List.contains_iff_mem.mpr hb] at hnot
  exact Bool.false_ne_true hnot

theorem OptionBag.Lacks.notMem_textOr {bag : OptionBag} (h : bag.Lacks b) (key : String)
    {default : String} (hdefault : b ∉ default.toList) : b ∉ (bag.textOr key default).toList := by
  rw [textOr, text?]
  cases hvalue : bag.options.get? key with
  | none => exact hdefault
  | some value =>
    rw [Option.map_some, Option.getD_some]
    exact h (key, value) (Table.get?_eq_some_iff.mp hvalue)

/-! ## Words around commands -/

/-- What a profiler puts before a command and after it. -/
def Profiler.words (options : Options) : String × String :=
  ("hpcrun " ++ Text.trim options.events, "")

/-- The use asks for the profiler, and the words are those of its options. -/
def PluginUse.WrapsWith (use : PluginUse) (words : String × String) : Prop :=
  use.name = Profiler.identifier ∧ words = Profiler.words (Profiler.readOptions use.bag)

/-- The words come from a profiler of the declaration. -/
def Declaration.WrapsWith (decl : Declaration) (words : String × String) : Prop :=
  ∃ use ∈ decl.addons, use.WrapsWith words

theorem Command.wrapAll_append (command : Command) (wraps wraps' : List (String × String)) :
    command.wrapAll (wraps ++ wraps') = (command.wrapAll wraps).wrapAll wraps' :=
  List.foldl_append

/-- An addon that goes by its scope changes a command by its wrap at most. -/
theorem Addon.command_visit (addon : Addon) (groups : List JobGroup) (container : Container) :
    (addon.visit groups container).script.command = container.script.command ∨
      ∃ prepared : Container, prepared.script.command = container.script.command ∧
        addon.visit groups container = addon.wrap prepared := by
  rcases addon.visit_eq_cases groups container with hvisit | ⟨group, -, -, hvisit⟩
  · exact .inl (by rw [hvisit])
  · rw [hvisit, customizeContainer_eq]
    split
    · exact .inr ⟨container.customized (addon.setup group).toList [] false, rfl, rfl⟩
    · exact .inl rfl

theorem Profiler.command_profile (options : Options) (container : Container) :
    (profile options container).script.command =
      container.script.command.wrap (words options).1 (words options).2 := by
  rw [profile]
  split <;> rfl

/-- Of the addons of the library only the profiler wraps. -/
theorem Builtin.DeclaresAddon.exists_wraps {use : PluginUse} {addon : Addon}
    (h : DeclaresAddon use addon) (groups : List JobGroup) (container : Container) :
    ∃ wraps, (addon.visit groups container).script.command =
        container.script.command.wrapAll wraps ∧ ∀ w ∈ wraps, use.WrapsWith w := by
  have hnone : ∀ {command : Command}, command = container.script.command →
      ∃ wraps, command = container.script.command.wrapAll wraps ∧ ∀ w ∈ wraps, use.WrapsWith w :=
    fun hcommand => ⟨[], hcommand, fun _ hw => absurd hw List.not_mem_nil⟩
  rcases addon.command_visit groups container with hsame | ⟨prepared, hprepared, hvisit⟩
  · exact hnone hsame
  · rw [hvisit]
    cases h with
    | companion => exact hnone hprepared
    | mount => exact hnone hprepared
    | profiler hname =>
      refine ⟨[Profiler.words (Profiler.readOptions use.bag)], ?_, fun w hw =>
        ⟨hname, List.mem_singleton.mp hw⟩⟩
      show (Profiler.profile _ prepared).script.command = _
      rw [Profiler.command_profile, hprepared]
      rfl

/-- All addons together put the words of profilers around a command. -/
theorem Builtin.exists_wraps_visitAll {uses : List PluginUse} {addons : List (Configured Addon)}
    (h : List.Forall₂ (fun use addon => DeclaresAddon use addon.behaviour) uses addons)
    (groups : List JobGroup) (container : Container) :
    ∃ wraps, (visitAll groups addons container).script.command =
        container.script.command.wrapAll wraps ∧ ∀ w ∈ wraps, ∃ use ∈ uses, use.WrapsWith w := by
  induction h generalizing container with
  | nil => exact ⟨[], rfl, fun _ hw => absurd hw List.not_mem_nil⟩
  | @cons use addon uses addons hfirst _ ih =>
    obtain ⟨wraps, hwraps, hwords⟩ := hfirst.exists_wraps groups container
    obtain ⟨wraps', hwraps', hwords'⟩ := ih (addon.behaviour.visit groups container)
    refine ⟨wraps ++ wraps', ?_, fun w hw => ?_⟩
    · rw [visitAll, List.foldl_cons, ← visitAll, hwraps', hwraps, Command.wrapAll_append]
    · rcases List.mem_append.mp hw with hw | hw
      · exact ⟨use, List.mem_cons_self, hwords w hw⟩
      · obtain ⟨use', huse', hw⟩ := hwords' w hw
        exact ⟨use', List.mem_cons_of_mem _ huse', hw⟩

/-! ## Commands of the first phase -/

/-- A command has the character neither in its launcher nor in its invocation. -/
structure Command.Lacks (b : Char) (command : Command) : Prop where
  launcher : ∀ launcher ∈ command.launcher, b ∉ launcher.toList
  invocation : b ∉ command.invocation.toList

theorem Command.lacks_of_invocation {invocation : String} (h : b ∉ invocation.toList) :
    ({ invocation } : Command).Lacks b where
  launcher _ hlauncher := absurd hlauncher (Option.not_mem_none _)
  invocation := h

theorem Command.Lacks.withLauncher {command : Command} (h : command.Lacks b) {launcher : String}
    (hlauncher : b ∉ launcher.toList) : (command.withLauncher launcher).Lacks b := by
  rw [Command.withLauncher]
  refine { launcher := fun l hl => ?_, invocation := h.invocation }
  split at hl
  · cases hl
  · cases hl
    exact hlauncher

theorem Command.Lacks.wrapAll {command : Command} (h : command.Lacks b) (hb : b ≠ ' ')
    {wraps : List (String × String)} (hwraps : ∀ w ∈ wraps, b ∉ w.1.toList ∧ b ∉ w.2.toList) :
    (command.wrapAll wraps).Lacks b where
  launcher := by
    rw [launcher_wrapAll]
    exact h.launcher
  invocation := command.notMem_wrapAll wraps hb h.invocation hwraps

section

variable {settings : Settings} {name : String} {decl : Declaration}

theorem Declaration.Lacks.notMem_startLine (h : decl.Lacks b settings) {app : Application}
    (happ : app ∈ decl.application) : b ∉ app.startLine.toList := by
  obtain ⟨hcommand, hentrypoint⟩ := h.application app happ
  rw [Application.startLine]
  split
  · rename_i line hline
    split
    · exact hcommand
    · exact hentrypoint line hline
  · exact hcommand

theorem Declaration.Lacks.notMem_applicationCommand (h : decl.Lacks b settings) :
    b ∉ (decl.context name settings).applicationCommand.toList := by
  rw [Context.applicationCommand]
  split
  · rename_i app happ
    exact (h.application app happ).1
  · simp

theorem Workload.lacks_of_mem_containers (hb : b ∈ Text.lineBreaks) (h : decl.Lacks b settings)
    {w : Workload} (hw : w ∈ all) {bag : OptionBag} (hbag : bag.Lacks b) {c : Container}
    (hc : c ∈ w.containers (w.readOptions bag) (decl.context name settings)) :
    c.script.command.Lacks b := by
  have hdefault : ∀ w ∈ all, Text.oneLine w.command = true := by
    decide +kernel
  have hlauncher : Text.oneLine defaultLauncher = true := by
    decide +kernel
  have hmeasured : b ∉ (w.measured (w.readOptions bag) (decl.context name settings)).toList := by
    rw [measured]
    split
    · exact hbag.notMem_textOr "command" (by simp)
    · split
      · exact h.notMem_applicationCommand
      · exact Text.notMem_of_oneLine hb (hdefault w hw)
  simp only [containers, List.mem_cons, List.not_mem_nil, or_false] at hc
  rcases hc with rfl | rfl
  · exact (Command.lacks_of_invocation hmeasured).withLauncher
      (hbag.notMem_textOr "mpirun" (Text.notMem_of_oneLine hb hlauncher))
  · exact Command.lacks_of_invocation h.idleCommand

theorem Sampler.lacks_of_mem_containers (hb : b ∈ Text.lineBreaks) (h : decl.Lacks b settings)
    {options : Options} {cs : List Container}
    (hcs : containers options (decl.context name settings) = .ok cs) {c : Container}
    (hc : c ∈ cs) : c.script.command.Lacks b := by
  have hloop : Text.oneLine (" " ++ (loopFile ++ (" " ++ Shell.var "pid"))) = true := by
    decide +kernel
  rw [containers] at hcs
  split at hcs
  · cases hcs
  · cases hcs
    rw [List.mem_singleton.mp hc]
    refine Command.lacks_of_invocation ?_
    rw [String.append_assoc, String.append_assoc, String.append_assoc, String.toList_append,
      List.mem_append, not_or]
    exact ⟨h.shell, Text.notMem_of_oneLine hb hloop⟩

theorem Companion.lacks_container {bag : OptionBag} (hbag : bag.Lacks b) (group : JobGroup) :
    (container (readOptions bag) group).script.command.Lacks b := by
  refine Command.lacks_of_invocation ?_
  split
  · exact hbag.notMem_textOr "command" (by simp)
  · exact hbag.notMem_textOr "entrypoint" (by simp)

/-- On every way to a container its command is made from texts without the character. -/
theorem Declaration.Contributes.lacks (hb : b ∈ Text.lineBreaks) (h : decl.Lacks b settings)
    {c : Container} (hc : decl.Contributes (decl.context name settings) c) :
    c.script.command.Lacks b := by
  cases hc with
  | workload huse hworkload _ _ hown =>
    have hbag := h.options _ (List.mem_append_left _ (List.mem_of_getElem? huse))
    have hlacks := Workload.lacks_of_mem_containers hb h hworkload hbag hown
    exact hlacks
  | sampler _ _ _ _ hcontainers hown =>
    have hlacks := Sampler.lacks_of_mem_containers hb h hcontainers hown
    exact hlacks
  | application happ =>
    exact Command.lacks_of_invocation (h.notMem_startLine (Option.filter_eq_some_iff.mp happ).1)
  | companion huse =>
    exact Companion.lacks_container
      (h.options _ (List.mem_append_right _ (List.mem_of_getElem? huse))) _
  | view => exact Command.lacks_of_invocation h.idleCommand

theorem Declaration.Lacks.notMem_words (hb : b ∈ Text.lineBreaks) (h : decl.Lacks b settings)
    {words : String × String} (hwords : decl.WrapsWith words) :
    b ∉ words.1.toList ∧ b ∉ words.2.toList := by
  obtain ⟨use, huse, -, rfl⟩ := hwords
  have hrun : Text.oneLine "hpcrun " = true := by
    decide
  have hevents : b ∉ (Text.trim (Profiler.readOptions use.bag).events).toList :=
    mt Text.mem_of_mem_trim
      ((h.options use (List.mem_append_right _ huse)).notMem_textOr "events" (by simp))
  refine ⟨?_, by simp [Profiler.words]⟩
  rw [Profiler.words, String.toList_append, List.mem_append, not_or]
  exact ⟨Text.notMem_of_oneLine hb hrun, hevents⟩

/-! ## Commands of a composition -/

variable {resolution : Resolution} {contributed customized : Assembly} {c : Composition}

/-- The command of a container is one of the first phase with the words of profilers around it. -/
theorem Stages.exists_command_eq_wrapAll
    (h : Stages Builtin.registry settings name decl resolution contributed customized c)
    {k : ComposedContainer} (hk : k ∈ c.containers) :
    ∃ start wraps, decl.Contributes (decl.context name settings) start ∧
      k.spec.script.command = start.script.command.wrapAll wraps ∧
      ∀ w ∈ wraps, decl.WrapsWith w := by
  have hspec : k.spec ∈ contributed.containers.map
      (visitAll contributed.groups resolution.addons) := by
    rw [← h.specs_eq_map_visitAll Registry.onlyWraps_builtin]
    exact List.mem_map_of_mem hk
  obtain ⟨start, hstart, hvisited⟩ := List.mem_map.mp hspec
  obtain ⟨wraps, hwraps, hwords⟩ := Builtin.exists_wraps_visitAll
    (Builtin.forall₂_declaresAddon h.resolved) contributed.groups start
  refine ⟨start, wraps, Assembly.contributes_of_assemble h.resolved h.assembled start hstart,
    ?_, hwords⟩
  rw [← hvisited, hwraps]

end

/-- The script has the command between the lines that print the markers. -/
theorem Script.exists_text_eq (setName : String) (settings : Settings) (interactive : Bool)
    (container : Container) (group : JobGroup) :
    ∃ before after, text setName settings interactive container group =
      before ++ markerLine .collectionStart ++ line container.script.command.render ++
        markerLine .collectionEnd ++ after := by
  refine ⟨setupRegion setName settings.shell container group ++ markerLine .separator,
    fragmentTexts container.script.post ++
      (if interactive then interactiveTail settings.idleCommand else ""), ?_⟩
  simp only [text, measuredRegion, String.append_assoc]

/-- With the plugins of the library a measured command is one line, unless a text from outside has a
line break.  The script has that line between the lines that print the markers, and it is a command
of the first phase with the words of profilers around it. -/
theorem oneLine_of_compose {b : Char} (hb : b ∈ Text.lineBreaks) {settings : Settings}
    {name : String} {decl : Declaration} {c : Composition}
    (h : decl.compose Builtin.registry settings name = .ok c) (hlacks : decl.Lacks b settings) :
    ∀ k ∈ c.containers, b ∉ k.spec.script.command.render.toList ∧
      (∃ before after, k.script = before ++ Script.markerLine .collectionStart ++
        (Text.trimEnd k.spec.script.command.render ++ "\n") ++
          Script.markerLine .collectionEnd ++ after) ∧
      ∃ start wraps, decl.Contributes (decl.context name settings) start ∧
        k.spec.script.command = start.script.command.wrapAll wraps ∧
        ∀ w ∈ wraps, decl.WrapsWith w := by
  obtain ⟨resolution, contributed, customized, hstages⟩ := compose_eq_ok_iff.mp h
  intro k hk
  obtain ⟨start, wraps, hstart, hcommand, hwords⟩ := hstages.exists_command_eq_wrapAll hk
  refine ⟨?_, ?_, start, wraps, hstart, hcommand, hwords⟩
  · have hne := Text.ne_space_of_mem_lineBreaks hb
    have hwrapped := (hstart.lacks hb hlacks).wrapAll hne
      fun w hw => hlacks.notMem_words hb (hwords w hw)
    rw [hcommand]
    exact Command.notMem_render _ hne hwrapped.launcher hwrapped.invocation
  · obtain ⟨group, -, hrender⟩ := (hstages.renders_of_mem hk).script
    rw [(Script.render_eq_ok_iff.mp hrender).2]
    exact Script.exists_text_eq ..

/-- A workload, a monitored application and a companion, all of them under the profiler. -/
theorem oneLine_of_observed :
    (∀ b ∈ Text.lineBreaks, Sample.observed.Lacks b {}) ∧
      ∃ c, Sample.observed.compose Builtin.registry {} "set" = .ok c ∧
        ∀ b ∈ Text.lineBreaks, ∀ k ∈ c.containers,
          b ∉ k.spec.script.command.render.toList := by
  have hlacks : ∀ b ∈ Text.lineBreaks, Sample.observed.Lacks b {} := by
    intro b hb
    have hoptions : ∀ use ∈ Sample.observed.metrics ++ Sample.observed.addons,
        ∀ entry ∈ use.bag.options.entries, Text.oneLine entry.2.spelling = true := by
      decide +kernel
    refine {
      shell := Text.notMem_of_oneLine hb (by decide)
      idleCommand := Text.notMem_of_oneLine hb (by decide)
      application := fun app happ => ?_
      options := fun use huse entry hentry =>
        Text.notMem_of_oneLine hb (hoptions use huse entry hentry) }
    obtain rfl := Option.some.inj happ
    exact ⟨Text.notMem_of_oneLine hb (by decide), fun _ hline => by cases hline⟩
  obtain ⟨c, h⟩ := Sample.exists_compose_observed
  exact ⟨hlacks, c, h, fun b hb k hk => (oneLine_of_compose hb h (hlacks b hb) k hk).1⟩

end MeasuredJob
