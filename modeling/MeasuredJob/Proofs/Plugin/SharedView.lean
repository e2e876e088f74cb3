import MeasuredJob.Plugin.Profiler
import MeasuredJob.Proofs.Script.Expansion

/-!
# Copying the view and waiting for it

One script copies the view of the profiler to a directory, and others wait until it is there.  Both
have the directory between double quotes where they assign it.  The script that waits tests paths
between double quotes as well, and the one that copies has them without.  So both mean the same
directory as long as no blank splits it, and with a blank the view is copied to other places.
-/

namespace MeasuredJob
namespace Profiler

open Shell

/-! ## Both scripts as text -/

def viewLines (mount : String) : List String := [
  "echo \"Moving content from /opt/views to the shared volume at " ++ mount ++ "\"",
  "view=$(ls /opt/views/._view/)",
  "view=\"/opt/views/._view/$\x7bview\x7d\"",
  "viewroot=\"" ++ mount ++ "\"",
  "mkdir -p $\x7bviewroot\x7d/view",
  "cp -R $\x7bview\x7d/* $\x7bviewroot\x7d/view",
  "cp -R /opt/software $\x7bviewroot\x7d/",
  "echo \"HPCToolkit view is ready under $\x7bviewroot\x7d\""]

def waitLines (mount : String) : List String := [
  "# HPCToolkit: wait for the shared view, then put it on the path",
  "viewbase=\"" ++ mount ++ "\"",
  "software=\"$\x7bviewbase\x7d/software\"",
  "viewbin=\"$\x7bviewbase\x7d/view/bin\"",
  "export PATH=$\x7bviewbin\x7d:$PATH",
  "echo \"Waiting for $\x7bviewbin\x7d/hpcrun\"",
  "until [ -x \"$\x7bviewbin\x7d/hpcrun\" ] && [ -d \"$\x7bsoftware\x7d\" ]; do",
  "    sleep 2",
  "done",
  "cp -R $\x7bsoftware\x7d /opt/software",
  "echo \"-1\" | tee /proc/sys/kernel/perf_event_paranoid"]

theorem append_quoted (before s : String) : before ++ quoted s = before ++ "\"" ++ s ++ "\"" := by
  rw [quoted, ← String.append_assoc, ← String.append_assoc]

theorem echo_moving (mount : String) :
    echo ("Moving content from /opt/views to the shared volume at " ++ mount) =
      "echo \"Moving content from /opt/views to the shared volume at " ++ mount ++ "\"" := by
  rw [echo, append_quoted, ← String.append_assoc]
  rfl

theorem viewFragment_eq (mount : String) : viewFragment mount = lines (viewLines mount) := by
  rw [viewFragment, viewLines, echo_moving, append_quoted]
  rfl

theorem waitFragment_eq (mount : String) : waitFragment mount = lines (waitLines mount) := by
  rw [waitFragment, waitLines, append_quoted]
  rfl

/-! ## The script that copies -/

section

variable {mount : String}

/-- What the script that copies has assigned. -/
def copying (env : Env) (files mount : String) : Env :=
  ((env.set "view" (env.output "ls /opt/views/._view/").toList).set "view" files.toList).set
    "viewroot" mount.toList

/-- The commands of the script that copies, from where everything is assigned. -/
def viewCommands (files mount : String) : List (List String) :=
  split ["mkdir", "-p"] [] (expanded mount ++ chars "/view") ++
    (split ["cp", "-R"] []
        (expanded files ++ (chars "/*" ++ .gap :: (expanded mount ++ chars "/view"))) ++
      (split ["cp", "-R", "/opt/software"] [] (expanded mount ++ chars "/") ++
        [["echo", "HPCToolkit view is ready under " ++ mount]]))

theorem runLines?_viewAssignments (env : Env) (h : Literal mount) (ls : List (List Char)) :
    runLines? env ("view=$(ls /opt/views/._view/)".toList ::
        "view=\"/opt/views/._view/$\x7bview\x7d\"".toList ::
        ("viewroot=" ++ quoted mount).toList :: ls) =
      runLines?
        (copying env ("/opt/views/._view/" ++ env.output "ls /opt/views/._view/") mount) ls := by
  have hlist : assignment? "view=$(ls /opt/views/._view/)".toList =
      some ("view", "$(ls /opt/views/._view/)".toList) := rfl
  have hlisted : assigned? env "$(ls /opt/views/._view/)".toList =
      some (env.output "ls /opt/views/._view/").toList :=
    congrArg some (List.append_nil _)
  have hview : assignment? "view=\"/opt/views/._view/$\x7bview\x7d\"".toList =
      some ("view", "\"/opt/views/._view/$\x7bview\x7d\"".toList) := rfl
  have hfiles : assigned? (env.set "view" (env.output "ls /opt/views/._view/").toList)
      "\"/opt/views/._view/$\x7bview\x7d\"".toList =
      some ("/opt/views/._view/" ++ env.output "ls /opt/views/._view/").toList := by
    rw [String.toList_append]
    exact congrArg (fun rest => some ("/opt/views/._view/".toList ++ rest)) (List.append_nil _)
  rw [runLines?_of_assignment (by decide) hlist hlisted,
    runLines?_of_assignment (by decide) hview hfiles]
  exact runLines?_assignQuoted "viewroot" (by decide) (by decide) h

theorem runLines?_viewCommands (env : Env) (files mount : String) :
    runLines? (copying env files mount) [
      "mkdir -p $\x7bviewroot\x7d/view".toList,
      "cp -R $\x7bview\x7d/* $\x7bviewroot\x7d/view".toList,
      "cp -R /opt/software $\x7bviewroot\x7d/".toList,
      "echo \"HPCToolkit view is ready under $\x7bviewroot\x7d\"".toList] =
    some (viewCommands files mount) := by
  have hready :
      split ["echo"] [] (chars "HPCToolkit view is ready under " ++ (chars mount ++ [])) ++ [] =
        [["echo", "HPCToolkit view is ready under " ++ mount]] := by
    rw [List.append_nil, List.append_nil, ← chars_append]
    exact split_lastWord (by simp) "echo" []
  rw [viewCommands, ← hready]
  rfl

theorem lineBreak_notMem_viewLines (h : Literal mount) :
    ∀ l ∈ viewLines mount, '\n' ∉ l.toList := by
  have hmount := h.lineBreak_notMem
  intro l hl
  simp only [viewLines, List.mem_cons, List.not_mem_nil, or_false] at hl
  rcases hl with rfl | rfl | rfl | rfl | rfl | rfl | rfl | rfl
  · simp [String.toList_append, hmount]
  · decide +kernel
  · decide +kernel
  · simp [String.toList_append, hmount]
  all_goals decide +kernel

theorem commands?_viewFragment (h : Literal mount) (output : String → String) :
    commands? output (viewFragment mount) =
      some (["echo", "Moving content from /opt/views to the shared volume at " ++ mount] ::
        viewCommands ("/opt/views/._view/" ++ output "ls /opt/views/._view/") mount) := by
  have hmoving : Literal ("Moving content from /opt/views to the shared volume at " ++ mount) :=
    Literal.append (by decide) h
  have hlines : (viewLines mount).map String.toList =
      (echo ("Moving content from /opt/views to the shared volume at " ++ mount)).toList ::
        "view=$(ls /opt/views/._view/)".toList ::
        "view=\"/opt/views/._view/$\x7bview\x7d\"".toList ::
        ("viewroot=" ++ quoted mount).toList :: [
          "mkdir -p $\x7bviewroot\x7d/view".toList,
          "cp -R $\x7bview\x7d/* $\x7bviewroot\x7d/view".toList,
          "cp -R /opt/software $\x7bviewroot\x7d/".toList,
          "echo \"HPCToolkit view is ready under $\x7bviewroot\x7d\"".toList] := by
    rw [echo_moving, append_quoted]
    rfl
  rw [viewFragment_eq, commands?_lines (by simp [viewLines]) (lineBreak_notMem_viewLines h), hlines,
    runLines?_echo hmoving (by simp), runLines?_viewAssignments _ h, runLines?_viewCommands]
  rfl

theorem viewCommands_of_unsplit {files : String} (hfiles : Unsplit files) (hmount : Unsplit mount) :
    viewCommands files mount = [
      ["mkdir", "-p", mount ++ "/view"],
      ["cp", "-R", files ++ "/*", mount ++ "/view"],
      ["cp", "-R", "/opt/software", mount ++ "/"],
      ["echo", "HPCToolkit view is ready under " ++ mount]] := by
  have hmkdir : split ["mkdir", "-p"] [] (expanded mount ++ chars "/view") =
      [["mkdir", "-p", mount ++ "/view"]] :=
    split_expanded hmount (by decide) "mkdir" ["-p"]
  have hview : split ["cp", "-R"] []
      (expanded files ++ (chars "/*" ++ .gap :: (expanded mount ++ chars "/view"))) =
        [["cp", "-R", files ++ "/*", mount ++ "/view"]] := by
    rw [expanded_eq_chars hfiles, ← List.append_assoc, ← chars_append, split_word (by simp)]
    exact split_expanded hmount (by decide) "cp" _
  have hsoftware : split ["cp", "-R", "/opt/software"] [] (expanded mount ++ chars "/") =
      [["cp", "-R", "/opt/software", mount ++ "/"]] :=
    split_expanded hmount (by decide) "cp" ["-R", "/opt/software"]
  rw [viewCommands, hmkdir, hview, hsoftware]
  rfl

/-- The paths that are copied to are not between double quotes, so none of them has a blank. -/
theorem unsplit_of_mem_viewCommands {files : String} {copy : String × String}
    (h : copy ∈ (viewCommands files mount).flatMap copiesOf) : Unsplit copy.2 := by
  have hview : Gapless (expanded mount ++ chars "/view") :=
    (gapless_expanded mount).append (gapless_chars (by decide))
  have hfiles : Gapless (expanded files ++
      (chars "/*" ++ .gap :: (expanded mount ++ chars "/view"))) :=
    (gapless_expanded files).append ((gapless_chars (by decide)).append hview.gap_cons)
  have hroot : Gapless (expanded mount ++ chars "/") :=
    (gapless_expanded mount).append (gapless_chars (by decide))
  obtain ⟨command, hcommand, hcopy⟩ := List.mem_flatMap.mp h
  rw [viewCommands, List.mem_append, List.mem_append, List.mem_append] at hcommand
  rcases hcommand with hcommand | hcommand | hcommand | hcommand
  · exact unsplit_of_mem_copiesOf (unsplit_of_mem_split hview (by decide) _ hcommand) hcopy
  · exact unsplit_of_mem_copiesOf (unsplit_of_mem_split hfiles (by decide) _ hcommand) hcopy
  · exact unsplit_of_mem_copiesOf (unsplit_of_mem_split hroot (by decide) _ hcommand) hcopy
  · rw [List.mem_singleton.mp hcommand] at hcopy
    cases hcopy

/-- The script copies the view, and the software that comes with it, into the directory. -/
structure CopiesView (mount script : String) : Prop where
  written : script = lines (viewLines mount)
  /-- A directory without a blank is filled. -/
  fills : Literal mount → Unsplit mount → ∀ output, Unsplit (output "ls /opt/views/._view/") →
    ∃ commands, commands? output script = some commands ∧
      ["mkdir", "-p", mount ++ "/view"] ∈ commands ∧
      commands.flatMap copiesOf = [
        ("/opt/views/._view/" ++ output "ls /opt/views/._view/" ++ "/*", mount ++ "/view"),
        ("/opt/software", mount ++ "/software")]
  /-- Nothing is copied to a place in a directory with a blank. -/
  misses : Literal mount → ¬Unsplit mount → ∀ output,
    ∃ commands, commands? output script = some commands ∧
      ∀ copy ∈ commands.flatMap copiesOf, ∀ place, copy.2 ≠ mount ++ place

theorem landing_files (files target : String) : landing target (files ++ "/*") = target := by
  have hown : ((files ++ "/*").toList.reverse.takeWhile (· != '/')).reverse = ['*'] := by
    rw [String.toList_append, List.reverse_append]
    rfl
  rw [landing, hown]
  rfl

theorem landing_software (mount : String) :
    landing (mount ++ "/") "/opt/software" = mount ++ "/software" := by
  have hslash : (mount ++ "/").toList.getLast? = some '/' := by
    rw [String.toList_append, List.getLast?_append]
    rfl
  have hown : ("/opt/software".toList.reverse.takeWhile (· != '/')).reverse = "software".toList :=
    rfl
  rw [landing, hown, if_neg (by decide), if_pos hslash, String.ofList_toList, String.append_assoc]
  rfl

theorem copiesView_viewFragment (mount : String) : CopiesView mount (viewFragment mount) where
  written := viewFragment_eq mount
  fills hliteral hmount output hlisted := by
    have hfiles : Unsplit ("/opt/views/._view/" ++ output "ls /opt/views/._view/") :=
      Unsplit.append (by decide) hlisted
    refine ⟨_, commands?_viewFragment hliteral output, ?_, ?_⟩
    · rw [viewCommands_of_unsplit hfiles hmount]
      exact List.mem_cons_of_mem _ List.mem_cons_self
    · rw [viewCommands_of_unsplit hfiles hmount]
      show [(_, landing (mount ++ "/view") _), (_, landing (mount ++ "/") "/opt/software")] = _
      rw [landing_files, landing_software]
  misses hliteral hsplit output := by
    refine ⟨_, commands?_viewFragment hliteral output, fun copy hcopy place heq => ?_⟩
    have hcopied : Unsplit (mount ++ place) := heq ▸ unsplit_of_mem_viewCommands hcopy
    exact hsplit fun c hc => hcopied c (by simp [hc])

/-! ## The script that waits -/

/-- What the script that waits has assigned. -/
def waiting (env : Env) (mount : String) : Env :=
  ((env.set "viewbase" mount.toList).set "software" (mount ++ "/software").toList).set
    "viewbin" (mount ++ "/view/bin").toList

/-- The commands of the script that waits, from where everything is assigned. -/
def waitCommands (env : Env) (mount : String) : List (List String) :=
  split ["export"] "PATH=".toList
      (expanded (mount ++ "/view/bin") ++ .char ':' :: ((env.value "PATH").map .ofExpanded ++ [])) ++
    ([["echo", "Waiting for " ++ mount ++ "/view/bin/hpcrun"],
      ["until", "[", "-x", mount ++ "/view/bin/hpcrun", "]"], ["[", "-d", mount ++ "/software", "]"],
      ["do"], ["sleep", "2"], ["done"]] ++
      (split ["cp", "-R"] [] (expanded (mount ++ "/software") ++ .gap :: chars "/opt/software") ++
        [["echo", "-1"], ["tee", "/proc/sys/kernel/perf_event_paranoid"]]))

theorem runLines?_waitAssignments (env : Env) (h : Literal mount) (ls : List (List Char)) :
    runLines? env ("# HPCToolkit: wait for the shared view, then put it on the path".toList ::
        ("viewbase=" ++ quoted mount).toList ::
        "software=\"$\x7bviewbase\x7d/software\"".toList ::
        "viewbin=\"$\x7bviewbase\x7d/view/bin\"".toList :: ls) =
      runLines? (waiting env mount) ls := by
  have hbase : runLines? env (("viewbase=" ++ quoted mount).toList ::
        "software=\"$\x7bviewbase\x7d/software\"".toList ::
        "viewbin=\"$\x7bviewbase\x7d/view/bin\"".toList :: ls) =
      runLines? (env.set "viewbase" mount.toList) (
        "software=\"$\x7bviewbase\x7d/software\"".toList ::
        "viewbin=\"$\x7bviewbase\x7d/view/bin\"".toList :: ls) :=
    runLines?_assignQuoted "viewbase" (by decide) (by decide) h
  rw [runLines?_of_comment rfl, hbase, waiting, String.toList_append, String.toList_append]
  rfl

/-- The condition of the loop, of which both paths are between double quotes. -/
theorem split_until (mount : String) :
    split ["until", "[", "-x"] [] (chars (mount ++ "/view/bin") ++ (chars "/hpcrun" ++
        (" ] && [ -d ".toList.map .ofChar ++
          (chars (mount ++ "/software") ++ " ]; do".toList.map .ofChar)))) =
      [["until", "[", "-x", mount ++ "/view/bin/hpcrun", "]"], ["[", "-d", mount ++ "/software", "]"],
        ["do"]] := by
  have hprogram : mount ++ "/view/bin" ++ "/hpcrun" = mount ++ "/view/bin/hpcrun" := by
    rw [String.append_assoc]
    rfl
  have hboth : " ] && [ -d ".toList.map Symbol.ofChar = .gap :: .char ']' :: .gap :: .stop :: .stop ::
      .gap :: .char '[' :: .gap :: .char '-' :: .char 'd' :: [.gap] := rfl
  have hclosing : " ]; do".toList.map Symbol.ofChar =
      .gap :: .char ']' :: .stop :: .gap :: .char 'd' :: [.char 'o'] := rfl
  have hsoftware : split ["[", "-d"] []
      (chars (mount ++ "/software") ++ " ]; do".toList.map .ofChar) =
        [["[", "-d", mount ++ "/software", "]"], ["do"]] := by
    rw [hclosing, split_word (by simp)]
    rfl
  rw [← List.append_assoc, ← chars_append, hprogram, hboth, List.cons_append,
    split_word (by simp)]
  exact congrArg (["until", "[", "-x", mount ++ "/view/bin/hpcrun", "]"] :: ·) hsoftware

theorem runLines?_waitCommands (env : Env) (mount : String) :
    runLines? (waiting env mount) [
      "export PATH=$\x7bviewbin\x7d:$PATH".toList,
      "echo \"Waiting for $\x7bviewbin\x7d/hpcrun\"".toList,
      "until [ -x \"$\x7bviewbin\x7d/hpcrun\" ] && [ -d \"$\x7bsoftware\x7d\" ]; do".toList,
      "    sleep 2".toList,
      "done".toList,
      "cp -R $\x7bsoftware\x7d /opt/software".toList,
      "echo \"-1\" | tee /proc/sys/kernel/perf_event_paranoid".toList] =
    some (waitCommands env mount) := by
  have hecho : split ["echo"] []
      (chars "Waiting for " ++ (chars (mount ++ "/view/bin") ++ chars "/hpcrun")) =
        [["echo", "Waiting for " ++ mount ++ "/view/bin/hpcrun"]] := by
    have hprogram : "Waiting for " ++ (mount ++ "/view/bin" ++ "/hpcrun") =
        "Waiting for " ++ mount ++ "/view/bin/hpcrun" := by
      rw [String.append_assoc, String.append_assoc]
      rfl
    rw [← chars_append, ← chars_append, hprogram]
    exact split_lastWord (by simp) _ _
  have hcommands : waitCommands env mount =
      split ["export"] "PATH=".toList (expanded (mount ++ "/view/bin") ++
          .char ':' :: ((env.value "PATH").map .ofExpanded ++ [])) ++
        (split ["echo"] []
            (chars "Waiting for " ++ (chars (mount ++ "/view/bin") ++ chars "/hpcrun")) ++
          (split ["until", "[", "-x"] [] (chars (mount ++ "/view/bin") ++ (chars "/hpcrun" ++
              (" ] && [ -d ".toList.map .ofChar ++
                (chars (mount ++ "/software") ++ " ]; do".toList.map .ofChar)))) ++
            ([["sleep", "2"]] ++ ([["done"]] ++
              (split ["cp", "-R"] []
                  (expanded (mount ++ "/software") ++ .gap :: chars "/opt/software") ++
                [["echo", "-1"], ["tee", "/proc/sys/kernel/perf_event_paranoid"]]))))) := by
    rw [waitCommands, hecho, split_until]
    simp only [List.cons_append, List.nil_append]
  rw [hcommands]
  rfl

theorem lineBreak_notMem_waitLines (h : Literal mount) :
    ∀ l ∈ waitLines mount, '\n' ∉ l.toList := by
  have hmount := h.lineBreak_notMem
  intro l hl
  simp only [waitLines, List.mem_cons, List.not_mem_nil, or_false] at hl
  rcases hl with rfl | rfl | rfl | rfl | rfl | rfl | rfl | rfl | rfl | rfl | rfl
  · decide +kernel
  · simp [String.toList_append, hmount]
  all_goals decide +kernel

theorem commands?_waitFragment (h : Literal mount) (output : String → String) :
    commands? output (waitFragment mount) =
      some (waitCommands { value := fun _ => [], output } mount) := by
  have hbase : "viewbase=\"" ++ mount ++ "\"" = "viewbase=" ++ quoted mount :=
    (append_quoted "viewbase=" mount).symm
  rw [waitFragment_eq, commands?_lines (by simp [waitLines]) (lineBreak_notMem_waitLines h),
    waitLines, hbase]
  exact (runLines?_waitAssignments _ h _).trans (runLines?_waitCommands _ mount)

/-- The tests in the script that waits, whatever the words of its other commands are. -/
theorem tests_waitCommands (env : Env) (mount : String) :
    (waitCommands env mount).filterMap testOf? =
      [("-x", mount ++ "/view/bin/hpcrun"), ("-d", mount ++ "/software")] := by
  have hexport : .stop ∉ expanded (mount ++ "/view/bin") ++
      .char ':' :: ((env.value "PATH").map .ofExpanded ++ []) := by
    have hpath := stop_notMem_expanded (String.ofList (env.value "PATH"))
    rw [expanded, String.toList_ofList] at hpath
    simp [stop_notMem_expanded, hpath]
  have hcopy : .stop ∉ expanded (mount ++ "/software") ++ .gap :: chars "/opt/software" := by
    simp [stop_notMem_expanded, stop_notMem_chars]
  obtain ⟨path, hpath⟩ := exists_split_eq hexport "export" [] "PATH=".toList
  obtain ⟨paths, hpaths⟩ := exists_split_eq hcopy "cp" ["-R"] []
  have hpathTest : testOf? ("export" :: path) = none := testOf?_cons_eq_none (by decide) (by decide)
  have hpathsTest : testOf? ("cp" :: paths) = none := testOf?_cons_eq_none (by decide) (by decide)
  rw [waitCommands, hpath, hpaths, List.filterMap_append, List.filterMap_append,
    List.filterMap_append, List.filterMap_cons_none hpathTest, List.filterMap_cons_none hpathsTest]
  rfl

/-- The script tests what is copied into the directory, again and again until it is there. -/
structure AwaitsView (mount script : String) : Prop where
  written : script = lines (waitLines mount)
  tests : Literal mount → ∀ output, ∃ commands, commands? output script = some commands ∧
    commands.filterMap testOf? =
      [("-x", mount ++ "/view/bin/hpcrun"), ("-d", mount ++ "/software")]

theorem awaitsView_waitFragment (mount : String) : AwaitsView mount (waitFragment mount) where
  written := waitFragment_eq mount
  tests hliteral output :=
    ⟨_, commands?_waitFragment hliteral output, tests_waitCommands _ mount⟩

end

end Profiler
end MeasuredJob
