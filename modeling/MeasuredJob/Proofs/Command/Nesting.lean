import Mathlib.Data.List.Basic
import Mathlib.Data.List.Induction
import MeasuredJob.Command
import MeasuredJob.Proofs.Text.Trimming

/-!
# Nested wraps

A command may be wrapped several times, and every wrap trims what it finds and joins it with its own
words.  Joining what has been joined before is joining all of it at once, and a joined text has no
blank at its ends.  So nested wraps come down to one: the words before the command stand from the
last wrap to the first, those after it from the first to the last.
-/

namespace MeasuredJob
namespace Command

open Text (trim isBlank)

/-! ## Joined words -/

theorem joinWords_eq_empty_iff {words : List String} :
    joinWords words = "" ↔ words.filter (· ≠ "") = [] := by
  cases hfilter : words.filter (· ≠ "") with
  | nil =>
    rw [joinWords, hfilter]
    exact iff_of_true rfl rfl
  | cons v vs =>
    have hmem : v ∈ words.filter (· ≠ "") := hfilter ▸ List.mem_cons_self
    have hv : v ≠ "" := of_decide_eq_true (List.mem_filter.mp hmem).2
    rw [joinWords, hfilter]
    refine iff_of_false (fun h => hv ?_) (List.cons_ne_nil v vs)
    cases vs with
    | nil => exact String.intercalate_singleton.symm.trans h
    | cons u vs =>
      rw [String.intercalate_cons_cons, String.append_eq_empty_iff,
        String.append_eq_empty_iff] at h
      exact h.1.1

theorem joinWords_cons (w : String) (words : List String) :
    joinWords (w :: words) =
      if w = "" then joinWords words
      else if joinWords words = "" then w
      else w ++ " " ++ joinWords words := by
  by_cases hw : w = ""
  · rw [if_pos hw, joinWords, List.filter_cons_of_neg (by simp [hw]), joinWords]
  · have hkept : (w :: words).filter (· ≠ "") = w :: words.filter (· ≠ "") :=
      List.filter_cons_of_pos (by simp [hw])
    rw [if_neg hw, joinWords, hkept]
    by_cases hempty : joinWords words = ""
    · rw [if_pos hempty, joinWords_eq_empty_iff.mp hempty, String.intercalate_singleton]
    · rw [if_neg hempty]
      obtain ⟨v, vs, hfilter⟩ :=
        List.exists_cons_of_ne_nil (mt joinWords_eq_empty_iff.mpr hempty)
      rw [joinWords, hfilter, String.intercalate_cons_cons]

theorem joinWords_singleton (w : String) : joinWords [w] = w := by
  rw [joinWords_cons]
  by_cases hw : w = ""
  · rw [if_pos hw, hw]
    rfl
  · rw [if_neg hw]
    rfl

theorem joinWords_append (words words' : List String) :
    joinWords (words ++ words') = joinWords [joinWords words, joinWords words'] := by
  induction words with
  | nil =>
    have hnil : joinWords [] = "" := rfl
    rw [List.nil_append, hnil, joinWords_cons, if_pos rfl, joinWords_singleton]
  | cons w words ih =>
    rw [List.cons_append, joinWords_cons, ih]
    simp only [joinWords_cons _ [_], joinWords_singleton, joinWords_cons w words]
    by_cases hw : w = ""
    · simp [hw]
    · by_cases hwords : joinWords words = ""
      · simp [hw, hwords]
      · by_cases hwords' : joinWords words' = ""
        · simp [hw, hwords, hwords']
        · simp [hw, hwords, hwords', String.append_assoc]

/-- What has been joined before may stand in a list of words in place of those words. -/
theorem joinWords_flatten (before inner after : List String) :
    joinWords (before ++ joinWords inner :: after) = joinWords (before ++ (inner ++ after)) := by
  have hinner : joinWords (joinWords inner :: after) = joinWords (inner ++ after) := by
    rw [joinWords_append inner, joinWords_cons, joinWords_cons _ [_], joinWords_singleton]
  rw [joinWords_append before, hinner, ← joinWords_append]

/-- Joined words have no blank at their ends when none of them has. -/
theorem trim_joinWords {words : List String} (h : ∀ w ∈ words, trim w = w) :
    trim (joinWords words) = joinWords words := by
  induction words with
  | nil => rfl
  | cons w words ih =>
    rw [List.forall_mem_cons] at h
    have hrest := ih h.2
    rw [joinWords_cons]
    by_cases hw : w = ""
    · rw [if_pos hw, hrest]
    · rw [if_neg hw]
      by_cases hempty : joinWords words = ""
      · rw [if_pos hempty, h.1]
      · rw [if_neg hempty]
        exact Text.trim_append_append h.1 hrest hw hempty " "

theorem notMem_joinWords {b : Char} (hb : b ≠ ' ') {words : List String}
    (h : ∀ w ∈ words, b ∉ w.toList) : b ∉ (joinWords words).toList := by
  induction words with
  | nil => exact List.not_mem_nil
  | cons w words ih =>
    rw [List.forall_mem_cons] at h
    have hspace : b ∉ " ".toList := by simpa using hb
    rw [joinWords_cons]
    split
    · exact ih h.2
    · split
      · exact h.1
      · simp only [String.toList_append, List.mem_append, h.1, hspace, ih h.2, or_self,
          not_false_eq_true]

/-! ## Several wraps -/

/-- Wrap a command several times.  The first wrap is the innermost one. -/
def wrapAll (command : Command) (wraps : List (String × String)) : Command :=
  wraps.foldl (fun wrapped w => wrapped.wrap w.1 w.2) command

/-- The texts that several wraps put before a command, the outermost one first. -/
def textsBefore (wraps : List (String × String)) : List String :=
  wraps.reverse.map fun w => trim w.1

/-- The texts that several wraps put after a command, the outermost one last. -/
def textsAfter (wraps : List (String × String)) : List String :=
  wraps.map fun w => trim w.2

theorem eq_of_parts {c c' : Command} (hlauncher : c.launcher = c'.launcher)
    (hinvocation : c.invocation = c'.invocation) : c = c' := by
  cases c
  cases c'
  cases hlauncher
  cases hinvocation
  rfl

variable (command : Command) (wraps : List (String × String))

theorem invocation_wrap (before after : String) :
    (command.wrap before after).invocation =
      joinWords [trim before, trim command.invocation, trim after] := by
  rw [wrap]

theorem wrapAll_concat (w : String × String) :
    command.wrapAll (wraps ++ [w]) = (command.wrapAll wraps).wrap w.1 w.2 := by
  rw [wrapAll, List.foldl_append]
  rfl

theorem launcher_wrapAll : (command.wrapAll wraps).launcher = command.launcher := by
  induction wraps using List.reverseRecOn with
  | nil => rfl
  | append_singleton wraps w ih => rw [wrapAll_concat, launcher_wrap, ih]

theorem trim_of_mem_texts :
    (∀ w ∈ textsBefore wraps, trim w = w) ∧ ∀ w ∈ textsAfter wraps, trim w = w := by
  constructor
  · intro w hw
    obtain ⟨v, -, rfl⟩ := List.mem_map.mp hw
    exact Text.trim_trim v.1
  · intro w hw
    obtain ⟨v, -, rfl⟩ := List.mem_map.mp hw
    exact Text.trim_trim v.2

/-- What the next wrap finds: all texts so far, joined. -/
theorem trim_invocation_wrapAll :
    trim (command.wrapAll wraps).invocation =
      joinWords (textsBefore wraps ++ (trim command.invocation :: textsAfter wraps)) := by
  induction wraps using List.reverseRecOn with
  | nil => exact (joinWords_singleton _).symm
  | append_singleton wraps w ih =>
    have htrimmed : ∀ v ∈ [trim w.1, trim (command.wrapAll wraps).invocation, trim w.2],
        trim v = v := by
      simp [Text.trim_trim]
    have hbefore : textsBefore (wraps ++ [w]) = trim w.1 :: textsBefore wraps := by
      simp [textsBefore]
    have hafter : textsAfter (wraps ++ [w]) = textsAfter wraps ++ [trim w.2] := by
      simp [textsAfter]
    rw [wrapAll_concat, invocation_wrap, trim_joinWords htrimmed, ih, hbefore, hafter]
    have hflatten := joinWords_flatten [trim w.1]
      (textsBefore wraps ++ (trim command.invocation :: textsAfter wraps)) [trim w.2]
    rw [List.append_assoc, List.cons_append] at hflatten
    exact hflatten

/-- A command that has been wrapped has no blank at its ends. -/
theorem invocation_wrapAll (hne : wraps ≠ []) :
    (command.wrapAll wraps).invocation =
      joinWords (textsBefore wraps ++ (trim command.invocation :: textsAfter wraps)) := by
  rw [← trim_invocation_wrapAll]
  obtain ⟨inner, w, rfl⟩ := wraps.eq_nil_or_concat'.resolve_left hne
  have htrimmed : ∀ v ∈ [trim w.1, trim (command.wrapAll inner).invocation, trim w.2],
      trim v = v := by
    simp [Text.trim_trim]
  rw [wrapAll_concat, invocation_wrap, trim_joinWords htrimmed]

theorem wrap_joinWords :
    (command.wrap (joinWords (textsBefore wraps)) (joinWords (textsAfter wraps))).invocation =
      joinWords (textsBefore wraps ++ (trim command.invocation :: textsAfter wraps)) := by
  obtain ⟨hbefore, hafter⟩ := trim_of_mem_texts wraps
  calc
    _ = joinWords ([] ++ joinWords (textsBefore wraps) ::
          [trim command.invocation, joinWords (textsAfter wraps)]) := by
        rw [invocation_wrap, trim_joinWords hbefore, trim_joinWords hafter, List.nil_append]
    _ = joinWords ((textsBefore wraps ++ [trim command.invocation]) ++
          joinWords (textsAfter wraps) :: []) := by
        rw [joinWords_flatten, List.nil_append, List.append_assoc, List.singleton_append]
    _ = _ := by
        rw [joinWords_flatten, List.append_nil, List.append_assoc, List.singleton_append]

/-- Several wraps are one wrap with the joined texts. -/
theorem wrapAll_eq_wrap (hne : wraps ≠ []) :
    command.wrapAll wraps =
      command.wrap (joinWords (textsBefore wraps)) (joinWords (textsAfter wraps)) := by
  refine eq_of_parts ?_
    ((command.invocation_wrapAll wraps hne).trans (command.wrap_joinWords wraps).symm)
  rw [launcher_wrapAll, launcher_wrap]

theorem render_of_launcher {launcher : String} (h : command.launcher = some launcher) :
    command.render = trim launcher ++ " " ++ command.invocation := by
  rw [render, h]

/-! ## Characters -/

/-- A character other than a space is in a rendered command only if it is in its parts. -/
theorem notMem_render {b : Char} (hb : b ≠ ' ')
    (hlauncher : ∀ launcher ∈ command.launcher, b ∉ launcher.toList)
    (hinvocation : b ∉ command.invocation.toList) : b ∉ command.render.toList := by
  rw [render]
  cases hset : command.launcher with
  | none => exact hinvocation
  | some launcher =>
    have hspace : b ∉ " ".toList := by simpa using hb
    have htrimmed : b ∉ (trim launcher).toList := mt Text.mem_of_mem_trim (hlauncher _ hset)
    simp only [String.toList_append, List.mem_append, htrimmed, hspace, hinvocation, or_self,
      not_false_eq_true]

theorem notMem_wrapAll {b : Char} (hb : b ≠ ' ') (hinvocation : b ∉ command.invocation.toList)
    (hwraps : ∀ w ∈ wraps, b ∉ w.1.toList ∧ b ∉ w.2.toList) :
    b ∉ (command.wrapAll wraps).invocation.toList := by
  induction wraps using List.reverseRecOn with
  | nil => exact hinvocation
  | append_singleton wraps w ih =>
    rw [List.forall_mem_append] at hwraps
    obtain ⟨hbefore, hafter⟩ := hwraps.2 w (List.mem_singleton_self w)
    have hinner := ih hwraps.1
    rw [wrapAll_concat, invocation_wrap]
    refine notMem_joinWords hb fun v hv => ?_
    simp only [List.mem_cons, List.not_mem_nil, or_false] at hv
    rcases hv with rfl | rfl | rfl
    · exact mt Text.mem_of_mem_trim hbefore
    · exact mt Text.mem_of_mem_trim hinner
    · exact mt Text.mem_of_mem_trim hafter

end Command

/-- However often a command is wrapped, its invocation is all the texts around it and its own, each
trimmed, with one space between those that are not empty.  One wrap with the joined texts does the
same, two wraps among them.  The launcher stays in front, and no character comes in that is not in
one of the texts, a line break least of all, except for the spaces between them. -/
theorem nests_of_wraps (command : Command) {wraps : List (String × String)} (hne : wraps ≠ []) :
    (command.wrapAll wraps).invocation =
        Command.joinWords ((wraps.reverse.map fun w => Text.trim w.1) ++
          [Text.trim command.invocation] ++ wraps.map fun w => Text.trim w.2) ∧
      command.wrapAll wraps =
        command.wrap (Command.joinWords (wraps.reverse.map fun w => Text.trim w.1))
          (Command.joinWords (wraps.map fun w => Text.trim w.2)) ∧
      (∀ before after before' after', (command.wrap before after).wrap before' after' =
        command.wrap (Command.joinWords [Text.trim before', Text.trim before])
          (Command.joinWords [Text.trim after, Text.trim after'])) ∧
      (command.wrapAll wraps).launcher = command.launcher ∧
      (∀ launcher, command.launcher = some launcher → (command.wrapAll wraps).render =
        Text.trim launcher ++ " " ++ (command.wrapAll wraps).invocation) ∧
      ∀ b, b ≠ ' ' → (∀ launcher ∈ command.launcher, b ∉ launcher.toList) →
        b ∉ command.invocation.toList → (∀ w ∈ wraps, b ∉ w.1.toList ∧ b ∉ w.2.toList) →
        b ∉ (command.wrapAll wraps).render.toList := by
  have hlauncher := command.launcher_wrapAll wraps
  refine ⟨?_, command.wrapAll_eq_wrap wraps hne, fun before after before' after' => ?_, hlauncher,
    fun launcher hset => ?_, fun b hb hset hinvocation hwraps => ?_⟩
  · rw [List.append_assoc]
    exact command.invocation_wrapAll wraps hne
  · exact command.wrapAll_eq_wrap [(before, after), (before', after')] (List.cons_ne_nil _ _)
  · exact (command.wrapAll wraps).render_of_launcher (hlauncher.trans hset)
  · refine (command.wrapAll wraps).notMem_render hb ?_
      (command.notMem_wrapAll wraps hb hinvocation hwraps)
    rw [hlauncher]
    exact hset

/-- Blanks around the texts go, whatever characters they are, and a blank text leaves no space
behind. -/
theorem nests_of_timed :
    [("\u2003time\t", ""), ("\u3000", " | tee log\u00a0"), (" strace  -f ", "")] ≠ [] ∧
      (({ launcher := some " mpirun", invocation := "\trun " } : Command).wrapAll
        [("\u2003time\t", ""), ("\u3000", " | tee log\u00a0"), (" strace  -f ", "")]).render =
        "mpirun strace  -f time run | tee log" := by
  have hne : [("\u2003time\t", ""), ("\u3000", " | tee log\u00a0"), (" strace  -f ", "")] ≠ [] :=
    List.cons_ne_nil _ _
  have hnests := nests_of_wraps { launcher := some " mpirun", invocation := "\trun " } hne
  refine ⟨hne, ?_⟩
  rw [hnests.2.2.2.2.1 _ rfl, hnests.1]
  decide +kernel

end MeasuredJob
