import MeasuredJob.Proofs.Script.HereDocument
import MeasuredJob.Proofs.Script.Lines

/-!
# The comment block of a script

What a script tells about itself stands before its first line of code, in lines that a shell passes
over.  The texts in it are not quoted, and a line break in one of them ends the comment.  The law
here says which names of containers may stand there.
-/

namespace MeasuredJob

/-! ## Lines that are read -/

namespace Shell

/-- A shell passes over empty lines and comments. -/
def passesOver (l : String) : Bool :=
  l == "" || l.toList.head? == some '#'

theorem readLines_append_line (s t : String) :
    readLines (s ++ "\n" ++ t) = readLines s ++ readLines t := by
  have hchars : (s ++ "\n" ++ t).toList = s.toList ++ '\n' :: t.toList := by
    rw [String.toList_append, String.toList_append, List.append_assoc]
    rfl
  rw [readLines, hchars, List.splitOn_append_cons_self, List.map_append, readLines, readLines]

theorem readLines_eq_singleton {s : String} (h : '\n' ∉ s.toList) : readLines s = [s] := by
  rw [readLines, List.splitOn_eq_singleton h, List.map_singleton, String.ofList_toList]

theorem exists_readLines_eq_cons (s : String) :
    ∃ first, readLines s = first :: (readLines s).tail := by
  have hne : readLines s ≠ [] := by
    rw [readLines, ne_eq, List.map_eq_nil_iff]
    exact List.splitOn_ne_nil '\n' s.toList
  exact ⟨_, (List.cons_head_tail hne).symm⟩

theorem splitOn_append_of_notMem {α : Type} [DecidableEq α] {a : α} {as : List α} (h : a ∉ as)
    (bs : List α) : (as ++ bs).splitOn a = (bs.splitOn a).modifyHead (as ++ ·) := by
  induction as with
  | nil => cases hsplit : bs.splitOn a <;> simp [hsplit]
  | cons x as ih =>
    rw [List.mem_cons, not_or] at h
    have hx : (x == a) = false := beq_eq_false_iff_ne.mpr (Ne.symm h.1)
    rw [List.cons_append, List.splitOn_cons_eq_if_modifyHead, hx, ih h.2]
    simp [List.modifyHead_modifyHead, Function.comp_def]

/-- A text without line breaks in front of another one stands in the first line. -/
theorem readLines_append_of_notMem {p s first : String} {rest : List String}
    (hp : '\n' ∉ p.toList) (hs : readLines s = first :: rest) :
    readLines (p ++ s) = (p ++ first) :: rest := by
  rw [readLines] at hs ⊢
  rw [String.toList_append, splitOn_append_of_notMem hp]
  cases hsplit : s.toList.splitOn '\n' with
  | nil => exact absurd hsplit (List.splitOn_ne_nil '\n' s.toList)
  | cons cs css =>
    rw [hsplit, List.map_cons, List.cons.injEq] at hs
    rw [List.modifyHead_cons, List.map_cons, hs.2, ← hs.1, String.ofList_append,
      String.ofList_toList]

end Shell

namespace Script

theorem readLines_unlines_append (ls : List String) (rest : String) :
    Shell.readLines (unlines ls ++ rest) = ls.flatMap Shell.readLines ++ Shell.readLines rest := by
  induction ls with
  | nil =>
    have hnil : unlines [] = "" := rfl
    rw [hnil, String.empty_append, List.flatMap_nil, List.nil_append]
  | cons l ls ih =>
    rw [unlines_cons, String.append_assoc, Shell.readLines_append_line, ih, List.flatMap_cons,
      List.append_assoc]

theorem readLines_unlines (ls : List String) :
    Shell.readLines (unlines ls) = ls.flatMap Shell.readLines ++ [""] := by
  have hread := readLines_unlines_append ls ""
  rwa [String.append_empty] at hread

/-! ## Before the code -/

/-- The first line of code in a script sets the number of the replica. -/
def startsCode (l : String) : Bool :=
  "replica_index=".toList.isPrefixOf l.toList

/-- A shell passes over all lines before the first line of code. -/
def CommentsFirst (script : String) : Prop :=
  ∀ l ∈ (Shell.readLines script).takeWhile fun l => !startsCode l, Shell.passesOver l = true

/-- Behind the first line of the text come only lines that a shell passes over, unless one of them
looks like the first line of code. -/
def StaysComment (text : String) : Prop :=
  ∀ l ∈ (Shell.readLines text).tail.takeWhile fun l => !startsCode l, Shell.passesOver l = true

instance : DecidablePred StaysComment := fun _ => inferInstanceAs (Decidable (∀ l ∈ _, _ = true))

theorem staysComment_of_notMem {text : String} (h : '\n' ∉ text.toList) : StaysComment text := by
  intro l hl
  rw [Shell.readLines_eq_singleton h] at hl
  exact absurd hl List.not_mem_nil

theorem forall_mem_takeWhile_append_iff {α : Type} {q : α → Bool} {P : α → Prop} {xs ys : List α}
    (hys : ∀ y ∈ ys.takeWhile q, P y) :
    (∀ x ∈ (xs ++ ys).takeWhile q, P x) ↔ ∀ x ∈ xs.takeWhile q, P x := by
  rw [List.takeWhile_append]
  by_cases hall : (xs.takeWhile q).length = xs.length
  · have hself : xs.takeWhile q = xs :=
      (List.takeWhile_prefix q).eq_of_length hall
    rw [if_pos hall, List.forall_mem_append, hself]
    exact and_iff_left hys
  · rw [if_neg hall]

/-- A line that begins like a comment is one. -/
theorem isComment_append {p : String} (hp : p.toList.head? = some '#') (s : String) :
    Shell.passesOver (p ++ s) = true ∧ startsCode (p ++ s) = false := by
  rw [Shell.passesOver, startsCode, String.toList_append]
  cases hchars : p.toList with
  | nil => simp [hchars] at hp
  | cons c cs =>
    obtain rfl : c = '#' := by simpa [hchars] using hp
    exact ⟨by simp, rfl⟩

theorem lineBreak_notMem_replicaText (n : UInt32) : '\n' ∉ (replicaText n).toList := by
  have hdigits : '\n' ∉ n.toNat.repr.toList := by
    rw [Nat.toList_repr]
    intro h
    exact absurd (Nat.isDigit_of_mem_toDigits (by decide) (by decide) h) (by decide)
  have hword : '\n' ∉ (if n = 1 then " replica" else " replicas").toList := by
    split <;> decide
  rw [replicaText, String.toList_append, List.mem_append, not_or]
  exact ⟨hdigits, hword⟩

theorem readLines_headerLines {setName shell : String} {container : Container} {group : JobGroup}
    (hshell : '\n' ∉ shell.toList) (hname : '\n' ∉ setName.toList)
    (hgroup : '\n' ∉ group.name.toList) {first : String} {others : List String}
    (hcontainer : Shell.readLines container.name = first :: others) :
    (headerLines setName shell container group).flatMap Shell.readLines =
      ["#!" ++ shell, "# MetricSet: " ++ setName,
        "# Job group: " ++ (group.name ++ (" (" ++ replicaText group.replicas ++ ")")),
        "# Container: " ++ first] ++
      (others ++ ["", "replica_index=\"$\x7bJOB_COMPLETION_INDEX:-0\x7d\""]) := by
  have hshellLine : '\n' ∉ ("#!" ++ shell).toList := by
    have hlabel : '\n' ∉ "#!".toList := by decide
    simp only [String.toList_append, List.mem_append, hlabel, hshell, or_self,
      not_false_eq_true]
  have hsetLine : '\n' ∉ ("# MetricSet: " ++ setName).toList := by
    have hlabel : '\n' ∉ "# MetricSet: ".toList := by decide
    simp only [String.toList_append, List.mem_append, hlabel, hname, or_self, not_false_eq_true]
  have hgroupLine : '\n' ∉
      ("# Job group: " ++ (group.name ++ (" (" ++ replicaText group.replicas ++ ")"))).toList := by
    have hlabel : '\n' ∉ "# Job group: ".toList := by decide
    have hopen : '\n' ∉ " (".toList := by decide
    have hclose : '\n' ∉ ")".toList := by decide
    simp only [String.toList_append, List.mem_append, hlabel, hopen, hclose, hgroup,
      lineBreak_notMem_replicaText group.replicas, or_self, not_false_eq_true]
  have hcontainerLine : Shell.readLines ("# Container: " ++ container.name) =
      ("# Container: " ++ first) :: others :=
    Shell.readLines_append_of_notMem (by decide) hcontainer
  have hempty : Shell.readLines "" = [""] := rfl
  have hcode : Shell.readLines "replica_index=\"$\x7bJOB_COMPLETION_INDEX:-0\x7d\"" =
      ["replica_index=\"$\x7bJOB_COMPLETION_INDEX:-0\x7d\""] :=
    Shell.readLines_eq_singleton (by decide)
  simp only [headerLines, List.flatMap_cons, List.flatMap_nil,
    Shell.readLines_eq_singleton hshellLine, Shell.readLines_eq_singleton hsetLine,
    Shell.readLines_eq_singleton hgroupLine, hcontainerLine, hempty, hcode, List.cons_append,
    List.nil_append, List.append_nil]

/-- How a shell reads a script in whose header only the name of the container has line breaks. -/
theorem exists_readLines_text {setName : String} {settings : Settings} {container : Container}
    {group : JobGroup} (hshell : '\n' ∉ settings.shell.toList) (hname : '\n' ∉ setName.toList)
    (hgroup : '\n' ∉ group.name.toList) (interactive : Bool) :
    ∃ comments code rest, Shell.readLines (text setName settings interactive container group) =
        comments ++ ((Shell.readLines container.name).tail ++ "" :: code :: rest) ∧
      (∀ l ∈ comments, Shell.passesOver l = true ∧ startsCode l = false) ∧
      startsCode code = true := by
  obtain ⟨first, hfirst⟩ := Shell.exists_readLines_eq_cons container.name
  have hheader := readLines_headerLines hshell hname hgroup hfirst
  rw [text_eq_unlines, readLines_unlines, textLines]
  simp only [List.flatMap_append, hheader, List.append_assoc, List.cons_append, List.nil_append]
  refine ⟨[_, _, _, _], _, _, rfl, ?_, by decide⟩
  simp only [List.forall_mem_cons, List.not_mem_nil, false_implies, implies_true, and_true]
  exact ⟨isComment_append (by decide) _, isComment_append (by decide) _,
    isComment_append (by decide) _, isComment_append (by decide) _⟩

/-- The first line of code is there.  Where nothing else in the header has a line break, the name of
the container decides what stands before it. -/
theorem commentsFirst_text_iff {setName : String} {settings : Settings} {container : Container}
    {group : JobGroup} (hshell : '\n' ∉ settings.shell.toList) (hname : '\n' ∉ setName.toList)
    (hgroup : '\n' ∉ group.name.toList) (interactive : Bool) :
    (∃ l ∈ Shell.readLines (text setName settings interactive container group),
      startsCode l = true) ∧
    (CommentsFirst (text setName settings interactive container group) ↔
      StaysComment container.name) := by
  obtain ⟨comments, code, rest, hread, hcomments, hcode⟩ :=
    exists_readLines_text hshell hname hgroup interactive
  have htaken : ∀ l ∈ comments, (!startsCode l) = true := by
    intro l hl
    rw [(hcomments l hl).2]
    rfl
  -- The empty line and the first line of code behind it add nothing to the lines in question.
  have hend : ∀ l ∈ ("" :: code :: rest).takeWhile fun l => !startsCode l,
      Shell.passesOver l = true := by
    intro l hl
    rw [List.takeWhile_cons_of_pos (by decide), List.takeWhile_cons_of_neg (by simp [hcode]),
      List.mem_singleton] at hl
    rw [hl]
    rfl
  constructor
  · refine ⟨code, ?_, hcode⟩
    rw [hread]
    simp
  · rw [CommentsFirst, hread, List.takeWhile_append_of_pos htaken, List.forall_mem_append,
      forall_mem_takeWhile_append_iff hend]
    exact and_iff_right fun l hl => (hcomments l hl).1

end Script
end MeasuredJob
