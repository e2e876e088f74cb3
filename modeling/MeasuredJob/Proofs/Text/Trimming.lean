import MeasuredJob.Text.Blank

/-!
# Trimming

What trimming leaves of a text and what it takes away.
-/

namespace MeasuredJob
namespace Text

theorem getLast?_dropEndWhile {p : Char → Bool} {cs : List Char} {c : Char}
    (h : (dropEndWhile p cs).getLast? = some c) : p c = false := by
  rw [dropEndWhile, List.getLast?_reverse] at h
  have hhead := List.head?_dropWhile_not p cs.reverse
  rw [h] at hhead
  exact hhead

/-- Trimming the end stops at a character that is kept. -/
theorem dropEndWhile_append {p : Char → Bool} {cs : List Char} {c : Char}
    (hlast : cs.getLast? = some c) (hc : p c = false) (ds : List Char) :
    dropEndWhile p (cs ++ ds) = cs ++ dropEndWhile p ds := by
  obtain ⟨front, rfl⟩ := List.getLast?_eq_some_iff.mp hlast
  rw [dropEndWhile, dropEndWhile, List.reverse_append, List.dropWhile_append]
  split
  · rename_i hall
    rw [List.isEmpty_iff.mp hall]
    simp [hc]
  · simp

theorem dropEndWhile_append_of_pos {p : Char → Bool} {tail : List Char}
    (h : ∀ c ∈ tail, p c = true) (cs : List Char) :
    dropEndWhile p (cs ++ tail) = dropEndWhile p cs := by
  rw [dropEndWhile, List.reverse_append,
    List.dropWhile_append_of_pos fun c hc => h c (List.mem_reverse.mp hc), dropEndWhile]

/-! ## Trimmed texts -/

theorem dropEndWhile_eq_self {p : Char → Bool} {cs : List Char}
    (h : ∀ c ∈ cs.getLast?, p c = false) : dropEndWhile p cs = cs := by
  cases hlast : cs.getLast? with
  | none => rw [List.getLast?_eq_none_iff.mp hlast, dropEndWhile_nil]
  | some c =>
    have hkept := dropEndWhile_append hlast (h c hlast) []
    rwa [List.append_nil, dropEndWhile_nil, List.append_nil] at hkept

theorem head?_strip {p : Char → Bool} {cs : List Char} {c : Char}
    (h : (strip p cs).head? = some c) : p c = false := by
  obtain ⟨tail, htail, -⟩ := exists_append_dropEndWhile p (cs.dropWhile p)
  have hhead : (cs.dropWhile p).head? = some c := by
    rw [htail, List.head?_append, ← strip, h]
    rfl
  have hnot := List.head?_dropWhile_not p cs
  rw [hhead] at hnot
  exact hnot

/-- Nothing is stripped from a text exactly if its first and its last character are kept. -/
theorem strip_eq_self_iff {p : Char → Bool} {cs : List Char} :
    strip p cs = cs ↔ (∀ c ∈ cs.head?, p c = false) ∧ ∀ c ∈ cs.getLast?, p c = false := by
  constructor
  · intro h
    rw [← h]
    exact ⟨fun _ hc => head?_strip hc, fun _ hc => getLast?_dropEndWhile hc⟩
  · rintro ⟨hhead, hlast⟩
    have hdrop : cs.dropWhile p = cs := by
      cases cs with
      | nil => rfl
      | cons c cs => rw [List.dropWhile_cons_of_neg (by simp [hhead c rfl])]
    rw [strip, hdrop, dropEndWhile_eq_self hlast]

theorem trim_eq_self_iff {s : String} :
    trim s = s ↔ (∀ c ∈ s.toList.head?, isBlank c = false) ∧
      ∀ c ∈ s.toList.getLast?, isBlank c = false := by
  rw [← String.toList_inj, toList_trim, strip_eq_self_iff]

theorem trim_trim (s : String) : trim (trim s) = trim s := by
  rw [trim_eq_self_iff, toList_trim]
  exact ⟨fun _ hc => head?_strip hc, fun _ hc => getLast?_dropEndWhile hc⟩

/-- Between two trimmed texts anything may stand. -/
theorem trim_append_append {s t : String} (hs : trim s = s) (ht : trim t = t) (hs' : s ≠ "")
    (ht' : t ≠ "") (between : String) : trim (s ++ between ++ t) = s ++ between ++ t := by
  rw [trim_eq_self_iff] at hs ht ⊢
  have hhead : (s ++ between ++ t).toList.head? = s.toList.head? := by
    obtain ⟨c, cs, hcs⟩ := List.exists_cons_of_ne_nil (mt String.toList_eq_nil_iff.mp hs')
    rw [String.toList_append, String.toList_append, hcs]
    rfl
  have hlast : (s ++ between ++ t).toList.getLast? = t.toList.getLast? := by
    have hsome := List.getLast?_eq_some_getLast (mt String.toList_eq_nil_iff.mp ht')
    rw [String.toList_append, List.getLast?_append, hsome]
    rfl
  rw [hhead, hlast]
  exact ⟨hs.1, ht.2⟩

/-- Characters come only from the text that is trimmed. -/
theorem mem_of_mem_trim {s : String} {c : Char} (h : c ∈ (trim s).toList) : c ∈ s.toList := by
  rw [toList_trim, strip, dropEndWhile, List.mem_reverse] at h
  have hdropped := (List.dropWhile_suffix isBlank).subset h
  exact (List.dropWhile_suffix isBlank).subset (List.mem_reverse.mp hdropped)

/-- What is dropped at the ends is dropped there whatever else stands in the text. -/
theorem strip_append_append {p : Char → Bool} {front back : List Char}
    (hfront : ∀ c ∈ front, p c = true) (hback : ∀ c ∈ back, p c = true) (cs : List Char) :
    strip p (front ++ cs ++ back) = strip p cs := by
  rw [strip, List.append_assoc, List.dropWhile_append_of_pos hfront, List.dropWhile_append]
  split
  · -- Nothing else stands in the text, and so all of it is dropped.
    rename_i hempty
    have hnone : back.dropWhile p = [] := by
      rw [← List.append_nil back, List.dropWhile_append_of_pos hback, List.dropWhile_nil]
    rw [strip, List.isEmpty_iff.mp hempty, hnone]
  · rw [dropEndWhile_append_of_pos hback, strip]

/-! ## Blank texts -/

theorem exists_append_strip (p : Char → Bool) (cs : List Char) :
    ∃ front tail, cs = front ++ strip p cs ++ tail ∧
      (∀ c ∈ front, p c = true) ∧ ∀ c ∈ tail, p c = true := by
  obtain ⟨tail, htail, hblank⟩ := exists_append_dropEndWhile p (cs.dropWhile p)
  refine ⟨cs.takeWhile p, tail, ?_, List.all_eq_true.mp List.all_takeWhile, hblank⟩
  rw [strip, List.append_assoc, ← htail, List.takeWhile_append_dropWhile]

theorem strip_eq_nil_iff {p : Char → Bool} {cs : List Char} :
    strip p cs = [] ↔ ∀ c ∈ cs, p c = true := by
  obtain ⟨front, tail, hsplit, hfront, htail⟩ := exists_append_strip p cs
  constructor
  · intro hnil
    rw [hnil, List.append_nil] at hsplit
    rw [hsplit, List.forall_mem_append]
    exact ⟨hfront, htail⟩
  · intro hall
    cases hstrip : strip p cs with
    | nil => rfl
    | cons c rest =>
      have hhead : (strip p cs).head? = some c := by
        rw [hstrip, List.head?_cons]
      have hc : c ∈ cs := by
        rw [hsplit, hstrip]
        simp
      exact absurd (hall c hc) (by simp [head?_strip hhead])

theorem blank_iff {s : String} : blank s = true ↔ ∀ c ∈ s.toList, isBlank c = true := by
  rw [blank, beq_iff_eq, ← String.toList_eq_nil_iff, toList_trim, strip_eq_nil_iff]

/-- Copies of a blank character around a text do not decide whether it is blank. -/
theorem blank_trimChar {c : Char} (hc : isBlank c = true) (s : String) :
    blank (trimChar c s) = blank s := by
  have hlist : (trimChar c s).toList = strip (· == c) s.toList := String.toList_ofList
  obtain ⟨front, tail, hsplit, hfront, htail⟩ := exists_append_strip (· == c) s.toList
  have hblank : ∀ cs : List Char, (∀ d ∈ cs, (d == c) = true) → ∀ d ∈ cs, isBlank d = true := by
    intro cs hcs d hd
    rw [eq_of_beq (hcs d hd), hc]
  rw [Bool.eq_iff_iff, blank_iff, blank_iff, hlist]
  conv => rhs; rw [hsplit, List.forall_mem_append, List.forall_mem_append]
  exact ⟨fun h => ⟨⟨hblank front hfront, h⟩, hblank tail htail⟩, fun h => h.1.2⟩

/-- `t` is `s` without the copies of `c` at its end, however many there are. -/
def DropsEnd (c : Char) (s t : String) : Prop :=
  (∃ n, s.toList = t.toList ++ List.replicate n c) ∧ t.toList.getLast? ≠ some c

theorem dropsEnd_trimEndChar (c : Char) (s : String) : DropsEnd c s (trimEndChar c s) := by
  have hlist : (trimEndChar c s).toList = dropEndWhile (· == c) s.toList := String.toList_ofList
  rw [DropsEnd, hlist]
  constructor
  · obtain ⟨tail, htail, hc⟩ := exists_append_dropEndWhile (· == c) s.toList
    have hreplicate : tail = List.replicate tail.length c :=
      List.eq_replicate_iff.mpr ⟨rfl, fun x hx => by simpa using hc x hx⟩
    exact ⟨tail.length, hreplicate ▸ htail⟩
  · intro h
    have hne := getLast?_dropEndWhile h
    simp at hne

end Text
end MeasuredJob
