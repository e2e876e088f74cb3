import MeasuredJob.Text.Blank

/-!
# Occurrences

How often one text occurs in another.  Texts are put together from pieces, and the laws here say
when the occurrences of a needle in the whole are those in the pieces: a character that the needle
does not have keeps two pieces apart, and a piece without the first or the last character of the
needle cannot take part in an occurrence that reaches over its edge.
-/

namespace MeasuredJob
namespace Text

/-- The number of places at which `needle` starts. -/
def occurrencesIn (needle : List Char) : List Char → Nat
  | [] => if needle <+: [] then 1 else 0
  | c :: cs => (if needle <+: c :: cs then 1 else 0) + occurrencesIn needle cs

variable {needle xs ys : List Char} {c : Char}

theorem occurrencesIn_eq_zero_iff : occurrencesIn needle xs = 0 ↔ ¬needle <:+: xs := by
  induction xs with
  | nil =>
    rw [occurrencesIn, List.infix_nil]
    by_cases hnil : needle = []
    · simp [hnil]
    · simp [hnil]
  | cons x xs ih =>
    rw [occurrencesIn, Nat.add_eq_zero_iff, ih, List.infix_cons_iff, not_or]
    refine and_congr_left fun _ => ?_
    by_cases hstart : needle <+: x :: xs
    · simp [hstart]
    · simp [hstart]

/-! ## Bytes -/

def bytes (s : String) : List UInt8 := s.toByteArray.data.toList

theorem bytes_append (s t : String) : bytes (s ++ t) = bytes s ++ bytes t := by
  rw [bytes, String.toByteArray_append, ByteArray.data_append, Array.toList_append]
  rfl

/-- A text whose bytes are nowhere among the bytes of another does not occur in it. -/
theorem occurs_eq_false_of_bytes {needle s : String} (h : ¬bytes needle <:+: bytes s) :
    occurs needle s = false := by
  rw [Bool.eq_false_iff]
  intro hoccurs
  obtain ⟨before, after, hsplit⟩ := occurs_iff.mp hoccurs
  have htext : s = String.ofList before ++ needle ++ String.ofList after := by
    rw [← String.toList_inj, String.toList_append, String.toList_append, String.toList_ofList,
      String.toList_ofList, hsplit]
  have hbytes : bytes s = bytes (String.ofList before) ++ bytes needle ++
      bytes (String.ofList after) := by
    rw [htext, bytes_append, bytes_append]
  exact h ⟨_, _, hbytes.symm⟩

/-! ## Characters that the needle does not have -/

theorem prefix_append_cons_iff (hc : c ∉ needle) (xs ys : List Char) :
    needle <+: xs ++ c :: ys ↔ needle <+: xs := by
  constructor
  · intro h
    rcases List.prefix_or_prefix_of_prefix h (List.prefix_append xs (c :: ys)) with
      hxs | ⟨rest, rfl⟩
    · exact hxs
    · rw [List.prefix_append_right_inj] at h
      cases rest with
      | nil => simp
      | cons d rest =>
        have hd : d = c := (List.cons_prefix_cons.mp h).1
        exact absurd (hd ▸ List.mem_append_right xs List.mem_cons_self) hc
  · intro h
    exact h.trans (List.prefix_append xs (c :: ys))

/-- No occurrence reaches over a character that the needle does not have. -/
theorem occurrencesIn_append_cons (hc : c ∉ needle) (xs ys : List Char) :
    occurrencesIn needle (xs ++ c :: ys) = occurrencesIn needle xs + occurrencesIn needle ys := by
  induction xs with
  | nil =>
    have hstart : needle <+: c :: ys ↔ needle <+: [] := prefix_append_cons_iff hc [] ys
    rw [List.nil_append, occurrencesIn, occurrencesIn]
    simp only [hstart]
  | cons x xs ih =>
    have hstart : needle <+: x :: (xs ++ c :: ys) ↔ needle <+: x :: xs :=
      prefix_append_cons_iff hc (x :: xs) ys
    rw [List.cons_append, occurrencesIn, occurrencesIn, ih, Nat.add_assoc]
    simp only [hstart]

/-! ## Edges of the needle -/

theorem occurrencesIn_append_left {first : Char} (hfirst : needle.head? = some first)
    (hxs : first ∉ xs) : occurrencesIn needle (xs ++ ys) = occurrencesIn needle ys := by
  induction xs with
  | nil => rfl
  | cons x xs ih =>
    rw [List.mem_cons, not_or] at hxs
    have hstart : ¬needle <+: x :: (xs ++ ys) := by
      intro h
      cases needle with
      | nil => cases hfirst
      | cons d needle =>
        cases hfirst
        exact hxs.1 (List.cons_prefix_cons.mp h).1
    rw [List.cons_append, occurrencesIn, if_neg hstart, Nat.zero_add, ih hxs.2]

theorem prefix_concat_iff_of_last {last : Char} (hlast : needle.getLast? = some last)
    (hc : last ≠ c) (xs : List Char) : needle <+: xs ++ [c] ↔ needle <+: xs := by
  rw [List.prefix_concat_iff]
  refine or_iff_right fun h => hc ?_
  rw [h, List.getLast?_concat] at hlast
  exact (Option.some.inj hlast).symm

theorem occurrencesIn_concat {last : Char} (hlast : needle.getLast? = some last)
    (hc : last ≠ c) : occurrencesIn needle (xs ++ [c]) = occurrencesIn needle xs := by
  induction xs with
  | nil =>
    have hnil : ¬needle <+: [] := by
      rw [List.prefix_nil]
      rintro rfl
      cases hlast
    have hstart : ¬needle <+: [c] := by
      rw [← List.nil_append [c], prefix_concat_iff_of_last hlast hc]
      exact hnil
    show (if needle <+: [c] then 1 else 0) + occurrencesIn needle [] = occurrencesIn needle []
    rw [if_neg hstart, Nat.zero_add]
  | cons x xs ih =>
    have hstart : needle <+: x :: (xs ++ [c]) ↔ needle <+: x :: xs :=
      prefix_concat_iff_of_last hlast hc (x :: xs)
    rw [List.cons_append, occurrencesIn, occurrencesIn, ih]
    simp only [hstart]

theorem occurrencesIn_append_right {last : Char} (hlast : needle.getLast? = some last)
    (hys : last ∉ ys) : occurrencesIn needle (xs ++ ys) = occurrencesIn needle xs := by
  induction ys generalizing xs with
  | nil => rw [List.append_nil]
  | cons y ys ih =>
    rw [List.mem_cons, not_or] at hys
    rw [List.append_cons, ih hys.2, occurrencesIn_concat hlast hys.1]

/-! ## Trimming -/

theorem occurrencesIn_dropEndWhile {p : Char → Bool} {last : Char}
    (hlast : needle.getLast? = some last) (hp : p last = false) :
    occurrencesIn needle (dropEndWhile p xs) = occurrencesIn needle xs := by
  obtain ⟨tail, htail, hall⟩ := exists_append_dropEndWhile p xs
  have hnot : last ∉ tail := fun h => Bool.false_ne_true (hp ▸ hall last h)
  conv => rhs; rw [htail]
  exact (occurrencesIn_append_right hlast hnot).symm

theorem occurrencesIn_dropWhile {p : Char → Bool} {first : Char}
    (hfirst : needle.head? = some first) (hp : p first = false) :
    occurrencesIn needle (xs.dropWhile p) = occurrencesIn needle xs := by
  have hnot : first ∉ xs.takeWhile p := fun h =>
    Bool.false_ne_true (hp ▸ List.all_eq_true.mp List.all_takeWhile first h)
  conv => rhs; rw [← List.takeWhile_append_dropWhile (p := p) (l := xs)]
  exact (occurrencesIn_append_left hfirst hnot).symm

end Text
end MeasuredJob
