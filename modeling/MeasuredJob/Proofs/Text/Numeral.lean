import Mathlib.Tactic.Ring
import MeasuredJob.Proofs.Text.Trimming
import MeasuredJob.Text.Integer

/-!
# Numerals

Which texts spell an integer, and which integer they spell, said without the reader.  The value of
digits is taken by position, so that it does not matter how many zeros stand in front, and it has no
bound: whether an integer fits 32 bits is a matter of its own.  The reader succeeds on the numerals
of the integers that fit, and on nothing else.
-/

namespace MeasuredJob
namespace Text

/-- The ASCII digits.  Each has its place in the list as its value. -/
def asciiDigits : List Char := ['0', '1', '2', '3', '4', '5', '6', '7', '8', '9']

/-- What digits stand for, the most significant one first. -/
def positional : List Char → ℕ
  | [] => 0
  | c :: cs => asciiDigits.idxOf c * 10 ^ cs.length + positional cs

/-- One or more ASCII digits, and nothing else. -/
def IsDigits (cs : List Char) : Prop :=
  cs ≠ [] ∧ ∀ c ∈ cs, c ∈ asciiDigits

/-- The characters spell the integer: digits with at most one sign in front of them. -/
inductive Spells : List Char → ℤ → Prop
  | unsigned {cs : List Char} (h : IsDigits cs) : Spells cs (positional cs)
  | plus {cs : List Char} (h : IsDigits cs) : Spells ('+' :: cs) (positional cs)
  | minus {cs : List Char} (h : IsDigits cs) : Spells ('-' :: cs) (-(positional cs : ℤ))

/-! ## Digits -/

theorem mem_asciiDigits_iff {c : Char} : c ∈ asciiDigits ↔ c.isDigit = true := by
  constructor
  · intro hc
    have hall : asciiDigits.all Char.isDigit = true := by decide
    exact List.all_eq_true.mp hall c hc
  · intro hc
    simp only [Char.isDigit, Bool.and_eq_true, decide_eq_true_eq] at hc
    have hlist : ∀ n < 10, Char.ofNat (48 + n) ∈ asciiDigits := by decide
    have hlow : 48 ≤ c.toNat := hc.1
    have hhigh : c.toNat ≤ 57 := hc.2
    have hchar := hlist (c.toNat - 48) (by omega)
    rwa [Nat.add_sub_cancel' hlow, Char.ofNat_toNat] at hchar

theorem isDigits_iff {cs : List Char} : IsDigits cs ↔ cs ≠ [] ∧ cs.all Char.isDigit = true := by
  simp only [IsDigits, List.all_eq_true, mem_asciiDigits_iff]

theorem idxOf_asciiDigits {c : Char} (h : c ∈ asciiDigits) :
    asciiDigits.idxOf c = c.toNat - '0'.toNat := by
  have hall : (asciiDigits.all fun d => asciiDigits.idxOf d == d.toNat - '0'.toNat) = true := by
    decide
  exact beq_iff_eq.mp (List.all_eq_true.mp hall c h)

/-- Reading digits one after another, each shifting those before it, gives their value by
position. -/
theorem ofDigitChars_eq_positional {cs : List Char} (h : ∀ c ∈ cs, c ∈ asciiDigits) (start : ℕ) :
    Nat.ofDigitChars 10 cs start = start * 10 ^ cs.length + positional cs := by
  induction cs generalizing start with
  | nil => simp [positional]
  | cons c cs ih =>
    have hdigit := idxOf_asciiDigits (h c List.mem_cons_self)
    rw [Nat.ofDigitChars_cons, ih fun d hd => h d (List.mem_cons_of_mem c hd), positional, hdigit,
      List.length_cons, Nat.pow_succ]
    ring

theorem digits?_eq_some_iff {cs : List Char} {n : ℕ} :
    digits? cs = some n ↔ IsDigits cs ∧ positional cs = n := by
  rw [digits?]
  by_cases h : IsDigits cs
  · have hvalue := ofDigitChars_eq_positional h.2 0
    rw [Nat.zero_mul, Nat.zero_add] at hvalue
    rw [if_pos (isDigits_iff.mp h), hvalue, Option.some.injEq]
    exact (and_iff_right h).symm
  · rw [if_neg (mt isDigits_iff.mpr h)]
    simp [h]

/-! ## Signs -/

theorem signed?_plus (cs : List Char) : signed? ('+' :: cs) = (digits? cs).map Int.ofNat := rfl

theorem signed?_minus (cs : List Char) :
    signed? ('-' :: cs) = (digits? cs).map fun n : ℕ => -(n : ℤ) := by
  rw [signed?]
  cases digits? cs <;> rfl

theorem signed?_unsigned {cs : List Char} (hplus : ∀ ds, cs ≠ '+' :: ds)
    (hminus : ∀ ds, cs ≠ '-' :: ds) : signed? cs = (digits? cs).map Int.ofNat :=
  signed?.eq_3 cs hplus hminus

/-- A sign is no digit. -/
theorem IsDigits.ne_cons {cs : List Char} (h : IsDigits cs) {c : Char} (hc : c ∉ asciiDigits)
    (ds : List Char) : cs ≠ c :: ds := by
  rintro rfl
  exact hc (h.2 c List.mem_cons_self)

theorem signed?_eq_some_iff {cs : List Char} {i : ℤ} : signed? cs = some i ↔ Spells cs i := by
  constructor
  · intro h
    by_cases hplus : ∃ ds, cs = '+' :: ds
    · obtain ⟨ds, rfl⟩ := hplus
      obtain ⟨n, hn, rfl⟩ := Option.map_eq_some_iff.mp (signed?_plus ds ▸ h)
      obtain ⟨hdigits, rfl⟩ := digits?_eq_some_iff.mp hn
      exact .plus hdigits
    by_cases hminus : ∃ ds, cs = '-' :: ds
    · obtain ⟨ds, rfl⟩ := hminus
      obtain ⟨n, hn, rfl⟩ := Option.map_eq_some_iff.mp (signed?_minus ds ▸ h)
      obtain ⟨hdigits, rfl⟩ := digits?_eq_some_iff.mp hn
      exact .minus hdigits
    rw [signed?_unsigned (not_exists.mp hplus) (not_exists.mp hminus)] at h
    obtain ⟨n, hn, rfl⟩ := Option.map_eq_some_iff.mp h
    obtain ⟨hdigits, rfl⟩ := digits?_eq_some_iff.mp hn
    exact .unsigned hdigits
  · intro h
    cases h with
    | unsigned h =>
      rw [signed?_unsigned (h.ne_cons (by decide)) (h.ne_cons (by decide)),
        digits?_eq_some_iff.mpr ⟨h, rfl⟩]
      rfl
    | plus h =>
      rw [signed?_plus, digits?_eq_some_iff.mpr ⟨h, rfl⟩]
      rfl
    | minus h =>
      rw [signed?_minus, digits?_eq_some_iff.mpr ⟨h, rfl⟩]
      rfl

/-! ## Integers of 32 bits -/

theorem fit32?_eq_some_iff {i : ℤ} {v : Int32} : fit32? i = some v ↔ v.toInt = i := by
  constructor
  · intro h
    rw [fit32?] at h
    split at h
    · rename_i hfits
      rw [← Option.some.inj h]
      exact Int32.toInt_ofInt_of_le hfits.1 hfits.2
    · cases h
  · rintro rfl
    exact fit32?_toInt v

theorem int32?_eq_some_iff {cs : List Char} {v : Int32} :
    int32? cs = some v ↔ Spells cs v.toInt := by
  rw [int32?, Option.bind_eq_some_iff]
  simp only [fit32?_eq_some_iff, signed?_eq_some_iff, exists_eq_right']

theorem exists_toInt_eq_iff {i : ℤ} :
    (∃ v : Int32, v.toInt = i) ↔ -2147483648 ≤ i ∧ i ≤ 2147483647 := by
  constructor
  · rintro ⟨v, rfl⟩
    have hlow := v.le_toInt
    have hhigh := v.toInt_lt
    omega
  · rintro ⟨hlow, hhigh⟩
    refine ⟨Int32.ofInt i, Int32.toInt_ofInt_of_le hlow ?_⟩
    omega

/-! ## Written integers -/

theorem isDigits_toDigits (n : ℕ) : IsDigits (Nat.toDigits 10 n) :=
  (digits?_eq_some_iff.mp (digits?_toDigits n)).1

theorem positional_toDigits (n : ℕ) : positional (Nat.toDigits 10 n) = n :=
  (digits?_eq_some_iff.mp (digits?_toDigits n)).2

/-- An integer is written as a numeral of itself. -/
theorem spells_ofInt32 (v : Int32) : Spells (ofInt32 v).toList v.toInt := by
  rw [ofInt32]
  cases v.toInt with
  | ofNat n =>
    have hspells := Spells.unsigned (isDigits_toDigits n)
    rw [positional_toDigits] at hspells
    rw [Int.repr, Nat.toList_repr]
    exact hspells
  | negSucc n =>
    have hspells := Spells.minus (isDigits_toDigits (n + 1))
    rw [positional_toDigits] at hspells
    rw [Int.repr, String.toList_append, Nat.toList_repr]
    exact hspells

/-! ## White space around a numeral -/

theorem Spells.isBlank_eq_false {cs : List Char} {i : ℤ} (h : Spells cs i) :
    ∀ c ∈ cs, isBlank c = false := by
  have hall : (asciiDigits.all fun c => !isBlank c) = true := by decide
  have hdigit : ∀ c ∈ asciiDigits, isBlank c = false := by
    simpa only [List.all_eq_true, Bool.not_eq_true'] using hall
  cases h with
  | unsigned h => exact fun c hc => hdigit c (h.2 c hc)
  | plus h => exact List.forall_mem_cons.mpr ⟨by decide, fun c hc => hdigit c (h.2 c hc)⟩
  | minus h => exact List.forall_mem_cons.mpr ⟨by decide, fun c hc => hdigit c (h.2 c hc)⟩

/-- White space is no part of a numeral, so trimming leaves just the numeral. -/
theorem Spells.trim_eq {t : String} {i : ℤ} (h : Spells t.toList i) {front back : String}
    (hfront : blank front = true) (hback : blank back = true) : trim (front ++ t ++ back) = t := by
  have hkept : strip isBlank t.toList = t.toList := by
    refine strip_eq_self_iff.mpr ⟨fun c hc => ?_, fun c hc => ?_⟩
    · exact h.isBlank_eq_false c (List.mem_of_mem_head? hc)
    · exact h.isBlank_eq_false c (List.mem_of_mem_getLast? hc)
  rw [← String.toList_inj, toList_trim, String.toList_append, String.toList_append,
    strip_append_append (blank_iff.mp hfront) (blank_iff.mp hback), hkept]

end Text
end MeasuredJob
