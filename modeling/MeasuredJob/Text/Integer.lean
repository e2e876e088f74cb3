/-!
# Integers written as text

Options may spell an integer as text.  The grammar is an optional sign followed by one or more
ASCII digits, and the value has to fit 32 bits.
-/

namespace MeasuredJob
namespace Text

/-- The value of a non-empty run of ASCII digits. -/
def digits? (cs : List Char) : Option Nat :=
  if cs ≠ [] ∧ cs.all Char.isDigit then some (Nat.ofDigitChars 10 cs 0) else none

/-- The value of digits with at most one sign before them. -/
def signed? : List Char → Option Int
  | '+' :: cs => (digits? cs).map Int.ofNat
  | '-' :: cs => (digits? cs).map fun n => -(n : Int)
  | cs => (digits? cs).map Int.ofNat

/-- An integer as a 32-bit one, unless it does not fit.  Nothing wraps around. -/
def fit32? (i : Int) : Option Int32 :=
  if -2147483648 ≤ i ∧ i < 2147483648 then some (Int32.ofInt i) else none

def int32? (cs : List Char) : Option Int32 :=
  (signed? cs).bind fit32?

def ofInt32 (i : Int32) : String :=
  i.toInt.repr

theorem digits?_toDigits (n : Nat) : digits? (Nat.toDigits 10 n) = some n := by
  have hd : (Nat.toDigits 10 n).all Char.isDigit = true := by
    rw [List.all_eq_true]
    intro c hc
    exact Nat.isDigit_of_mem_toDigits (by decide) (by decide) hc
  rw [digits?, if_pos ⟨Nat.toDigits_ne_nil, hd⟩,
    Nat.ofDigitChars_toDigits (by decide) (by decide)]

theorem fit32?_toInt (i : Int32) : fit32? i.toInt = some i := by
  have h₁ := i.le_toInt
  have h₂ := i.toInt_lt
  rw [fit32?, if_pos ⟨by omega, by omega⟩, Int32.ofInt_toInt]

end Text
end MeasuredJob
