import MeasuredJob.Document.Basic
import MeasuredJob.Document.Lexer

/-!
# Scalars without quotes

What a scalar without quotes means in a file.  Where a text is due it is its own spelling, and the
functions here say when it is null, a flag or a number.  `resolve?` is for the place where nothing
is asked for: it picks the first of these meanings that fits, and text when none does.
-/

namespace MeasuredJob
namespace Document
namespace Plain

/-- Nothing at all counts as null. -/
def isNull (s : String) : Bool :=
  ["", "~", "null", "Null", "NULL"].contains s

def bool? (s : String) : Option Bool :=
  if ["true", "True", "TRUE"].contains s then some true
  else if ["false", "False", "FALSE"].contains s then some false
  else none

/-! ## Integers -/

def inBase? (base : Nat) (digit? : Char → Option Nat) (cs : List Char) : Option Nat :=
  if cs = [] then none
  else cs.foldlM (fun n c => (digit? c).map (n * base + ·)) 0

def digitBelow? (base : Nat) (c : Char) : Option Nat :=
  (Token.hexDigit? c).filter (· < base)

/-- Without its sign, it is a run of two or more digits that starts with a zero.  Codes are
written like this, and numbers are not. -/
def isCode (cs : List Char) : Bool :=
  let digits := match cs with
    | '+' :: ds => ds
    | '-' :: ds => ds
    | ds => ds
  1 < digits.length && digits.head? == some '0' && digits.all Char.isDigit

/-- A number in base ten, or in the base that the letter after a leading zero names. -/
def magnitude? : List Char → Option Nat
  | '0' :: 'x' :: ds => inBase? 16 (digitBelow? 16) ds
  | '0' :: 'o' :: ds => inBase? 8 (digitBelow? 8) ds
  | '0' :: 'b' :: ds => inBase? 2 (digitBelow? 2) ds
  | ds => inBase? 10 (digitBelow? 10) ds

def unsigned? (cs : List Char) : Option Nat :=
  if isCode cs then none
  else match cs with
    | '+' :: ds => magnitude? ds
    | ds => magnitude? ds

/-- What a number with a minus sign takes away from zero. -/
def negative? (cs : List Char) : Option Nat :=
  if isCode cs then none
  else match cs with
    | '-' :: ds => magnitude? ds
    | _ => none

/-! ## Numbers with a fraction or an exponent -/

/-- The value of an exponent with at most one sign; no exponent at all is zero. -/
def exponent? : List Char → Option Int
  | [] => some 0
  | e :: ds => if e = 'e' ∨ e = 'E' then Text.signed? ds else none

/-- A decimal number as an integer and the power of ten that it is multiplied by.  There is a digit
before or after the point. -/
def scientific? (cs : List Char) : Option (Nat × Int) :=
  let whole := cs.takeWhile Char.isDigit
  let rest := cs.dropWhile Char.isDigit
  let (fraction, rest) := match rest with
    | '.' :: ds => (ds.takeWhile Char.isDigit, ds.dropWhile Char.isDigit)
    | ds => ([], ds)
  (Text.digits? (whole ++ fraction)).bind fun n =>
    (exponent? rest).map fun e => (n, e - fraction.length)

/-- The least number that is too large for 64-bit floating point, halfway to the next power. -/
def overflow : Nat := (Nat.pow 2 54 - 1) * Nat.pow 2 970

/-- `n` times ten to the power `e` is small enough for 64-bit floating point.  All numbers below
the 309th decimal place are, and none from the 310th on is, so that only numbers of that size are
worked out. -/
def isFinite (n : Nat) (e : Int) : Bool :=
  let place := (Nat.toDigits 10 n).length + e
  n == 0 || place < 309 ||
    (place == 309 && n * Nat.pow 10 e.toNat < overflow * Nat.pow 10 (-e).toNat)

def limits : List String :=
  let names := [".inf", ".Inf", ".INF"]
  names ++ names.map ("+" ++ ·) ++ names.map ("-" ++ ·) ++ [".nan", ".NaN", ".NAN"]

/-- A number for 64-bit floating point, which has to be finite unless it is one of `limits`. -/
def isDecimal (s : String) : Bool :=
  let magnitude := match s.toList with
    | '+' :: ds => ds
    | '-' :: ds => ds
    | ds => ds
  limits.contains s ||
    (!isCode s.toList && (scientific? magnitude).any fun (n, e) => isFinite n e)

/-! ## Meaning by spelling alone -/

/-- Integers of 64 bits are kept, and those that need more are refused up to 128 bits; above that
they are numbers like those with an exponent. -/
def integer? (cs : List Char) : Option (Option Document) :=
  match unsigned? cs, negative? cs with
  | some n, _ =>
    if n < Nat.pow 2 64 then some (some (.int n))
    else if n < Nat.pow 2 128 then some none
    else none
  | none, some n =>
    if n ≤ Nat.pow 2 63 then some (some (.int (-n)))
    else if n ≤ Nat.pow 2 127 then some none
    else none
  | none, none => none

/-- What a scalar means by its spelling alone.  An integer that is refused has no meaning. -/
def resolve? (s : String) : Option Document :=
  if isNull s then some .null
  else match bool? s with
    | some b => some (.bool b)
    | none =>
      match integer? s.toList with
      | some meaning => meaning
      | none => some (if isDecimal s then .decimal s else .text s)

end Plain

/-! ## Settled documents -/

mutual

/-- The document with a meaning for every scalar, or nothing when a scalar has none or lists and
records are nested deeper than `levels`. -/
def settle? (levels : Nat) : Document → Option Document
  | .plain s => Plain.resolve? s
  | .list items =>
    match levels with
    | 0 => none
    | levels + 1 => (settleItems? levels items).map .list
  | .record fields =>
    match levels with
    | 0 => none
    | levels + 1 => (settleFields? levels fields).map .record
  | .tagged tag body => (settle? levels body).map (.tagged tag)
  | .null => some .null
  | .bool b => some (.bool b)
  | .int i => some (.int i)
  | .decimal s => some (.decimal s)
  | .text s => some (.text s)

def settleItems? (levels : Nat) : List Document → Option (List Document)
  | [] => some []
  | d :: ds => do
    let d ← settle? levels d
    let ds ← settleItems? levels ds
    pure (d :: ds)

def settleFields? (levels : Nat) : List (String × Document) → Option (List (String × Document))
  | [] => some []
  | (k, d) :: fs => do
    let d ← settle? levels d
    let fs ← settleFields? levels fs
    pure ((k, d) :: fs)

end

end Document
end MeasuredJob
