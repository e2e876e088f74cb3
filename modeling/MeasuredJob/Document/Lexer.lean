import MeasuredJob.Document.Basic
import MeasuredJob.Text.Integer

/-!
# Tokens of a message

The first half of reading a JSON text.  The lexer is a fold over the characters: it remembers what
it is in the middle of, and every character either continues that or closes it.  A fold needs no
bound on the number of steps, and what it holds at any point is a plain value.
-/

namespace MeasuredJob
namespace Document

inductive Token where
  | openList
  | closeList
  | openRecord
  | closeRecord
  | comma
  | colon
  | scalar (d : Document)
  | text (s : String)
  | documentStart
  | documentEnd
deriving Repr

namespace Token

/-! ## Numbers and words -/

/-- The digits and sign of an exponent, from its letter on. -/
def isExponent : List Char → Bool
  | [] => true
  | e :: '+' :: cs => (e == 'e' || e == 'E') && (Text.digits? cs).isSome
  | e :: '-' :: cs => (e == 'e' || e == 'E') && (Text.digits? cs).isSome
  | e :: cs => (e == 'e' || e == 'E') && (Text.digits? cs).isSome

/-- What may follow the whole part of a number with a fraction or an exponent. -/
def isFraction : List Char → Bool
  | '.' :: cs =>
    !(cs.takeWhile Char.isDigit).isEmpty && isExponent (cs.dropWhile Char.isDigit)
  | cs => isExponent cs

/-- A number.  The whole part has no leading zero.  Zero with a minus sign counts as a number with
a fraction, because no integer is written that way. -/
def number? (spelling : List Char) : Option Document :=
  let negative := spelling.head? == some '-'
  let body := if negative then spelling.tail else spelling
  let whole := body.takeWhile Char.isDigit
  let rest := body.dropWhile Char.isDigit
  if whole ≠ ['0'] ∧ whole.head? = some '0' then none
  else
    (Text.digits? whole).bind fun n =>
      if rest = [] ∧ ¬(negative ∧ n = 0) then
        some (.int (if negative then -(n : Int) else n))
      else if isFraction rest then some (.decimal (String.ofList spelling))
      else none

def word? (letters : List Char) : Option Document :=
  if letters = "null".toList then some .null
  else if letters = "true".toList then some (.bool true)
  else if letters = "false".toList then some (.bool false)
  else none

def hexDigit? (c : Char) : Option Nat :=
  if c.isDigit then some (c.toNat - '0'.toNat)
  else if 'a' ≤ c ∧ c ≤ 'f' then some (c.toNat - 'a'.toNat + 10)
  else if 'A' ≤ c ∧ c ≤ 'F' then some (c.toNat - 'A'.toNat + 10)
  else none

def escaped? : Char → Option Char
  | '"' => some '"'
  | '\\' => some '\\'
  | '/' => some '/'
  | 'b' => some '\x08'
  | 'f' => some '\x0c'
  | 'n' => some '\n'
  | 'r' => some '\r'
  | 't' => some '\t'
  | _ => none

/-! ## The fold -/

/-- What the lexer is in the middle of.  Characters seen so far are kept in reverse.  In a text,
`high` is the first half of a surrogate pair whose second half has to follow at once. -/
inductive Scan where
  | between
  | word (seen : List Char)
  | number (seen : List Char)
  | text (high : Option Nat) (seen : List Char)
  | escape (high : Option Nat) (seen : List Char)
  | unicode (high : Option Nat) (count value : Nat) (seen : List Char)

def isSpace (c : Char) : Bool :=
  c == ' ' || c == '\t' || c == '\n' || c == '\r'

def isNumberChar (c : Char) : Bool :=
  c.isDigit || c == '-' || c == '+' || c == '.' || c == 'e' || c == 'E'

/-- One character between tokens: the state after it and the token that it completes. -/
def startToken (c : Char) : Option (Scan × List Token) :=
  if isSpace c then some (.between, [])
  else match c with
  | '[' => some (.between, [.openList])
  | ']' => some (.between, [.closeList])
  | '\x7b' => some (.between, [.openRecord])
  | '\x7d' => some (.between, [.closeRecord])
  | ',' => some (.between, [.comma])
  | ':' => some (.between, [.colon])
  | '"' => some (.text none [], [])
  | c =>
    if c.isDigit || c == '-' then some (.number [c], [])
    else if c.isAlpha then some (.word [c], [])
    else none

/-- The code unit of a finished `\u` escape: a character, or half of a pair. -/
def finishUnit (high : Option Nat) (unit : Nat) (seen : List Char) : Option Scan :=
  match high with
  | some h =>
    if 0xDC00 ≤ unit ∧ unit < 0xE000 then
      some (.text none (Char.ofNat (0x10000 + (h - 0xD800) * 0x400 + (unit - 0xDC00)) :: seen))
    else none
  | none =>
    if 0xD800 ≤ unit ∧ unit < 0xDC00 then some (.text (some unit) seen)
    else if 0xDC00 ≤ unit ∧ unit < 0xE000 then none
    else some (.text none (Char.ofNat unit :: seen))

def step (s : Scan) (c : Char) : Option (Scan × List Token) :=
  match s with
  | .between => startToken c
  | .word seen =>
    if c.isAlpha then some (.word (c :: seen), [])
    else do
      let d ← word? seen.reverse
      let (s, ts) ← startToken c
      pure (s, .scalar d :: ts)
  | .number seen =>
    if isNumberChar c then some (.number (c :: seen), [])
    else do
      let d ← number? seen.reverse
      let (s, ts) ← startToken c
      pure (s, .scalar d :: ts)
  | .text high seen =>
    if c = '\\' then some (.escape high seen, [])
    else if high.isSome ∨ c.toNat < 0x20 then none
    else if c = '"' then some (.between, [.text (String.ofList seen.reverse)])
    else some (.text none (c :: seen), [])
  | .escape high seen =>
    if c = 'u' then some (.unicode high 0 0 seen, [])
    else if high.isSome then none
    else (escaped? c).map fun e => (.text none (e :: seen), [])
  | .unicode high count value seen => do
    let value := value * 16 + (← hexDigit? c)
    if count < 3 then pure (.unicode high (count + 1) value seen, [])
    else (finishUnit high value seen).map fun s => (s, [])

def finish : Scan → Option (List Token)
  | .between => some []
  | .word seen => (word? seen.reverse).map fun d => [.scalar d]
  | .number seen => (number? seen.reverse).map fun d => [.scalar d]
  | .text .. => none
  | .escape .. => none
  | .unicode .. => none

/-- The tokens of a text, or nothing when some part of it is no token. -/
def scan (s : String) : Option (List Token) := do
  let (state, tokens) ← s.toList.foldlM
    (fun (acc : Scan × List Token) c => do
      let (state, ts) ← step acc.1 c
      pure (state, ts.reverse ++ acc.2))
    (Scan.between, [])
  let last ← finish state
  pure (tokens.reverse ++ last)

end Token
end Document
end MeasuredJob
