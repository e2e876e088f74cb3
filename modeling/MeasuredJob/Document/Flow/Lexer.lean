import MeasuredJob.Document.Flow.Folding
import MeasuredJob.Document.Lexer

/-!
# Tokens of a file

Files are written in flow style: lists in brackets, records in braces, and scalars that are quoted
or plain.  Most JSON texts are such files, but halves of surrogate pairs cannot be escaped.

The lexer goes over the characters once and looks ahead no further than three of them.  Beside what
it is in the middle of, it knows where it stands, because some rules are about places.  A field name
has to end on the line on which it starts and within `keyLimit` bytes of its start, a line that
starts with three dashes or dots belongs to no text, and outside all brackets a line does not start
with a tab.
-/

namespace MeasuredJob
namespace Document
namespace Flow

structure Mark where
  line : Nat := 0
  column : Nat := 0
  offset : Nat := 0

/-- The place behind the character `c`. -/
def Mark.next (m : Mark) (c : Char) : Mark :=
  let offset := m.offset + c.utf8Size
  if isBreak c then { line := m.line + 1, column := 0, offset }
  else { m with column := m.column + 1, offset }

inductive Scan where
  | between
  | comment
  /-- A mark of the document, with the number of characters to come. -/
  | marker (left : Nat)
  | plain (f : Folded)
  | single (f : Folded)
  /-- The second of two single quotes, which stand for one. -/
  | singleQuote (f : Folded)
  | double (f : Folded)
  | escape (f : Folded)
  /-- A character by its code, with the number of digits to come. -/
  | code (left value : Nat) (f : Folded)

structure Lexer where
  mark : Mark := {}
  scan : Scan := .between
  /-- For every open bracket, innermost first, where the scalar or bracket starts that may turn out
  to be a field name. -/
  keys : List (Option Mark) := []
  /-- Whether a field name may start here. -/
  keyAllowed : Bool := true

namespace Lexer

/-- The most bytes between the start of a field name and the colon behind it. -/
def keyLimit : Nat := 1024

def isOpen (l : Lexer) : Bool :=
  !l.keys.isEmpty

def startKey (l : Lexer) : Lexer :=
  match l.keyAllowed, l.keys with
  | true, _ :: outer => { l with keys := some l.mark :: outer }
  | _, _ => l

def openBracket (l : Lexer) : Lexer :=
  let l := l.startKey
  { l with keys := none :: l.keys, keyAllowed := true }

def closeBracket (l : Lexer) : Lexer :=
  { l with keys := l.keys.tail, keyAllowed := false }

def nextEntry (l : Lexer) : Lexer :=
  match l.keys with
  | [] => l
  | _ :: outer => { l with keys := none :: outer, keyAllowed := true }

def startScalar (l : Lexer) (scan : Scan) : Lexer :=
  { l.startKey with keyAllowed := false, scan }

def endKey (l : Lexer) : Option Lexer :=
  match l.keys with
  | some start :: outer =>
    if start.line = l.mark.line ∧ l.mark.offset ≤ start.offset + keyLimit then
      some { l with keys := none :: outer, keyAllowed := false }
    else none
  | _ => none

/-- The mark before a document or behind it, if the line starts with one. -/
def marker? : List Char → Option Token
  | '-' :: '-' :: '-' :: rest => if endsWord rest then some .documentStart else none
  | '.' :: '.' :: '.' :: rest => if endsWord rest then some .documentEnd else none
  | _ => none

/-- A plain scalar may start with `c`.  The characters that other kinds of nodes start with are
left out. -/
def startsPlain (c : Char) (rest : List Char) : Bool :=
  if c = '-' then !endsWord rest else !"?&*!|>%@\x60".toList.contains c

/-- Brackets and commas, which end a plain scalar. -/
def isBracket (c : Char) : Bool :=
  ",[]\x7b\x7d".toList.contains c

def readBetween (l : Lexer) (c : Char) (rest : List Char) : Option (Lexer × List Token) :=
  if isBreak c then some ({ l with keyAllowed := l.keyAllowed || !l.isOpen }, [])
  else match c with
  | ' ' => some (l, [])
  | '\t' => if l.isOpen ∨ ¬l.keyAllowed then some (l, []) else none
  | '#' => some ({ l with scan := .comment }, [])
  | '[' => some (l.openBracket, [.openList])
  | ']' => some (l.closeBracket, [.closeList])
  | '\x7b' => some (l.openBracket, [.openRecord])
  | '\x7d' => some (l.closeBracket, [.closeRecord])
  | ',' => some (l.nextEntry, [.comma])
  | ':' => l.endKey.map fun l => (l, [.colon])
  | '"' => some (l.startScalar (.double {}), [])
  | '\'' => some (l.startScalar (.single {}), [])
  | c =>
    if l.isOpen ∧ startsPlain c rest then some (l.startScalar (.plain (Folded.push {} c)), [])
    else none

/-- A character of a plain scalar, which a colon ends if a blank follows, and a comment if a blank
goes before. -/
def readPlain (l : Lexer) (f : Folded) (c : Char) (rest : List Char) :
    Option (Lexer × List Token) :=
  let finish := (readBetween { l with scan := .between } c rest).map fun (l, ts) =>
    (l, .scalar (.plain f.trimmed) :: ts)
  let more := some ({ l with scan := .plain (f.read c) }, [])
  if isBracket c ∨ (c = '#' ∧ f.hasGap) then finish
  else if c = ':' then
    if endsWord rest then finish
    else if rest.head?.any (fun d => d == '?' || isBracket d) then none
    else more
  else more

/-- The character that a letter behind a backslash stands for. -/
def escaped? : Char → Option Char
  | '0' => some '\x00'
  | 'a' => some '\x07'
  | 'v' => some '\x0b'
  | 'e' => some '\x1b'
  | ' ' => some ' '
  | '\t' => some '\t'
  | 'N' => some '\u0085'
  | '_' => some '\u00a0'
  | 'L' => some '\u2028'
  | 'P' => some '\u2029'
  | c => Token.escaped? c

/-- The number of digits of a code behind a backslash and this letter. -/
def codeLength? : Char → Option Nat
  | 'x' => some 2
  | 'u' => some 4
  | 'U' => some 8
  | _ => none

def readEscape (f : Folded) (c : Char) : Option Scan :=
  if isBreak c then some (.double f.continued)
  else match codeLength? c with
    | some digits => some (.code digits 0 f)
    | none => (escaped? c).map fun e => .double (f.push e)

/-- A digit of a code.  Only the code of a character is accepted: halves of pairs are not. -/
def readCode (left value : Nat) (f : Folded) (c : Char) : Option Scan := do
  let value := value * 16 + (← Token.hexDigit? c)
  if 1 < left then pure (.code (left - 1) value f)
  else if value.isValidChar then pure (.double (f.push (Char.ofNat value)))
  else none

/-- A character of a line that is no mark of the document. -/
def readLine (l : Lexer) (c : Char) (rest : List Char) : Option (Lexer × List Token) :=
  match l.scan with
  | .between => l.readBetween c rest
  | .comment =>
    if isBreak c then readBetween { l with scan := .between } c rest else some (l, [])
  | .marker left =>
    some ({ l with scan := if left ≤ 1 then .between else .marker (left - 1) }, [])
  | .plain f => l.readPlain f c rest
  | .single f =>
    if c = '\'' then
      if rest.head? = some '\'' then some ({ l with scan := .singleQuote f }, [])
      else some ({ l with scan := .between }, [.text f.close])
    else some ({ l with scan := .single (f.read c) }, [])
  | .singleQuote f => some ({ l with scan := .single (f.push c) }, [])
  | .double f =>
    if c = '"' then some ({ l with scan := .between }, [.text f.close])
    else if c = '\\' then some ({ l with scan := .escape f }, [])
    else some ({ l with scan := .double (f.read c) }, [])
  | .escape f => (readEscape f c).map fun scan => ({ l with scan }, [])
  | .code left value f => (readCode left value f c).map fun scan => ({ l with scan }, [])

/-- A mark of the document stands outside all brackets and texts. -/
def startMarker (l : Lexer) (t : Token) : Option (Lexer × List Token) :=
  match l.scan with
  | .between =>
    if l.isOpen then none else some ({ l with scan := .marker 2, keyAllowed := false }, [t])
  | _ => none

/-- One character, with those behind it: the lexer after it, and the tokens that it completes. -/
def step (l : Lexer) (c : Char) (rest : List Char) : Option (Lexer × List Token) :=
  let read := match l.mark.column, marker? (c :: rest) with
    | 0, some t => l.startMarker t
    | _, _ => l.readLine c rest
  read.map fun (l, ts) => ({ l with mark := l.mark.next c }, ts)

/-- The tokens of the characters behind those that gave `seen`, which is in reverse. -/
def run (l : Lexer) (seen : List Token) : List Char → Option (List Token)
  | [] =>
    match l.scan with
    | .between | .comment => some seen.reverse
    | _ => none
  | c :: rest =>
    match l.step c rest with
    | some (l, ts) => run l (ts.reverse ++ seen) rest
    | none => none

end Lexer

/-- The tokens of a file.  A byte order mark may stand at its start. -/
def tokens? (cs : List Char) : Option (List Token) :=
  match unifyBreaks cs with
  | '\ufeff' :: rest => Lexer.run { mark := Mark.next {} '\ufeff' } [] rest
  | cs => Lexer.run {} [] cs

end Flow
end Document
end MeasuredJob
