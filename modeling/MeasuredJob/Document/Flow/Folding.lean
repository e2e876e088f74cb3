/-!
# Texts over several lines

A text in a file may go on over line breaks.  The breaks are there for the layout: blanks on both
sides of a break are dropped, a single line feed joins two words by a space, and of several breaks
the first line feed is dropped.  A text on one line keeps every blank.
-/

namespace MeasuredJob
namespace Document
namespace Flow

def isSpace (c : Char) : Bool :=
  c == ' ' || c == '\t'

/-- What ends a line once the line breaks are unified. -/
def isBreak (c : Char) : Bool :=
  c == '\n' || c == '\u2028' || c == '\u2029'

/-- The text ends here, or a blank or a line break follows. -/
def endsWord : List Char → Bool
  | [] => true
  | c :: _ => isSpace c || isBreak c

/-- Write every line break as a line feed, apart from the line and paragraph separators. -/
def unifyBreaks : List Char → List Char
  | [] => []
  | '\r' :: '\n' :: cs => '\n' :: unifyBreaks cs
  | c :: cs => (if c = '\r' ∨ c = '\u0085' then '\n' else c) :: unifyBreaks cs

/-- The blanks and line breaks since the last character of a text. -/
inductive Gap where
  /-- Blanks on one line, in reverse. -/
  | spaces (seen : List Char)
  /-- Line breaks, of which all but the first are in reverse.  There is no first break when it was
  written with a backslash. -/
  | breaks (first : Option Char) (more : List Char)

/-- What a gap stands for when the text goes on behind it. -/
def Gap.text : Gap → List Char
  | .spaces seen => seen.reverse
  | .breaks (some '\n') [] => [' ']
  | .breaks (some '\n') more => more.reverse
  | .breaks (some c) more => c :: more.reverse
  | .breaks none more => more.reverse

/-- The part of a text that has been read: its characters in reverse, and the gap behind them. -/
structure Folded where
  seen : List Char := []
  gap : Gap := .spaces []

namespace Folded

/-- The characters with the gap behind them, in reverse. -/
def joined (f : Folded) : List Char :=
  f.gap.text.reverse ++ f.seen

def push (f : Folded) (c : Char) : Folded :=
  { seen := c :: f.joined }

def space (f : Folded) (c : Char) : Folded :=
  match f.gap with
  | .spaces seen => { f with gap := .spaces (c :: seen) }
  | .breaks .. => f

def lineBreak (f : Folded) (c : Char) : Folded :=
  match f.gap with
  | .spaces _ => { f with gap := .breaks (some c) [] }
  | .breaks first more => { f with gap := .breaks first (c :: more) }

def continued (f : Folded) : Folded :=
  { seen := f.joined, gap := .breaks none [] }

def read (f : Folded) (c : Char) : Folded :=
  if isSpace c then f.space c else if isBreak c then f.lineBreak c else f.push c

def hasGap (f : Folded) : Bool :=
  match f.gap with
  | .spaces [] => false
  | _ => true

/-- The text, with what its last gap stands for. -/
def close (f : Folded) : String :=
  String.ofList f.joined.reverse

def trimmed (f : Folded) : String :=
  String.ofList f.seen.reverse

end Folded
end Flow
end Document
end MeasuredJob
