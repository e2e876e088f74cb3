import MeasuredJob.Document.Flow.Lexer

/-!
# Reading a file

A fold over the tokens of a file, as for messages, with the freedoms that files have.  A comma may
stand behind the last item, a field may have no value or no colon, and a list may hold single fields
without braces.  What is left out is the empty plain scalar.  A file holds at most one document, and
a file without any holds the empty plain scalar too.
-/

namespace MeasuredJob
namespace Document
namespace Flow

/-- A container that waits for the value being read.  What it holds is kept in reverse. -/
inductive Frame where
  | list (items : List Document)
  | record (fields : List (String × Document)) (name : String)
  /-- A record of one field, written without braces as an item of a list. -/
  | single (name : String)

/-- What may come next. -/
inductive Expect where
  /-- A mark before the document, or its root, or the end of the file. -/
  | document
  | root
  | item (items : List Document) (stack : List Frame)
  /-- A comma, or the end of the list, or the colon that makes the last item a field name. -/
  | nextItem (items : List Document) (stack : List Frame)
  /-- A field name, or the end of the record. -/
  | fieldName (fields : List (String × Document)) (stack : List Frame)
  /-- The colon behind a field name, or what may follow the field. -/
  | colon (fields : List (String × Document)) (name : String) (stack : List Frame)
  | value (stack : List Frame)
  /-- A comma, or the end of the record. -/
  | nextName (fields : List (String × Document)) (stack : List Frame)
  | done (d : Document)
  /-- More marks behind the document, or the end of the file. -/
  | closed (d : Document)

namespace Expect

/-- What stands where nothing is written. -/
def empty : Document := .plain ""

/-- Hand a finished value to the innermost open container. -/
def deliver (d : Document) : List Frame → Expect
  | [] => .done d
  | .list items :: stack => .nextItem (d :: items) stack
  | .record fields name :: stack => .nextName ((name, d) :: fields) stack
  | .single name :: stack => deliver (.record [(name, d)]) stack

def stepValue (stack : List Frame) : Token → Option Expect
  | .openList => some (.item [] stack)
  | .openRecord => some (.fieldName [] stack)
  | .scalar d => some (deliver d stack)
  | .text s => some (deliver (.text s) stack)
  | _ => none

def name? : Document → Option String
  | .text s => some s
  | .plain s => some s
  | _ => none

def stepNext : Expect → Token → Option Expect
  | .nextItem items stack, .comma => some (.item items stack)
  | .nextItem items stack, .closeList => some (deliver (.list items.reverse) stack)
  | .nextItem (d :: items) stack, .colon =>
    (name? d).map fun name => .value (.single name :: .list items :: stack)
  | .nextName fields stack, .comma => some (.fieldName fields stack)
  | .nextName fields stack, .closeRecord => some (deliver (.record fields.reverse) stack)
  | _, _ => none

def step : Expect → Token → Option Expect
  | .document, .documentStart => some .root
  | .document, t => stepValue [] t
  | .root, .documentEnd => some (.closed empty)
  | .root, t => stepValue [] t
  | .item items stack, .closeList => some (deliver (.list items.reverse) stack)
  | .item items stack, t => stepValue (.list items :: stack) t
  | .fieldName fields stack, .closeRecord => some (deliver (.record fields.reverse) stack)
  | .fieldName fields stack, .text s => some (.colon fields s stack)
  | .fieldName fields stack, .scalar d => (name? d).map fun s => .colon fields s stack
  | .colon fields name stack, .colon => some (.value (.record fields name :: stack))
  | .colon fields name stack, t => stepNext (.nextName ((name, empty) :: fields) stack) t
  | .value stack, t => (stepValue stack t).or (stepNext (deliver empty stack) t)
  | .done d, .documentEnd => some (.closed d)
  | .closed d, .documentEnd => some (.closed d)
  | e, t => stepNext e t

def finish : Expect → Option Document
  | .document => some empty
  | .root => some empty
  | .done d => some d
  | .closed d => some d
  | _ => none

end Expect
end Flow

/-- The characters that a file may hold.  Controls other than tabs and line breaks are left out, and
so are the two noncharacters below `0x10000`. -/
def isFileChar (c : Char) : Bool :=
  let n := c.toNat
  n == 0x09 || n == 0x0A || n == 0x0D || (0x20 ≤ n && n ≤ 0x7E) || n == 0x85 ||
    (0xA0 ≤ n && n ≤ 0xFFFD) || 0x10000 ≤ n

/-- The document in a file, or nothing when the file is malformed. -/
def parseFile? (s : String) : Option Document := do
  if s.toList.all isFileChar then
    let tokens ← Flow.tokens? s.toList
    let state ← tokens.foldlM Flow.Expect.step .document
    state.finish
  else none

end Document
end MeasuredJob
