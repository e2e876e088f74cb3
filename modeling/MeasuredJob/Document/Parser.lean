import MeasuredJob.Document.Lexer

/-!
# Reading a message

The second half of reading a JSON text: a fold over the tokens.  The containers that are still open
form a stack of frames, and the state says what may come next, so a token that is out of place has
no successor state.
-/

namespace MeasuredJob
namespace Document

/-- A container that waits for the value being read.  What it holds is kept in reverse. -/
inductive Frame where
  | list (items : List Document)
  | record (fields : List (String × Document)) (name : String)

/-- What may come next. -/
inductive Expect where
  | value (stack : List Frame)
  | firstItem (stack : List Frame)
  | nextItem (items : List Document) (stack : List Frame)
  | firstName (stack : List Frame)
  | fieldName (fields : List (String × Document)) (stack : List Frame)
  | colon (fields : List (String × Document)) (name : String) (stack : List Frame)
  | nextName (fields : List (String × Document)) (stack : List Frame)
  | done (d : Document)

namespace Expect

/-- Hand a finished value to the innermost open container. -/
def deliver (d : Document) : List Frame → Expect
  | [] => .done d
  | .list items :: stack => .nextItem (d :: items) stack
  | .record fields name :: stack => .nextName ((name, d) :: fields) stack

def stepValue (stack : List Frame) : Token → Option Expect
  | .openList => some (.firstItem stack)
  | .openRecord => some (.firstName stack)
  | .scalar d => some (deliver d stack)
  | .text s => some (deliver (.text s) stack)
  | _ => none

def step : Expect → Token → Option Expect
  | .value stack, t => stepValue stack t
  | .firstItem stack, .closeList => some (deliver (.list []) stack)
  | .firstItem stack, t => stepValue (.list [] :: stack) t
  | .nextItem items stack, .comma => some (.value (.list items :: stack))
  | .nextItem items stack, .closeList => some (deliver (.list items.reverse) stack)
  | .firstName stack, .closeRecord => some (deliver (.record []) stack)
  | .firstName stack, .text s => some (.colon [] s stack)
  | .fieldName fields stack, .text s => some (.colon fields s stack)
  | .colon fields name stack, .colon => some (.value (.record fields name :: stack))
  | .nextName fields stack, .comma => some (.fieldName fields stack)
  | .nextName fields stack, .closeRecord => some (deliver (.record fields.reverse) stack)
  | _, _ => none

end Expect

/-- The document that a text spells, or nothing when the text is malformed. -/
def parse? (s : String) : Option Document := do
  let tokens ← Token.scan s
  match ← tokens.foldlM Expect.step (.value []) with
  | .done d => some d
  | _ => none

end Document
end MeasuredJob
