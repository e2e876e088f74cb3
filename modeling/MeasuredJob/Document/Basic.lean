/-!
# Documents

A document is what declaration files hold and what compositions are printed as: the data model of
JSON, in which a node may also carry a tag.  The fields of a record keep their order, since the
printed form shows a record in the order in which its type declares the fields.  Numbers are split
by how they are spelled, because a number with a fraction or an exponent is never an integer, not
even when its value is whole.  In a file, a scalar without quotes is kept as it is spelled: what it
means is settled by what is asked for.
-/

namespace MeasuredJob

inductive Document where
  | null
  | bool (b : Bool)
  | int (i : Int)
  /-- A number with a fraction or an exponent, by its spelling. -/
  | decimal (spelling : String)
  | text (s : String)
  /-- A scalar without quotes, as a file spells it. -/
  | plain (spelling : String)
  | list (items : List Document)
  | record (fields : List (String × Document))
  /-- A node with a tag, such as `!persisted {...}`. -/
  | tagged (tag : String) (body : Document)
deriving Inhabited, BEq, Repr

namespace Document

/-- The two ways in which one case of a choice is written when it carries data: as a record with
one field, named for the case, or as a tagged node. -/
inductive CaseForm where
  | field
  | tag
deriving DecidableEq, Repr

/-- The case `name` of a choice, with its data. -/
def case (form : CaseForm) (name : String) (body : Document) : Document :=
  match form with
  | .field => .record [(name, body)]
  | .tag => .tagged name body

def texts (ss : List String) : Document :=
  .list (ss.map .text)

mutual

/-- Turn every tagged node into a record with one field, named by `name` of the tag. -/
def untag (name : String → String) : Document → Document
  | .null => .null
  | .bool b => .bool b
  | .int i => .int i
  | .decimal s => .decimal s
  | .text s => .text s
  | .plain s => .plain s
  | .list items => .list (untagItems name items)
  | .record fields => .record (untagFields name fields)
  | .tagged tag body => .record [(name tag, untag name body)]

def untagItems (name : String → String) : List Document → List Document
  | [] => []
  | d :: ds => untag name d :: untagItems name ds

def untagFields (name : String → String) : List (String × Document) → List (String × Document)
  | [] => []
  | (k, d) :: fs => (k, untag name d) :: untagFields name fs

end

end Document
end MeasuredJob
