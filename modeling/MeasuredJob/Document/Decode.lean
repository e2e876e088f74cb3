import MeasuredJob.Document.Plain
import MeasuredJob.Table
import MeasuredJob.Text.Integer

/-!
# Decoding documents

A decoder turns a document into a value of one type, or refuses it.  There are two kinds of
sources.  A message spells every value by its type and nothing is converted, but a record may also
come as the list of its fields in declaration order, and a case without data may come as a field
that holds null.  A file is written by hand: a plain scalar means what is asked for, and stands for
its own spelling where a text is due, while records are always written with their field names.  An
empty plain scalar is a list or record without anything in it.

A record decoder asks for fields by name, so fields that nobody asks for are ignored.  A field that
is asked for and given twice is refused, because there is no telling which one is meant.
-/

namespace MeasuredJob

universe u

namespace Document

inductive Source where
  | message
  | file
deriving DecidableEq, Repr

abbrev Decoder (α : Type u) := Source → Document → Option α

namespace Decode

/-! ## Scalars -/

def text : Decoder String
  | _, .text s => some s
  | _, .plain s => some s
  | _, _ => none

def bool : Decoder Bool
  | _, .bool b => some b
  | _, .plain s => Plain.bool? s
  | _, _ => none

def int32 : Decoder Int32
  | _, .int i => Text.fit32? i
  | _, _ => none

def nat (bound : Nat) : Decoder Nat
  | _, .int i => if 0 ≤ i ∧ i < bound then some i.toNat else none
  | _, .plain s => (Plain.unsigned? s.toList).filter (· < bound)
  | _, _ => none

def uint32 : Decoder UInt32 := fun src d =>
  (nat UInt32.size src d).map UInt32.ofNat

/-! ## Containers -/

def list {α : Type u} (item : Decoder α) : Decoder (List α)
  | src, .list ds => ds.mapM (item src)
  | _, .plain "" => some []
  | _, _ => none

def entries {α : Type u} (value : Document → Option α) :
    List (String × Document) → Option (List (String × α)) :=
  List.mapM fun e => (value e.2).map fun v => (e.1, v)

/-- A record whose field names are data. -/
def table {α : Type u} (value : Decoder α) : Decoder (Table α)
  | src, .record fields => (entries (value src) fields).map Table.ofList
  | _, .plain "" => some ∅
  | _, _ => none

/-! ## Records -/

abbrev Fields := List (String × Document)

/-- The fields of a record that has to be given by field names. -/
def fields? : Document → Option Fields
  | .record fields => some fields
  | .plain "" => some []
  | _ => none

/-- The fields of a record with the given field names.  A message may leave the names out. -/
def record? (names : List String) : Source → Document → Option Fields
  | .message, .list ds => if ds.length ≤ names.length then some (names.zip ds) else none
  | _, d => fields? d

/-- The field `name`, if it is given.  The outer `none` refuses a field given twice. -/
def find (fields : Fields) (name : String) : Option (Option Document) :=
  match fields.filter fun f => f.1 == name with
  | [] => some none
  | [f] => some (some f.2)
  | _ => none

def required {α : Type u} (fields : Fields) (name : String) (value : Document → Option α) :
    Option α :=
  (find fields name).bind fun
    | none => none
    | some d => value d

/-- A field that has the value `default` when it is left out. -/
def defaulting {α : Type u} (fields : Fields) (name : String) (default : α)
    (value : Document → Option α) : Option α :=
  (find fields name).bind fun
    | none => some default
    | some d => value d

/-- A value that null stands in for when there is none. -/
def nullable {α : Type u} (value : Document → Option α) : Document → Option (Option α)
  | .null => some none
  | .plain s => if Plain.isNull s then some none else (value (.plain s)).map some
  | d => (value d).map some

/-- A field that may be left out or hold null. -/
def optional {α : Type u} (fields : Fields) (name : String) (value : Document → Option α) :
    Option (Option α) :=
  defaulting fields name none (nullable value)

/-- A field that may be given again: the last value counts, and the earlier ones are only checked.
It may be left out or hold null. -/
def latest {α : Type u} (fields : Fields) (name : String) (value : Document → Option α) :
    Option (Option α) :=
  ((fields.filter fun f => f.1 == name).mapM fun f => nullable value f.2).map fun values =>
    values.getLast?.join

/-! ## Choices -/

/-- The name of a case and its data, if any. -/
def case? : Source → Document → Option (String × Option Document)
  | _, .text s => some (s, none)
  | _, .plain s => some (s, none)
  | .message, .record [(name, .null)] => some (name, none)
  | .message, .record [(name, d)] => some (name, some d)
  | _, _ => none

end Decode

/-! ## Building records

Fields that say nothing are left out, so each of these gives the list of at most one field. -/

namespace Encode

abbrev Fields := List (String × Document)

def field (name : String) (d : Document) : Fields := [(name, d)]

def optionalText (name : String) : Option String → Fields
  | none => []
  | some s => [(name, .text s)]

/-- A flag, written only when it is set. -/
def flag (name : String) (b : Bool) : Fields :=
  if b then [(name, .bool true)] else []

/-- A list of texts, written only when it is not empty. -/
def texts (name : String) (ss : List String) : Fields :=
  if ss.isEmpty then [] else [(name, .texts ss)]

def table {α : Type u} (value : α → Document) (t : Table α) : Document :=
  .record (t.entries.map fun e => (e.1, value e.2))

/-- A table, written only when it is not empty. -/
def nonEmptyTable {α : Type u} (name : String) (value : α → Document) (t : Table α) : Fields :=
  if t.isEmpty then [] else [(name, table value t)]

end Encode
end Document
end MeasuredJob
