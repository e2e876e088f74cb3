import MeasuredJob.Table
import MeasuredJob.Document.Decode
import MeasuredJob.Text.Integer

/-!
# Option bags

The options of one declared plugin, as the declaration gives them: flat options, whose values are
texts or 32-bit integers, and map options, whose values are tables of those.  A bag knows nothing
about what a plugin accepts.  Each plugin reads the keys that it documents and ignores the others.
-/

namespace MeasuredJob

inductive OptionValue where
  | int (i : Int32)
  | text (s : String)
deriving DecidableEq, Repr

namespace OptionValue

/-- The value as text.  Integers are written in decimal. -/
def spelling : OptionValue → String
  | .int i => Text.ofInt32 i
  | .text s => s

def encode : OptionValue → Document
  | .int i => .int i.toInt
  | .text s => .text s

/-- Text or an integer of 32 bits, by what the document says it is: nothing else is converted,
whatever the source. -/
def decode : Document → Option OptionValue
  | .int i => (Text.fit32? i).map .int
  | .text s => some (.text s)
  | _ => none

theorem decode_encode (v : OptionValue) : decode v.encode = some v := by
  cases v with
  | int i => simp [encode, decode, Text.fit32?_toInt]
  | text s => rfl

end OptionValue

structure OptionBag where
  /-- Flat options, such as `rate: 10`. -/
  options : Table OptionValue := ∅
  /-- Map options, such as `resourceLimits: {cpu: 2}`. -/
  mapOptions : Table (Table OptionValue) := ∅
deriving DecidableEq, Inhabited

namespace OptionBag

def empty : OptionBag := {}

def isEmpty (bag : OptionBag) : Bool :=
  bag.options.isEmpty && bag.mapOptions.isEmpty

/-! ## Documents -/

def encodeFields (bag : OptionBag) : Document.Encode.Fields :=
  Document.Encode.nonEmptyTable "options" OptionValue.encode bag.options ++
    Document.Encode.nonEmptyTable "mapOptions" (Document.Encode.table OptionValue.encode)
      bag.mapOptions

def encode (bag : OptionBag) : Document :=
  .record bag.encodeFields

/-- The two tables of a bag among the fields of a record, which may have more fields. -/
def decodeFields (fields : Document.Decode.Fields) : Option OptionBag := do
  let values := Document.Decode.table fun _ => OptionValue.decode
  let options ← Document.Decode.defaulting fields "options" ∅ (values .message)
  let mapOptions ← Document.Decode.defaulting fields "mapOptions" ∅
    (Document.Decode.table values .message)
  pure { options, mapOptions }

def decode (src : Document.Source) (d : Document) : Option OptionBag :=
  (Document.Decode.record? ["options", "mapOptions"] src d).bind decodeFields

end OptionBag
end MeasuredJob
