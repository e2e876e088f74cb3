import MeasuredJob.Options.Basic
import MeasuredJob.Error

/-!
# Reading options

What a plugin gets for a key of its declaration.  An absent key always means the documented
default.  Only an integer option can be wrong in itself: every value is a text, and every value
either sets a flag or does not.
-/

namespace MeasuredJob
namespace OptionBag

def text? (bag : OptionBag) (key : String) : Option String :=
  (bag.options.get? key).map OptionValue.spelling

def textOr (bag : OptionBag) (key default : String) : String :=
  (bag.text? key).getD default

/-- A flag is set by `true` or `yes`, in any case of letters and with any white space around it,
and by an integer other than zero. -/
def flag (bag : OptionBag) (key : String) : Bool :=
  match bag.options.get? key with
  | none => false
  | some (.int i) => i != 0
  | some (.text s) => ["true", "yes"].contains (Text.lower (Text.trim s))

/-- An integer, which may be given as text with white space around it.  `plugin` is named in the
error. -/
def intOr (bag : OptionBag) (plugin key : String) (default : Int32) : Except Error Int32 :=
  match bag.options.get? key with
  | none => .ok default
  | some (.int i) => .ok i
  | some (.text s) =>
    match Text.int32? (Text.strip Text.isBlank s.toList) with
    | some i => .ok i
    | none => .error (.invalidOption plugin key ("'" ++ s ++ "' is not an integer"))

def valueMap (bag : OptionBag) (key : String) : Table OptionValue :=
  (bag.mapOptions.get? key).getD ∅

def textMap (bag : OptionBag) (key : String) : Table String :=
  (bag.valueMap key).map OptionValue.spelling

end OptionBag
end MeasuredJob
