import MeasuredJob.Options.Basic

/-!
# Writing options

How a plugin exports its configuration, and how a declaration is built in code.  What is written
reads back as the same value.  An export leaves out map options without entries, because an absent
map option reads as an empty one.
-/

namespace MeasuredJob
namespace OptionBag

def setText (bag : OptionBag) (key value : String) : OptionBag :=
  { bag with options := bag.options.insert key (.text value) }

def setInt (bag : OptionBag) (key : String) (value : Int32) : OptionBag :=
  { bag with options := bag.options.insert key (.int value) }

/-- A flag is written as text. -/
def setFlag (bag : OptionBag) (key : String) (value : Bool) : OptionBag :=
  bag.setText key (if value then "true" else "false")

/-- Set a map option even when it has no entries. -/
def setMap (bag : OptionBag) (key : String) (value : Table OptionValue) : OptionBag :=
  { bag with mapOptions := bag.mapOptions.insert key value }

/-- Export a map option, unless it has no entries. -/
def exportMap (bag : OptionBag) (key : String) (value : Table OptionValue) : OptionBag :=
  if value.isEmpty then bag else bag.setMap key value

/-- Export a map option whose values are texts, unless it has no entries. -/
def exportTextMap (bag : OptionBag) (key : String) (value : Table String) : OptionBag :=
  bag.exportMap key (value.map OptionValue.text)

end OptionBag
end MeasuredJob
