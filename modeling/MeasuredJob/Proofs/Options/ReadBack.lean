import MeasuredJob.Options.Read
import MeasuredJob.Options.Write

/-!
# What is read back

What every reader of a bag sees after every writer.  A reader looks at one key, so a writer of
another key does not disturb it, and flat options and map options never meet.
-/

namespace MeasuredJob

/-- Nothing is lost when a table without entries is left out. -/
@[simp] theorem Table.ite_isEmpty {α : Type} (t : Table α) :
    (if t.isEmpty = false then t else ∅) = t := by
  cases hempty : t.isEmpty with
  | true => exact (Table.ext (List.isEmpty_iff.mp hempty)).symm
  | false => rfl

/-- Texts are values that are spelled as themselves. -/
theorem Table.map_spelling_map_text (t : Table String) :
    (t.map OptionValue.text).map OptionValue.spelling = t := by
  refine Table.ext ?_
  show (t.entries.map _).map _ = t.entries
  rw [List.map_map]
  exact List.map_id _

namespace OptionBag

variable (bag : OptionBag) (key j : String)

/-- Flat options do not notice the export of a map. -/
@[simp] theorem options_exportMap (value : Table OptionValue) :
    (bag.exportMap key value).options = bag.options := by
  rw [exportMap]
  split <;> rfl

/-! ## Texts -/

@[simp] theorem textOr_setText (value default : String) :
    (bag.setText key value).textOr j default =
      if j = key then value else bag.textOr j default := by
  rw [textOr, text?, setText, Table.get?_insert]
  split <;> rfl

@[simp] theorem textOr_setFlag (value : Bool) (default : String) :
    (bag.setFlag key value).textOr j default =
      if j = key then (if value then "true" else "false") else bag.textOr j default :=
  textOr_setText bag key j _ default

@[simp] theorem textOr_setInt (value : Int32) (default : String) :
    (bag.setInt key value).textOr j default =
      if j = key then Text.ofInt32 value else bag.textOr j default := by
  rw [textOr, text?, setInt, Table.get?_insert]
  split <;> rfl

@[simp] theorem textOr_exportMap (value : Table OptionValue) (default : String) :
    (bag.exportMap key value).textOr j default = bag.textOr j default := by
  rw [textOr, text?, options_exportMap]
  rfl

@[simp] theorem textOr_exportTextMap (value : Table String) (default : String) :
    (bag.exportTextMap key value).textOr j default = bag.textOr j default :=
  textOr_exportMap bag key j _ default

/-! ## Flags -/

@[simp] theorem flag_setText (value : String) :
    (bag.setText key value).flag j =
      if j = key then ["true", "yes"].contains (Text.lower (Text.trim value)) else bag.flag j := by
  rw [flag, setText, Table.get?_insert]
  by_cases hkey : j = key
  · rw [if_pos hkey, if_pos hkey]
  · rw [if_neg hkey, if_neg hkey]
    rfl

theorem sets_spelling (value : Bool) :
    ["true", "yes"].contains (Text.lower (Text.trim (if value then "true" else "false"))) =
      value := by
  cases value <;> decide

/-- A flag reads back as it was written. -/
@[simp] theorem flag_setFlag (value : Bool) :
    (bag.setFlag key value).flag j = if j = key then value else bag.flag j := by
  rw [setFlag, flag_setText, sets_spelling]

@[simp] theorem flag_setInt (value : Int32) :
    (bag.setInt key value).flag j = if j = key then value != 0 else bag.flag j := by
  rw [flag, setInt, Table.get?_insert]
  by_cases hkey : j = key
  · rw [if_pos hkey, if_pos hkey]
  · rw [if_neg hkey, if_neg hkey]
    rfl

@[simp] theorem flag_exportMap (value : Table OptionValue) :
    (bag.exportMap key value).flag j = bag.flag j := by
  rw [flag, options_exportMap]
  rfl

@[simp] theorem flag_exportTextMap (value : Table String) :
    (bag.exportTextMap key value).flag j = bag.flag j :=
  flag_exportMap bag key j _

/-! ## Integers -/

@[simp] theorem intOr_setInt (value : Int32) (plugin : String) (default : Int32) :
    (bag.setInt key value).intOr plugin j default =
      if j = key then .ok value else bag.intOr plugin j default := by
  rw [intOr, setInt, Table.get?_insert]
  by_cases hkey : j = key
  · rw [if_pos hkey, if_pos hkey]
  · rw [if_neg hkey, if_neg hkey]
    rfl

theorem intOr_setText_of_ne {key j : String} (h : j ≠ key) (value plugin : String)
    (default : Int32) :
    (bag.setText key value).intOr plugin j default = bag.intOr plugin j default := by
  rw [intOr, setText, Table.get?_insert, if_neg h]
  rfl

theorem intOr_setFlag_of_ne {key j : String} (h : j ≠ key) (value : Bool) (plugin : String)
    (default : Int32) :
    (bag.setFlag key value).intOr plugin j default = bag.intOr plugin j default :=
  bag.intOr_setText_of_ne h _ plugin default

/-! ## Maps -/

@[simp] theorem valueMap_empty : empty.valueMap j = ∅ := rfl

@[simp] theorem valueMap_setText (value : String) :
    (bag.setText key value).valueMap j = bag.valueMap j := rfl

@[simp] theorem valueMap_setFlag (value : Bool) :
    (bag.setFlag key value).valueMap j = bag.valueMap j := rfl

/-- A map without entries is not written, and what was there before stays. -/
@[simp] theorem valueMap_exportMap (value : Table OptionValue) :
    (bag.exportMap key value).valueMap j =
      if j = key ∧ value.isEmpty = false then value else bag.valueMap j := by
  rw [exportMap]
  cases value.isEmpty with
  | true => simp
  | false =>
    rw [if_neg Bool.false_ne_true, valueMap, setMap, Table.get?_insert]
    by_cases hkey : j = key
    · simp [hkey]
    · simp [hkey, valueMap]

/-- A map of texts reads back as it was exported to a key that had none. -/
theorem textMap_exportTextMap_self {bag : OptionBag} (h : bag.valueMap key = ∅)
    (value : Table String) : (bag.exportTextMap key value).textMap key = value := by
  rw [textMap, exportTextMap, valueMap_exportMap, h]
  simp only [true_and, Table.ite_isEmpty, Table.map_spelling_map_text]

/-! ## Bags that hold the same under a key -/

section

variable {bag bag' : OptionBag} {key : String}

theorem text?_congr (h : bag.options.get? key = bag'.options.get? key) :
    bag.text? key = bag'.text? key := by
  rw [text?, h]
  rfl

theorem textOr_congr (h : bag.options.get? key = bag'.options.get? key) (default : String) :
    bag.textOr key default = bag'.textOr key default := by
  rw [textOr, text?_congr h, textOr]

theorem flag_congr (h : bag.options.get? key = bag'.options.get? key) :
    bag.flag key = bag'.flag key := by
  rw [flag, h]
  rfl

theorem intOr_congr (h : bag.options.get? key = bag'.options.get? key) (plugin : String)
    (default : Int32) : bag.intOr plugin key default = bag'.intOr plugin key default := by
  rw [intOr, h]
  rfl

theorem valueMap_congr (h : bag.mapOptions.get? key = bag'.mapOptions.get? key) :
    bag.valueMap key = bag'.valueMap key := by
  rw [valueMap, h]
  rfl

theorem textMap_congr (h : bag.mapOptions.get? key = bag'.mapOptions.get? key) :
    bag.textMap key = bag'.textMap key := by
  rw [textMap, textMap, valueMap_congr h]

end

end OptionBag
end MeasuredJob
