import Mathlib.Data.List.Induction
import MeasuredJob.Proofs.Options.ReadBack

/-!
# Sequences of writes

A bag is written by one call after another, in any order and with any key as often as one likes.
What is read under a key afterwards depends on two of the calls: the last one that wrote a text, an
integer or a flag under the key, and the last one that wrote a map with entries under it.  All other
calls leave no trace.
-/

namespace MeasuredJob

/-- What one call writes under a flat key. -/
inductive FlatWrite where
  | text (value : String)
  | int (value : Int32)
  | flag (value : Bool)
deriving DecidableEq, Repr

namespace FlatWrite

/-- What a flat option reads as. -/
def spelling : FlatWrite → String
  | text value => value
  | int value => value.toInt.repr
  | flag true => "true"
  | flag false => "false"

/-- What stands in the bag. -/
def value : FlatWrite → OptionValue
  | text value => .text value
  | int value => .int value
  | flag value => .text (if value then "true" else "false")

theorem spelling_value (w : FlatWrite) : w.value.spelling = w.spelling := by
  cases w with
  | text | int => rfl
  | flag value => cases value <;> rfl

end FlatWrite

/-- What one call writes under the key of a map. -/
inductive MapWrite where
  | texts (entries : Table String)
  | values (entries : Table OptionValue)
deriving DecidableEq

namespace MapWrite

def isEmpty : MapWrite → Bool
  | texts entries => entries.isEmpty
  | values entries => entries.isEmpty

/-- The entries as they are. -/
def valueEntries : MapWrite → Table OptionValue
  | texts entries => entries.map .text
  | values entries => entries

/-- The entries as texts. -/
def textEntries : MapWrite → Table String
  | texts entries => entries
  | values entries => entries.map OptionValue.spelling

theorem isEmpty_valueEntries (w : MapWrite) : w.valueEntries.isEmpty = w.isEmpty := by
  cases w with
  | texts entries => exact List.isEmpty_map
  | values => rfl

theorem map_spelling_valueEntries (w : MapWrite) :
    w.valueEntries.map OptionValue.spelling = w.textEntries := by
  cases w with
  | texts entries => exact Table.map_spelling_map_text entries
  | values => rfl

end MapWrite

/-- One call that writes. -/
inductive Write where
  | flat (key : String) (value : FlatWrite)
  | map (key : String) (value : MapWrite)
deriving DecidableEq

namespace Write

def apply (bag : OptionBag) : Write → OptionBag
  | flat key (.text value) => bag.setText key value
  | flat key (.int value) => bag.setInt key value
  | flat key (.flag value) => bag.setFlag key value
  | map key (.texts entries) => bag.exportTextMap key entries
  | map key (.values entries) => bag.exportMap key entries

/-- The bag after all calls, from none on. -/
def run (writes : List Write) : OptionBag :=
  writes.foldl apply .empty

/-- What the call writes under the flat key, if it does. -/
def flatOn? (key : String) : Write → Option FlatWrite
  | flat k value => if k = key then some value else none
  | map .. => none

/-- What the call writes under the key of a map, if it does.  A map without entries is not
written. -/
def mapOn? (key : String) : Write → Option MapWrite
  | flat .. => none
  | map k value => if k = key ∧ value.isEmpty = false then some value else none

/-- The last call that writes under the flat key. -/
def lastFlat? (writes : List Write) (key : String) : Option FlatWrite :=
  (writes.filterMap (flatOn? key)).getLast?

/-- The last call that writes a map with entries under the key. -/
def lastMap? (writes : List Write) (key : String) : Option MapWrite :=
  (writes.filterMap (mapOn? key)).getLast?

/-! ## One call -/

variable (bag : OptionBag) (writes : List Write) (key : String)

theorem get?_options_apply (w : Write) :
    (w.apply bag).options.get? key =
      ((w.flatOn? key).map FlatWrite.value).or (bag.options.get? key) := by
  cases w with
  | flat k value =>
    have hinsert : ((flat k value).apply bag).options = bag.options.insert k value.value := by
      cases value <;> rfl
    rw [hinsert, Table.get?_insert, flatOn?]
    by_cases hkey : key = k
    · rw [if_pos hkey, if_pos hkey.symm]
      rfl
    · rw [if_neg hkey, if_neg (Ne.symm hkey)]
      rfl
  | map k value =>
    have hkept : ((map k value).apply bag).options = bag.options := by
      cases value with
      | texts entries => exact OptionBag.options_exportMap ..
      | values entries => exact OptionBag.options_exportMap ..
    rw [hkept, flatOn?]
    rfl

theorem get?_mapOptions_apply (w : Write) :
    (w.apply bag).mapOptions.get? key =
      ((w.mapOn? key).map MapWrite.valueEntries).or (bag.mapOptions.get? key) := by
  cases w with
  | flat k value =>
    have hkept : ((flat k value).apply bag).mapOptions = bag.mapOptions := by
      cases value <;> rfl
    rw [hkept, mapOn?]
    rfl
  | map k value =>
    have hexport : (map k value).apply bag = bag.exportMap k value.valueEntries := by
      cases value <;> rfl
    rw [hexport, OptionBag.exportMap, MapWrite.isEmpty_valueEntries, mapOn?]
    cases value.isEmpty with
    | true => simp
    | false =>
      rw [if_neg Bool.false_ne_true, OptionBag.setMap, Table.get?_insert]
      by_cases hkey : key = k
      · simp [hkey]
      · simp [hkey, Ne.symm hkey]

/-! ## All calls -/

theorem run_concat (w : Write) : run (writes ++ [w]) = w.apply (run writes) := by
  rw [run, List.foldl_append]
  rfl

theorem get?_options_run :
    (run writes).options.get? key = (lastFlat? writes key).map FlatWrite.value := by
  induction writes using List.reverseRecOn with
  | nil => rfl
  | append_singleton writes w ih =>
    rw [run_concat, get?_options_apply, ih, lastFlat?, lastFlat?, List.filterMap_append,
      List.getLast?_append, Option.map_or]
    congr 1
    cases hw : w.flatOn? key <;> simp [hw]

theorem get?_mapOptions_run :
    (run writes).mapOptions.get? key = (lastMap? writes key).map MapWrite.valueEntries := by
  induction writes using List.reverseRecOn with
  | nil => rfl
  | append_singleton writes w ih =>
    rw [run_concat, get?_mapOptions_apply, ih, lastMap?, lastMap?, List.filterMap_append,
      List.getLast?_append, Option.map_or]
    congr 1
    cases hw : w.mapOn? key <;> simp [hw]

/-! ## What is read -/

/-- What is read under a key when `flat?` and `map?` are the last calls that count there. -/
structure Reads (flat? : Option FlatWrite) (map? : Option MapWrite) : Prop where
  text : bag.text? key = flat?.map FlatWrite.spelling
  flag : ∀ value, flat? = some (.flag value) → bag.flag key = value
  int : ∀ value, flat? = some (.int value) →
    (∀ plugin default, bag.intOr plugin key default = .ok value) ∧ bag.flag key = (value != 0)
  valueMap : bag.valueMap key = (map?.map MapWrite.valueEntries).getD ∅
  textMap : bag.textMap key = (map?.map MapWrite.textEntries).getD ∅

/-- Under the key, both bags read as the same flat option. -/
structure FlatAlike (bag' : OptionBag) : Prop where
  text : bag.text? key = bag'.text? key
  flag : bag.flag key = bag'.flag key
  int : ∀ plugin default, bag.intOr plugin key default = bag'.intOr plugin key default

/-- Under the key, both bags read as the same map. -/
structure MapAlike (bag' : OptionBag) : Prop where
  valueMap : bag.valueMap key = bag'.valueMap key
  textMap : bag.textMap key = bag'.textMap key

theorem reads_run : Reads (run writes) key (lastFlat? writes key) (lastMap? writes key) := by
  have hoptions := get?_options_run writes key
  have hmap := get?_mapOptions_run writes key
  refine { text := ?_, flag := fun value hlast => ?_, int := fun value hlast => ?_
           valueMap := ?_, textMap := ?_ }
  · rw [OptionBag.text?, hoptions, Option.map_map]
    exact congrArg (Option.map · _) (funext FlatWrite.spelling_value)
  · rw [hlast] at hoptions
    rw [OptionBag.flag, hoptions]
    exact OptionBag.sets_spelling value
  · rw [hlast] at hoptions
    refine ⟨fun plugin default => ?_, ?_⟩
    · rw [OptionBag.intOr, hoptions]
      rfl
    · rw [OptionBag.flag, hoptions]
      rfl
  · rw [OptionBag.valueMap, hmap]
  · rw [OptionBag.textMap, OptionBag.valueMap, hmap]
    cases lastMap? writes key with
    | none => rfl
    | some w => exact w.map_spelling_valueEntries

theorem lastFlat?_of_flatOn?_eq_none {w : Write} (h : w.flatOn? key = none)
    (before after : List Write) :
    lastFlat? (before ++ w :: after) key = lastFlat? (before ++ after) key := by
  rw [lastFlat?, lastFlat?, List.filterMap_append, List.filterMap_append,
    List.filterMap_cons_none h]

theorem lastMap?_of_mapOn?_eq_none {w : Write} (h : w.mapOn? key = none)
    (before after : List Write) :
    lastMap? (before ++ w :: after) key = lastMap? (before ++ after) key := by
  rw [lastMap?, lastMap?, List.filterMap_append, List.filterMap_append,
    List.filterMap_cons_none h]

/-- Whatever has been written, what is read under a key is what the last calls there wrote.  A call
with another key or of the other kind could as well be left out. -/
theorem last_write_read (key : String) :
    (∀ writes, Reads (run writes) key (lastFlat? writes key) (lastMap? writes key)) ∧
    ∀ before w after,
      (w.flatOn? key = none →
        FlatAlike (run (before ++ w :: after)) key (run (before ++ after))) ∧
      (w.mapOn? key = none →
        MapAlike (run (before ++ w :: after)) key (run (before ++ after))) := by
  refine ⟨fun writes => reads_run writes key, fun before w after => ⟨fun h => ?_, fun h => ?_⟩⟩
  · have hsame : (run (before ++ w :: after)).options.get? key =
        (run (before ++ after)).options.get? key := by
      rw [get?_options_run, get?_options_run, lastFlat?_of_flatOn?_eq_none key h]
    exact ⟨OptionBag.text?_congr hsame, OptionBag.flag_congr hsame,
      fun plugin default => OptionBag.intOr_congr hsame plugin default⟩
  · have hsame : (run (before ++ w :: after)).mapOptions.get? key =
        (run (before ++ after)).mapOptions.get? key := by
      rw [get?_mapOptions_run, get?_mapOptions_run, lastMap?_of_mapOn?_eq_none key h]
    exact ⟨OptionBag.valueMap_congr hsame, OptionBag.textMap_congr hsame⟩

end Write

/-- Both kinds of options under one key.  An integer takes the place of a flag, and a map without
entries comes after one that has some. -/
def Sample.overwriting : List Write := [
  .flat "size" (.flag true),
  .map "size" (.values (Table.ofList [("x", .int 4)])),
  .flat "size" (.int (-7)),
  .map "size" (.texts ∅),
  .flat "rate" (.text "often")]

namespace Write

/-- The map without entries is read neither as a map nor as a flat option. -/
theorem last_write_read_of_overwriting :
    (run Sample.overwriting).text? "size" = some "-7" ∧
      (run Sample.overwriting).intOr "plugin" "size" 0 = .ok (-7) ∧
      (run Sample.overwriting).flag "size" = true ∧
      (run Sample.overwriting).textMap "size" = Table.ofList [("x", "4")] ∧
      (map "size" (.texts ∅)).mapOn? "size" = none ∧
      MapAlike (run Sample.overwriting) "size" (run (Sample.overwriting.eraseIdx 3)) := by
  obtain ⟨hreads, halike⟩ := last_write_read "size"
  have hlast : lastFlat? Sample.overwriting "size" = some (.int (-7)) := by decide +kernel
  have hread := hreads Sample.overwriting
  obtain ⟨hint, hflag⟩ := hread.int _ hlast
  have hempty : (map "size" (.texts ∅)).mapOn? "size" = none := by decide +kernel
  refine ⟨?_, hint "plugin" 0, hflag.trans (by decide), ?_, hempty, ?_⟩
  · rw [hread.text, hlast]
    decide +kernel
  · rw [hread.textMap]
    decide +kernel
  · exact (halike (Sample.overwriting.take 3) _ (Sample.overwriting.drop 4)).2 hempty

end Write
end MeasuredJob
