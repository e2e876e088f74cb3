import MeasuredJob.Text.Blank

/-!
# Markers

A log reader cuts the output of a container at three fixed texts into setup, measured and teardown
parts.  A script prints each of them exactly once, so no other part of a script may contain one.
-/

namespace MeasuredJob

inductive Marker where
  | separator
  | collectionStart
  | collectionEnd
deriving DecidableEq, Repr

namespace Marker

def text : Marker → String
  | .separator => "METRICS OPERATOR TIMEPOINT"
  | .collectionStart => "METRICS OPERATOR COLLECTION START"
  | .collectionEnd => "METRICS OPERATOR COLLECTION END"

/-- The markers in the order in which a script prints them. -/
def all : List Marker := [.separator, .collectionStart, .collectionEnd]

theorem mem_all (m : Marker) : m ∈ all := by
  cases m <;> decide

/-- The first marker, in the order of `all`, that occurs in `s`. -/
def find? (s : String) : Option Marker :=
  all.find? fun m => Text.occurs m.text s

theorem find?_eq_none_iff {s : String} :
    find? s = none ↔ ∀ m : Marker, ¬ m.text.toList <:+: s.toList := by
  simp only [find?, List.find?_eq_none, Text.occurs_iff]
  exact ⟨fun h m => h m (mem_all m), fun h m _ => h m⟩

end Marker
end MeasuredJob
