import Mathlib.Data.List.Basic
import MeasuredJob.Table

/-!
# Tables of lists

A table that is built from a list keeps every entry of the list when no name is repeated.  Then the
entries of the table are the entries of the list in another order, and size, names and look-ups
follow from that.
-/

namespace MeasuredJob
namespace Table

universe u v

variable {α : Type u} {β : Type v}

theorem perm_insertEntry {k : String} {v : α} {es : List (String × α)}
    (h : k ∉ es.map Prod.fst) : (insertEntry k v es).Perm ((k, v) :: es) := by
  induction es with
  | nil => exact .refl _
  | cons e es ih =>
    rw [List.map_cons, List.mem_cons, not_or] at h
    rw [insertEntry]
    split
    · exact .refl _
    · rw [if_neg h.1]
      exact ((ih h.2).cons e).trans (.swap ..)

theorem perm_foldl_insert (es : List (String × α)) (t : Table α)
    (h : ((es ++ t.entries).map Prod.fst).Nodup) :
    (es.foldl (fun t e => t.insert e.1 e.2) t).entries.Perm (es ++ t.entries) := by
  induction es generalizing t with
  | nil => exact .refl _
  | cons e es ih =>
    have hfresh : e.1 ∉ t.entries.map Prod.fst := by
      rw [List.cons_append, List.map_cons, List.nodup_cons, List.map_append] at h
      exact fun hmem => h.1 (List.mem_append_right _ hmem)
    have hinsert : (t.insert e.1 e.2).entries.Perm (e :: t.entries) := perm_insertEntry hfresh
    have hmove : (es ++ (t.insert e.1 e.2).entries).Perm (e :: es ++ t.entries) :=
      (hinsert.append_left es).trans List.perm_middle
    exact (ih _ ((hmove.map Prod.fst).nodup_iff.mpr h)).trans hmove

theorem perm_entries_ofList {es : List (String × α)} (h : (es.map Prod.fst).Nodup) :
    (ofList es).entries.Perm es := by
  have hperm := perm_foldl_insert es empty (by simpa [empty] using h)
  simpa [ofList, empty] using hperm

theorem get?_ofList_eq_some_iff {es : List (String × α)} (h : (es.map Prod.fst).Nodup)
    {k : String} {v : α} : (ofList es).get? k = some v ↔ (k, v) ∈ es := by
  rw [get?_eq_some_iff, (perm_entries_ofList h).mem_iff]

theorem size_ofList {es : List (String × α)} (h : (es.map Prod.fst).Nodup) :
    (ofList es).size = es.length :=
  (perm_entries_ofList h).length_eq

theorem keys_ofList_perm {es : List (String × α)} (h : (es.map Prod.fst).Nodup) :
    (ofList es).keys.Perm (es.map Prod.fst) :=
  (perm_entries_ofList h).map Prod.fst

theorem sorted_keys (t : Table α) : t.keys.Pairwise (· < ·) :=
  List.pairwise_map.mpr t.sorted

theorem contains_iff_mem_keys {t : Table α} {k : String} :
    t.contains k = true ↔ k ∈ t.keys := by
  simp only [contains, Option.isSome_iff_exists, get?_eq_some_iff, keys, List.mem_map, Prod.exists,
    exists_and_right, exists_eq_right]

/-- The names of a table are in the one order there is, so tables with the same names list them
alike. -/
theorem keys_eq_of_perm {s : Table α} {t : Table β} (h : s.keys.Perm t.keys) : s.keys = t.keys :=
  List.Perm.eq_of_pairwise (fun _ _ _ _ hab hba => absurd hba (String.lt_asymm hab))
    s.sorted_keys t.sorted_keys h

/-- A table does not tell in which order its entries arrived. -/
theorem ofList_eq_of_perm {es es' : List (String × α)} (h : es.Perm es')
    (hnodup : (es.map Prod.fst).Nodup) : ofList es = ofList es' := by
  have hnodup' : (es'.map Prod.fst).Nodup := (h.map Prod.fst).nodup_iff.mp hnodup
  have hentries : (ofList es).entries.Perm (ofList es').entries :=
    (perm_entries_ofList hnodup).trans (h.trans (perm_entries_ofList hnodup').symm)
  exact ext (List.Perm.eq_of_pairwise (fun _ _ _ _ hab hba => absurd hba (String.lt_asymm hab))
    (ofList es).sorted (ofList es').sorted hentries)

theorem ofList_entries (t : Table α) : ofList t.entries = t := by
  have hnodup : t.keys.Nodup := t.sorted_keys.imp fun hab => String.ne_of_lt hab
  exact ext (List.Perm.eq_of_pairwise (fun _ _ _ _ hab hba => absurd hba (String.lt_asymm hab))
    (ofList t.entries).sorted t.sorted (perm_entries_ofList hnodup))

theorem isEmpty_ofList {es : List (String × α)} (h : (es.map Prod.fst).Nodup) :
    (ofList es).isEmpty = es.isEmpty := by
  have hlength : (ofList es).entries.length = es.length := size_ofList h
  rw [isEmpty, Bool.eq_iff_iff, List.isEmpty_iff_length_eq_zero, List.isEmpty_iff_length_eq_zero,
    hlength]

end Table
end MeasuredJob
