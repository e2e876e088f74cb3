/-!
# Tables

A table maps names to values.  Its entries are kept strictly ascending by name, in the order of
code points, so a table has one representation: equal tables are equal values, and what is printed
from a table does not depend on the order in which its entries arrived.  The laws state what
`get?` sees after each operation.
-/

namespace MeasuredJob

universe u v

structure Table (α : Type u) where
  entries : List (String × α)
  sorted : entries.Pairwise (fun a b => a.1 < b.1)

namespace Table

variable {α : Type u} {β : Type v}

theorem ext {s t : Table α} (h : s.entries = t.entries) : s = t := by
  cases s
  cases t
  subst h
  rfl

instance [DecidableEq α] : DecidableEq (Table α) := fun s t =>
  if h : s.entries = t.entries then isTrue (ext h) else isFalse fun e => h (e ▸ rfl)

def empty : Table α := ⟨[], List.Pairwise.nil⟩

instance : EmptyCollection (Table α) := ⟨empty⟩

instance : Inhabited (Table α) := ⟨empty⟩

/-! ## Entries in order -/

/-- Put an entry into a sorted list, in place of one of the same name. -/
def insertEntry (k : String) (v : α) : List (String × α) → List (String × α)
  | [] => [(k, v)]
  | e :: es =>
    if k < e.1 then (k, v) :: e :: es
    else if k = e.1 then (k, v) :: es
    else e :: insertEntry k v es

theorem mem_of_mem_insertEntry {k : String} {v : α} {es : List (String × α)} {e : String × α}
    (h : e ∈ insertEntry k v es) : e = (k, v) ∨ e ∈ es := by
  induction es with
  | nil =>
    rw [insertEntry, List.mem_singleton] at h
    exact .inl h
  | cons x xs ih =>
    rw [insertEntry] at h
    split at h
    · exact List.mem_cons.mp h
    · split at h
      · rcases List.mem_cons.mp h with h | h
        · exact .inl h
        · exact .inr (List.mem_cons_of_mem _ h)
      · rcases List.mem_cons.mp h with rfl | h
        · exact .inr (List.mem_cons_self ..)
        · rcases ih h with h | h
          · exact .inl h
          · exact .inr (List.mem_cons_of_mem _ h)

theorem sorted_insertEntry (k : String) (v : α) {es : List (String × α)}
    (h : es.Pairwise (fun a b => a.1 < b.1)) :
    (insertEntry k v es).Pairwise (fun a b => a.1 < b.1) := by
  induction es with
  | nil => exact List.pairwise_singleton _ _
  | cons x xs ih =>
    rw [List.pairwise_cons] at h
    rw [insertEntry]
    split
    · rename_i hk
      refine List.pairwise_cons.mpr ⟨fun e he => ?_, List.pairwise_cons.mpr h⟩
      rcases List.mem_cons.mp he with rfl | he
      · exact hk
      · exact String.lt_trans hk (h.1 e he)
    · split
      · rename_i hk
        subst hk
        exact List.pairwise_cons.mpr ⟨h.1, h.2⟩
      · rename_i hlt hne
        refine List.pairwise_cons.mpr ⟨fun e he => ?_, ih h.2⟩
        rcases mem_of_mem_insertEntry he with rfl | he
        · change x.1 < k
          rcases Std.lt_trichotomy x.1 k with hx | hx | hx
          · exact hx
          · exact absurd hx.symm hne
          · exact absurd hx hlt
        · exact h.1 e he

/-! ## Operations -/

def get? (t : Table α) (k : String) : Option α :=
  t.entries.lookup k

def contains (t : Table α) (k : String) : Bool :=
  (t.get? k).isSome

def insert (t : Table α) (k : String) (v : α) : Table α :=
  ⟨insertEntry k v t.entries, sorted_insertEntry k v t.sorted⟩

/-- The table of the given entries.  Of two entries with one name the later one counts. -/
def ofList (es : List (String × α)) : Table α :=
  es.foldl (fun t e => t.insert e.1 e.2) empty

def toList (t : Table α) : List (String × α) := t.entries

def keys (t : Table α) : List String := t.entries.map (·.1)

def values (t : Table α) : List α := t.entries.map (·.2)

def size (t : Table α) : Nat := t.entries.length

def isEmpty (t : Table α) : Bool := t.entries.isEmpty

def map (f : α → β) (t : Table α) : Table β :=
  ⟨t.entries.map fun e => (e.1, f e.2), by
    rw [List.pairwise_map]
    exact t.sorted⟩

/-! ## What a look-up sees -/

theorem lookup_pair (k a : String) (b : α) (es : List (String × α)) :
    ((a, b) :: es).lookup k = if k = a then some b else es.lookup k := by
  by_cases h : k = a
  · subst h
    simp
  · have hb : (k == a) = false := by simpa using h
    rw [List.lookup_cons, hb, if_neg h]

theorem lookup_insertEntry (k : String) (v : α) (es : List (String × α)) (j : String) :
    (insertEntry k v es).lookup j = if j = k then some v else es.lookup j := by
  induction es with
  | nil => rw [insertEntry, lookup_pair]
  | cons x xs ih =>
    obtain ⟨a, b⟩ := x
    rw [insertEntry]
    split
    · rw [lookup_pair]
    · split
      · rename_i hk
        change k = a at hk
        subst hk
        rw [lookup_pair, lookup_pair]
        split <;> rfl
      · rename_i hk
        rw [lookup_pair, lookup_pair, ih]
        by_cases hj : j = a
        · subst hj
          rw [if_pos rfl, if_pos rfl, if_neg fun e => hk e.symm]
        · rw [if_neg hj, if_neg hj]

@[simp] theorem get?_insert (t : Table α) (k : String) (v : α) (j : String) :
    (t.insert k v).get? j = if j = k then some v else t.get? j :=
  lookup_insertEntry k v t.entries j

/-- In a list without repeated names a look-up finds every member. -/
theorem lookup_eq_some_iff {es : List (String × α)} (h : es.Pairwise (fun a b => a.1 < b.1))
    {k : String} {v : α} : es.lookup k = some v ↔ (k, v) ∈ es := by
  induction es with
  | nil => simp
  | cons x xs ih =>
    rw [List.pairwise_cons] at h
    obtain ⟨a, b⟩ := x
    rw [lookup_pair]
    by_cases hk : k = a
    · subst hk
      have hnot : (k, v) ∉ xs := fun hm => String.lt_irrefl k (h.1 _ hm)
      simp [hnot, eq_comm]
    · simp [hk, ih h.2]

theorem get?_eq_some_iff {t : Table α} {k : String} {v : α} :
    t.get? k = some v ↔ (k, v) ∈ t.entries :=
  lookup_eq_some_iff t.sorted

end Table
end MeasuredJob
