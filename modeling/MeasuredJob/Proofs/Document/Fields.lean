import MeasuredJob.Proofs.Document.Shape
import MeasuredJob.Proofs.Table

/-!
# Fields that are written

A record is written field by field, and a field that says nothing is left out.  When no name is
used twice, a decoder that asks for a name finds what was written for it, whatever stands around
it, and takes the default for what was left out.
-/

namespace MeasuredJob
namespace Document

open Decode (Fields find required defaulting nullable optional)
open Encode (field flag optionalText nonEmptyTable)

/-- The fields that have something to say, of all fields of a record in their order. -/
def written (pieces : List (String × Option Document)) : Fields :=
  pieces.flatMap fun p => (p.2.map fun d => (p.1, d)).toList

/-! ## What is written is such fields -/

@[simp] theorem written_append (pieces pieces' : List (String × Option Document)) :
    written pieces ++ written pieces' = written (pieces ++ pieces') :=
  List.flatMap_append.symm

@[simp] theorem field_eq_written (name : String) (d : Document) :
    field name d = written [(name, some d)] := rfl

@[simp] theorem optionalText_eq_written (name : String) (s? : Option String) :
    optionalText name s? = written [(name, s?.map .text)] := by
  cases s? <;> rfl

@[simp] theorem flag_eq_written (name : String) (b : Bool) :
    flag name b = written [(name, if b then some (.bool true) else none)] := by
  cases b <;> rfl

@[simp] theorem texts_eq_written (name : String) (ss : List String) :
    Encode.texts name ss = written [(name, if ss = [] then none else some (.texts ss))] := by
  cases ss <;> rfl

@[simp] theorem nonEmptyTable_eq_written {α : Type} (name : String) (value : α → Document)
    (t : Table α) :
    nonEmptyTable name value t =
      written [(name, if t.isEmpty then none else some (Encode.table value t))] := by
  rw [nonEmptyTable]
  split <;> rfl

/-! ## What is found among them -/

@[simp] theorem fields?_record (fields : Fields) : Decode.fields? (.record fields) = some fields :=
  rfl

@[simp] theorem record?_record (names : List String) (fields : Fields) :
    Decode.record? names .message (.record fields) = some fields := rfl

section Find

variable {α : Type} {pieces : List (String × Option Document)}

theorem valuesOf_append (fields fields' : Fields) (name : String) :
    valuesOf (fields ++ fields') name = valuesOf fields name ++ valuesOf fields' name := by
  rw [valuesOf, List.filter_append, List.map_append]
  rfl

theorem valuesOf_written (h : (pieces.map Prod.fst).Nodup) (name : String) :
    valuesOf (written pieces) name = (pieces.lookup name).join.toList := by
  induction pieces with
  | nil => rfl
  | cons p pieces ih =>
    obtain ⟨k, v⟩ := p
    rw [List.map_cons, List.nodup_cons] at h
    rw [written, List.flatMap_cons, ← written, valuesOf_append, ih h.2, Table.lookup_pair]
    by_cases hname : name = k
    · subst hname
      have hnone : pieces.lookup name = none := by
        refine List.lookup_eq_none_iff.mpr fun p hp => bne_iff_ne.mpr fun heq => h.1 ?_
        exact List.mem_map.mpr ⟨p, hp, heq.symm⟩
      rw [if_pos rfl, hnone]
      cases v <;> simp [valuesOf]
    · rw [if_neg hname]
      cases v <;> simp [valuesOf, Ne.symm hname]

theorem find_written (h : (pieces.map Prod.fst).Nodup) (name : String) :
    find (written pieces) name = some (pieces.lookup name).join := by
  rw [find_eq_of_valuesOf, valuesOf_written h]
  cases (pieces.lookup name).join <;> rfl

/-- What the decoder makes of a field, or `absent` when there is none. -/
def readOr (absent : Option α) (value : Document → Option α) : Option Document → Option α
  | none => absent
  | some d => value d

@[simp] theorem readOr_some (absent : Option α) (value : Document → Option α) (d : Document) :
    readOr absent value (some d) = value d := by rw [readOr]

@[simp] theorem required_written (h : (pieces.map Prod.fst).Nodup) (name : String)
    (value : Document → Option α) :
    required (written pieces) name value = readOr none value (pieces.lookup name).join := by
  rw [required, find_written h]
  cases (pieces.lookup name).join <;> rfl

@[simp] theorem defaulting_written (h : (pieces.map Prod.fst).Nodup) (name : String) (default : α)
    (value : Document → Option α) :
    defaulting (written pieces) name default value =
      readOr (some default) value (pieces.lookup name).join := by
  rw [defaulting, find_written h]
  cases (pieces.lookup name).join <;> rfl

@[simp] theorem optional_written (h : (pieces.map Prod.fst).Nodup) (name : String)
    (value : Document → Option α) :
    optional (written pieces) name value =
      readOr (some none) (nullable value) (pieces.lookup name).join :=
  defaulting_written h name none (nullable value)

end Find

/-! ## Values that are read back -/

section Values

variable {α : Type} {encode : α → Document}

-- By rewriting and not by computation, so that these discharge the hypotheses of the laws below.
@[simp] theorem text_text (s : String) : Decode.text .message (.text s) = some s := by
  rw [Decode.text]

@[simp] theorem bool_bool (b : Bool) : Decode.bool .message (.bool b) = some b := by
  rw [Decode.bool]

theorem nat_int {bound n : ℕ} (h : n < bound) : Decode.nat bound .message (.int n) = some n := by
  rw [Decode.nat, if_pos ⟨Int.natCast_nonneg n, Int.ofNat_lt.mpr h⟩, Int.toNat_natCast]

@[simp] theorem uint32_int (n : UInt32) : Decode.uint32 .message (.int n.toNat) = some n := by
  rw [Decode.uint32, nat_int n.toNat_lt, Option.map_some, UInt32.ofNat_toNat]

@[simp] theorem list_map {item : Decoder α} (h : ∀ v, item .message (encode v) = some v)
    (vs : List α) : Decode.list item .message (.list (vs.map encode)) = some vs := by
  have hitem : item .message ∘ encode = pure := funext h
  rw [Decode.list, List.mapM_map, hitem, List.mapM_pure, List.map_id']
  rfl

@[simp] theorem texts_texts (ss : List String) :
    Decode.list Decode.text .message (.texts ss) = some ss :=
  list_map text_text ss

@[simp] theorem table_table {value : Decoder α} (h : ∀ v, value .message (encode v) = some v)
    (t : Table α) : Decode.table value .message (Encode.table encode t) = some t := by
  have hentries : Decode.entries (value .message) (t.entries.map fun e => (e.1, encode e.2)) =
      some t.entries := by
    have hentry : ((fun e : String × Document => (value .message e.2).map fun v => (e.1, v)) ∘
        fun e : String × α => (e.1, encode e.2)) = pure := by
      funext e
      simp [h]
    rw [Decode.entries, List.mapM_map, hentry, List.mapM_pure, List.map_id']
    rfl
  rw [Encode.table, Decode.table, hentries, Option.map_some, Table.ofList_entries]

/-! What is left out is read as the default. -/

@[simp] theorem readOr_flag (b : Bool) :
    readOr (some false) (Decode.bool .message) (if b then some (.bool true) else none) =
      some b := by
  cases b <;> rfl

@[simp] theorem readOr_texts (ss : List String) :
    readOr (some []) (Decode.list Decode.text .message)
      (if ss = [] then none else some (.texts ss)) = some ss := by
  cases ss with
  | nil => rfl
  | cons s ss => exact texts_texts (s :: ss)

@[simp] theorem readOr_table {value : Decoder α} (h : ∀ v, value .message (encode v) = some v)
    (t : Table α) :
    readOr (some ∅) (Decode.table value .message)
      (if t.isEmpty then none else some (Encode.table encode t)) = some t := by
  split
  · rename_i hempty
    exact congrArg some (Table.ext (List.isEmpty_iff.mp hempty).symm)
  · exact table_table h t

theorem readOr_nullable {value : Document → Option α}
    (h : ∀ v, nullable value (encode v) = some (some v)) (v? : Option α) :
    readOr (some none) (nullable value) (v?.map encode) = some v? := by
  cases v? with
  | none => rfl
  | some v => exact h v

@[simp] theorem readOr_optionalText (s? : Option String) :
    readOr (some none) (nullable (Decode.text .message)) (s?.map .text) = some s? :=
  readOr_nullable (fun _ => rfl) s?

end Values
end Document
end MeasuredJob
