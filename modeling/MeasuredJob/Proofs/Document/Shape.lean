import Mathlib.Data.List.Basic
import Mathlib.Logic.Relation
import MeasuredJob.Document.Decode

/-!
# Shapes of documents

A shape says which places of a document are records of a fixed type.  Fields that such a type does
not declare have no meaning, wherever they are, so a decoder gives the same for a document and for
what is left of it when those fields are dropped.  The names in a table are data and the name of a
case stands alone, so nothing is dropped there.
-/

namespace MeasuredJob
namespace Document

open Decode (Fields find required defaulting nullable optional case?)

inductive Shape where
  /-- There is no record of a fixed type below. -/
  | data
  | list (item : Shape)
  /-- A record of a type that declares the fields `names`. -/
  | record (names : List String) (value : String → Shape)
  /-- A choice, with the shape of what a case carries. -/
  | choice (body : String → Shape)

/-- The declared fields, with a change to the value of each. -/
def restrict (names : List String) (change : String → Document → Document) (fields : Fields) :
    Fields :=
  (fields.filter fun f => names.contains f.1).map fun f => (f.1, change f.1 f.2)

namespace Shape

/-- The shape of what the field `name` holds, which is data when it is not among the given ones. -/
def part : List (String × Shape) → String → Shape
  | [], _ => .data
  | (k, shape) :: parts, name => if name = k then shape else part parts name

@[simp] theorem part_nil (name : String) : part [] name = .data := by rw [part]

@[simp] theorem part_cons (k name : String) (shape : Shape) (parts : List (String × Shape)) :
    part ((k, shape) :: parts) name = if name = k then shape else part parts name := by rw [part]

/-- A record in which only the given fields have records of a fixed type below them. -/
def fields (names : List String) (parts : List (String × Shape)) : Shape :=
  .record names (part parts)

/-- The second document has one more field than the first, in a record whose type does not declare
it. -/
inductive Adds : Shape → Document → Document → Prop where
  | here {names : List String} {value : String → Shape} {name : String} (h : name ∉ names)
      (before after : Fields) (added : Document) :
      Adds (.record names value) (.record (before ++ after))
        (.record (before ++ (name, added) :: after))
  | inField {names : List String} {value : String → Shape} {name : String} {d d' : Document}
      (h : Adds (value name) d d') (before after : Fields) :
      Adds (.record names value) (.record (before ++ (name, d) :: after))
        (.record (before ++ (name, d') :: after))
  | inItem {item : Shape} {d d' : Document} (h : Adds item d d') (before after : List Document) :
      Adds (.list item) (.list (before ++ d :: after)) (.list (before ++ d' :: after))
  | inCase {body : String → Shape} {name : String} {d d' : Document} (h : Adds (body name) d d') :
      Adds (.choice body) (.record [(name, d)]) (.record [(name, d')])

/-- What is left of a document without the fields that no type declares. -/
def prune : Shape → Document → Document
  | .list item, .list ds => .list (ds.map item.prune)
  | .record names value, .record fields =>
    .record (restrict names (fun name => (value name).prune) fields)
  | .choice body, .record [(name, d)] => .record [(name, (body name).prune d)]
  | _, d => d

theorem prune_eq_of_adds {shape : Shape} {d d' : Document} (h : shape.Adds d d') :
    shape.prune d' = shape.prune d := by
  induction h with
  | here hname before after added =>
    simp [prune, restrict, hname]
  | inField _ before after ih =>
    rename_i names value name d d' _
    by_cases hname : name ∈ names <;> simp [prune, restrict, hname, ih]
  | inItem _ before after ih => simp [prune, ih]
  | inCase _ ih => simp [prune, ih]

theorem prune_eq_of_steps {shape : Shape} {d d' : Document}
    (h : Relation.ReflTransGen shape.Adds d d') : shape.prune d' = shape.prune d := by
  induction h with
  | refl => rfl
  | tail _ hstep ih => rw [prune_eq_of_adds hstep, ih]

/-- The value is what is decoded from it in a message, however many fields without a meaning are
added to what is written of it. -/
def ReadsBack {α : Type} (shape : Shape) (encode : α → Document) (decode : Decoder α) (v : α) :
    Prop :=
  ∀ d, Relation.ReflTransGen shape.Adds (encode v) d → decode .message d = some v

/-- The value of a document does not depend on fields without a meaning. -/
def Ignores {α : Type} (shape : Shape) (value : Document → α) : Prop :=
  ∀ d, value (shape.prune d) = value d

theorem readsBack_of_decode_encode {α : Type} {shape : Shape} {encode : α → Document}
    {decode : Decoder α} {v : α} (hignores : shape.Ignores (decode .message))
    (h : decode .message (encode v) = some v) : shape.ReadsBack encode decode v := by
  intro d hd
  rw [← hignores d, prune_eq_of_steps hd, hignores, h]

/-! ## Decoders that ignore such fields -/

variable {α : Type} {shape : Shape}

theorem prune_cases (shape : Shape) (d : Document) :
    shape.prune d = d ∨
      (∃ ds ds', d = .list ds ∧ shape.prune d = .list ds') ∨
        ∃ fs fs', d = .record fs ∧ shape.prune d = .record fs' := by
  fun_cases prune shape d
  · exact .inr (.inl ⟨_, _, rfl, rfl⟩)
  · exact .inr (.inr ⟨_, _, rfl, rfl⟩)
  · exact .inr (.inr ⟨_, _, rfl, rfl⟩)
  · exact .inl rfl

@[simp] theorem ignores_data (value : Document → α) : data.Ignores value := fun _ => rfl

@[simp] theorem ignores_list {item : Shape} {decoder : Decoder α}
    (h : item.Ignores (decoder .message)) :
    (list item).Ignores (Decode.list decoder .message) := by
  intro d
  cases d with
  | list ds =>
    simp only [prune, Decode.list, List.mapM_map]
    exact congrArg (ds.mapM ·) (funext h)
  | _ => rfl

theorem ignores_nullable {value : Document → Option α} (h : shape.Ignores value) :
    shape.Ignores (nullable value) := by
  intro d
  rcases prune_cases shape d with hsame | ⟨ds, ds', rfl, hprune⟩ | ⟨fs, fs', rfl, hprune⟩
  · rw [hsame]
  · have hvalue := h (.list ds)
    rw [hprune] at hvalue ⊢
    exact congrArg (Option.map some) hvalue
  · have hvalue := h (.record fs)
    rw [hprune] at hvalue ⊢
    exact congrArg (Option.map some) hvalue

/-- A record decoder ignores what it ignores of the fields. -/
theorem ignores_record {names : List String} {value : String → Shape}
    {fields? : Document → Option Fields}
    (hfields : ∀ fields, fields? (.record fields) = some fields)
    {decode : Fields → Option α}
    (h : ∀ fields,
      decode (restrict names (fun name => (value name).prune) fields) = decode fields) :
    (record names value).Ignores fun d => fields? d >>= decode := by
  intro d
  cases d with
  | record fields =>
    simp only [prune, hfields]
    exact h fields
  | _ => rfl

theorem case?_prune (body : String → Shape) (d : Document) :
    case? .message ((choice body).prune d) =
      (case? .message d).map fun c => (c.1, c.2.map (body c.1).prune) := by
  cases d with
  | record fields =>
    match fields with
    | [] => rfl
    | [(name, d)] =>
      rcases prune_cases (body name) d with hsame | ⟨ds, ds', rfl, hprune⟩ | ⟨fs, fs', rfl, hprune⟩
      · rw [prune, hsame]
        cases d <;> simp only [case?, Option.map_some, Option.map_none, hsame]
      · simp only [prune, hprune, case?, Option.map_some]
      · simp only [prune, hprune, case?, Option.map_some]
    | _ :: _ :: _ => simp [prune, case?]
  | _ => rfl

end Shape

/-! ## Fields among the declared ones -/

section Fields

variable {α : Type} {names : List String} {name : String} {parts : String → Shape}

/-- What the fields of a name hold. -/
def valuesOf (fields : Fields) (name : String) : List Document :=
  (fields.filter fun f => f.1 == name).map Prod.snd

theorem find_eq_of_valuesOf (fields : Fields) (name : String) :
    find fields name =
      match valuesOf fields name with
      | [] => some none
      | [d] => some (some d)
      | _ => none := by
  rw [find, valuesOf]
  generalize fields.filter _ = given
  match given with
  | [] => rfl
  | [f] => rfl
  | _ :: _ :: _ => rfl

theorem valuesOf_restrict (hname : name ∈ names) (change : String → Document → Document)
    (fields : Fields) :
    valuesOf (restrict names change fields) name = (valuesOf fields name).map (change name) := by
  have hfilter : fields.filter (fun f => f.1 == name && names.contains f.1) =
      fields.filter fun f => f.1 == name := by
    refine List.filter_congr fun f _ => ?_
    by_cases hf : f.1 = name
    · simp [hf, hname]
    · simp [hf]
  rw [valuesOf, valuesOf, restrict, List.filter_map, List.map_map, List.filter_filter, List.map_map]
  simp only [Function.comp_def]
  rw [hfilter]
  refine List.map_congr_left fun f hf => ?_
  rw [beq_iff_eq.mp (List.mem_filter.mp hf).2]

theorem find_restrict (hname : name ∈ names) (change : String → Document → Document)
    (fields : Fields) :
    find (restrict names change fields) name =
      (find fields name).map (Option.map (change name)) := by
  rw [find_eq_of_valuesOf, find_eq_of_valuesOf, valuesOf_restrict hname]
  match valuesOf fields name with
  | [] => rfl
  | [d] => rfl
  | _ :: _ :: _ => rfl

variable (hname : name ∈ names) {value : Document → Option α}
  (hvalue : (parts name).Ignores value) (fields : Fields)

include hname hvalue

theorem required_restrict :
    required (restrict names (fun name => (parts name).prune) fields) name value =
      required fields name value := by
  rw [required, required, find_restrict hname]
  match find fields name with
  | none => rfl
  | some none => rfl
  | some (some d) => exact hvalue d

theorem defaulting_restrict (default : α) :
    defaulting (restrict names (fun name => (parts name).prune) fields) name default value =
      defaulting fields name default value := by
  rw [defaulting, defaulting, find_restrict hname]
  match find fields name with
  | none => rfl
  | some none => rfl
  | some (some d) => exact hvalue d

theorem optional_restrict :
    optional (restrict names (fun name => (parts name).prune) fields) name value =
      optional fields name value :=
  defaulting_restrict hname (Shape.ignores_nullable hvalue) fields none

end Fields
end Document
end MeasuredJob
