import AccessMobility.Proofs.JsonShape

/-!
# Readers that undo a writer

A reader gives back what was written and does not see a variation of it.  This is said of a reader
and a writer together with the shape of the type and the values that can be written, and it passes
from the fields of a record to the record.
-/

namespace AccessMobility

open Document

/-- A writer that keeps to a shape, and a reader that undoes it on all values of a kind, reads only
such values and does not see a variation. -/
structure ReadsBack {α : Type} (shape : Shape) (write : α → Json) (read : Json → Option α)
    (Writable : α → Prop) : Prop where
  fits : ∀ value, shape.Fits (write value)
  read_write : ∀ {value}, Writable value → read (write value) = some value
  respects : shape.Respects read
  writable : ∀ {json value}, read json = some value → Writable value

/-- All values of a type can be written. -/
theorem ReadsBack.of_all {α : Type} {shape : Shape} {write : α → Json} {read : Json → Option α}
    (hfits : ∀ value, shape.Fits (write value))
    (hread : ∀ value, read (write value) = some value) (hrespects : shape.Respects read) :
    ReadsBack shape write read fun _ => True where
  fits := hfits
  read_write _ := hread _
  respects := hrespects
  writable _ := trivial

/-! ## Plain values and lists -/

theorem text_readsBack : ReadsBack .value Json.string text? fun _ => True :=
  .of_all (fun _ => by simp) (fun _ => rfl) (Shape.respects_value _)

theorem bool_readsBack : ReadsBack .value Json.bool Json.bool? fun _ => True :=
  .of_all (fun _ => by simp) (fun _ => rfl) (Shape.respects_value _)

@[simp] theorem record?_object (names : List String) (entries : Record Json) :
    record? names (Json.object entries) = some entries :=
  rfl

theorem bounded?_integer {low high value : Int} (hlow : low ≤ value) (hhigh : value ≤ high) :
    bounded? low high (Json.integer value) = some value := by
  have hinteger : integer? (decide (low < 0)) (Json.integer value) = some value := rfl
  simp [bounded?, hinteger, hlow, hhigh]

/-- Machine integers are written as integers between the bounds of their type. -/
theorem bounded_readsBack {α : Type} {low high : Int} {count : α → Int} {ofInt : Int → α}
    (hbounds : ∀ value, low ≤ count value ∧ count value ≤ high)
    (hback : ∀ value, ofInt (count value) = value) :
    ReadsBack .value (fun value => .integer (count value))
      (fun json => (bounded? low high json).map ofInt) fun _ => True := by
  refine .of_all (fun _ => by simp) (fun value => ?_) (Shape.respects_value _)
  obtain ⟨hlow, hhigh⟩ := hbounds value
  rw [bounded?_integer hlow hhigh, Option.map_some, hback]

theorem uint8_readsBack :
    ReadsBack .value (fun value : UInt8 => .integer value.toNat) uint8? fun _ => True := by
  refine bounded_readsBack (fun value => ?_) fun value => by simp
  have hlt := value.toNat_lt
  omega

theorem uint16_readsBack :
    ReadsBack .value (fun value : UInt16 => .integer value.toNat) uint16? fun _ => True := by
  refine bounded_readsBack (fun value => ?_) fun value => by simp
  have hlt := value.toNat_lt
  omega

theorem uint64_readsBack :
    ReadsBack .value (fun value : UInt64 => .integer value.toNat) uint64? fun _ => True := by
  refine bounded_readsBack (fun value => ?_) fun value => by simp
  have hlt := value.toNat_lt
  omega

theorem int32_readsBack :
    ReadsBack .value (fun value : Int32 => .integer value.toInt) int32? fun _ => True := by
  refine bounded_readsBack (fun value => ?_) fun value => by simp
  have hlow := value.le_toInt
  have hlt := value.toInt_lt
  omega

theorem int64_readsBack :
    ReadsBack .value (fun value : Int64 => .integer value.toInt) int64? fun _ => True := by
  refine bounded_readsBack (fun value => ?_) fun value => by simp
  have hlow := value.le_toInt
  have hlt := value.toInt_lt
  omega

/-- A type whose values are written as their names. -/
theorem names_readsBack {α : Type} {all : List α} {text : α → String}
    (hfind : ∀ value, (all.find? fun other => text other = text value) = some value) :
    ReadsBack .value (fun value => .string (text value))
      (fun json => json.variant?.bind fun name => all.find? fun value => text value = name)
      fun _ => True :=
  .of_all (fun _ => by simp) hfind (Shape.respects_value _)

theorem ReadsBack.list {α : Type} {shape : Shape} {write : α → Json} {read : Json → Option α}
    (hitem : ReadsBack shape write read fun _ => True) :
    ReadsBack (.list shape) (Json.listOf write) (listOf? read) fun _ => True := by
  refine .of_all (fun values => .list ?_) (fun values => ?_) (Shape.respects_list hitem.respects)
  · simpa using fun value _ => hitem.fits value
  show List.mapM read (values.map write) = some values
  induction values with
  | nil => rfl
  | cons value values ih =>
      rw [List.map_cons, List.mapM_cons, ih, hitem.read_write trivial]
      rfl

/-! ## Fields -/

/-- The entry of an optional field, as it is read. -/
def readOptional {α : Type} (read : Json → Option α) : Option Json → Option (Option α)
  | none => some none
  | some value => if isNothing value then some none else (read value).map some

theorem Record.optional_eq {α : Type} (record : Record Json) (name : String)
    (read : Json → Option α) :
    record.optional name read = readOptional read (record.lookup name) := by
  unfold Record.optional readOptional
  cases record.lookup name <;> rfl

@[simp] theorem Json.lookup_optional {α : Type} (name other : String) (write : α → Json)
    (value : Option α) :
    (Json.optional name write value).lookup other =
      if other = name then value.map write else none := by
  cases value with
  | none => simp [Json.optional]
  | some value => simp [Json.optional]

section

variable {α : Type} {shape : Shape} {write : α → Json} {read : Json → Option α}
  {Writable : α → Prop} (hform : ReadsBack shape write read Writable)

include hform

theorem ReadsBack.readOptional_map {value : Option α} (hwritable : ∀ some ∈ value, Writable some) :
    readOptional read (value.map write) = some value := by
  cases value with
  | none => rfl
  | some value =>
      simp [readOptional, (hform.fits _).something, hform.read_write (hwritable value rfl)]

theorem ReadsBack.readOptional_nullable {value : Option α}
    (hwritable : ∀ some ∈ value, Writable some) :
    readOptional read (some (Json.nullable write value)) = some value := by
  cases value with
  | none => rfl
  | some value =>
      simp [readOptional, Json.nullable, (hform.fits _).something,
        hform.read_write (hwritable value rfl)]

theorem ReadsBack.writable_of_optional {record : Record Json} {name : String} {value : Option α}
    (hread : record.optional name read = some value) : ∀ some ∈ value, Writable some := by
  rintro value rfl
  rw [Record.optional_eq] at hread
  cases hlookup : record.lookup name with
  | none => simp [hlookup, readOptional] at hread
  | some json =>
      rw [hlookup, readOptional] at hread
      split at hread
      · simp at hread
      · exact hform.writable (by simpa using hread)

end

/-- A record that is read through its fields alone, all of whose values can be written. -/
theorem ReadsBack.record {α : Type} {fields : List (String × Shape)} {opened : Bool}
    {names : List String} {entries : α → Record Json} {body : Record Json → Option α}
    (hdistinct : (fields.map Prod.fst).Nodup)
    (hfits : ∀ value, (Shape.record fields opened).Fits (.object (entries value)))
    (hread : ∀ value, body (entries value) = some value)
    (hbody : ∀ given other : Record Json,
      (∀ field ∈ fields, field.2.Alike (given.lookup field.1) (other.lookup field.1)) →
        body given = body other) :
    ReadsBack (.record fields opened) (fun value => .object (entries value))
      (fun json => record? names json >>= body) fun _ => True :=
  .of_all hfits hread (Shape.respects_record hdistinct hbody)

end AccessMobility
