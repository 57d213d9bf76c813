import AccessMobility.Json.Basic

/-!
# Documents

What the readers of the data model need of a document format.  A reader is written once against
these operations and serves every format that has them.  A record is given as the entries of its
known fields; a field is required, optional, or has a default.
-/

namespace AccessMobility

/-- The entries of a record under the names of its fields. -/
abbrev Record (ν : Type) := List (String × ν)

/-- How the values of a format are taken apart. -/
class Document (ν : Type) where
  /-- The text of a value where text is wanted. -/
  text? : ν → Option String
  /-- The integer of a value; a format may refuse a sign where the type admits none. -/
  integer? : (signed : Bool) → ν → Option Int
  /-- Whether a value stands for nothing where it is optional. -/
  isNothing : ν → Bool
  /-- The elements of a list. -/
  list? : ν → Option (List ν)
  /-- The entries of a record with the given fields, other entries included or not. -/
  record? : (fields : List String) → ν → Option (Record ν)

namespace Record

variable {ν α : Type}

def required (record : Record ν) (name : String) (read : ν → Option α) : Option α :=
  (record.lookup name).bind read

/-- A field that may be missing or stand for nothing. -/
def optional [Document ν] (record : Record ν) (name : String) (read : ν → Option α) :
    Option (Option α) :=
  match record.lookup name with
  | none => some none
  | some value => if Document.isNothing value then some none else (read value).map some

/-- A field that may be missing but not stand for nothing. -/
def withDefault (record : Record ν) (name : String) (value : α) (read : ν → Option α) :
    Option α :=
  match record.lookup name with
  | none => some value
  | some given => read given

end Record

namespace Document

variable {ν α : Type} [Document ν]

def listOf? (read : ν → Option α) (value : ν) : Option (List α) :=
  (list? value).bind fun elements => elements.mapM read

/-- An integer between two bounds. -/
def bounded? (low high : Int) (value : ν) : Option Int :=
  (integer? (low < 0) value).filter fun i => low ≤ i ∧ i ≤ high

def uint8? (value : ν) : Option UInt8 :=
  (bounded? 0 255 value).map fun i => UInt8.ofNat i.toNat

def uint16? (value : ν) : Option UInt16 :=
  (bounded? 0 65535 value).map fun i => UInt16.ofNat i.toNat

def uint64? (value : ν) : Option UInt64 :=
  (bounded? 0 18446744073709551615 value).map fun i => UInt64.ofNat i.toNat

def int32? (value : ν) : Option Int32 :=
  (bounded? (-2147483648) 2147483647 value).map Int32.ofInt

def int64? (value : ν) : Option Int64 :=
  (bounded? (-9223372036854775808) 9223372036854775807 value).map Int64.ofInt

end Document

/-- A record is an object, or an array of its fields in order, missing ones at its end. -/
instance : Document Json where
  text?
    | .string value => some value
    | _ => none
  integer? _
    | .integer value => some value
    | _ => none
  isNothing
    | .null => true
    | _ => false
  list?
    | .array elements => some elements
    | _ => none
  record? fields
    | .object entries => some entries
    | .array elements =>
      if elements.length ≤ fields.length then some (fields.zip elements) else none
    | _ => none

end AccessMobility
