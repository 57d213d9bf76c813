import Std.Data.ExtTreeMap

/-!
# Tables and stores

A table is a finite map listed in the order of its keys; two tables with the same entries are
equal.  A store keeps objects under references that are handed out once and never reused, so a
reference held by a caller goes on naming the same object after every registry has dropped it.
-/

namespace AccessMobility

/-- A finite map listed in the order of its keys. -/
abbrev Table (κ α : Type) [Ord κ] :=
  Std.ExtTreeMap κ α compare

/-- The entry under a key is dropped only where it satisfies the test. -/
def Table.eraseIf [Ord κ] [Std.TransOrd κ] (table : Table κ α) (key : κ) (test : α → Bool) :
    Table κ α :=
  if table[key]?.any test then table.erase key else table

/-- A reference to an object of one kind. -/
structure Ref (α : Type) where
  number : Nat

instance : DecidableEq (Ref α) := fun left right =>
  decidable_of_iff (left.number = right.number)
    ⟨fun h => congrArg Ref.mk h, fun h => congrArg Ref.number h⟩

/-- The objects of one kind, each under the reference it was created with. -/
structure Store (α : Type) where
  objects : Table Nat α := ∅
  next : Nat := 0

namespace Store

variable {α : Type} [Inhabited α]

/-- A reference that was never handed out reads as the default object. -/
def get (store : Store α) (ref : Ref α) : α :=
  store.objects.getD ref.number default

def set (store : Store α) (ref : Ref α) (object : α) : Store α :=
  { store with objects := store.objects.insert ref.number object }

/-- The reference the next created object receives. -/
def fresh (store : Store α) : Ref α :=
  ⟨store.next⟩

def create (store : Store α) (object : α) : Store α :=
  { objects := store.objects.insert store.next object, next := store.next + 1 }

/-- The references handed out so far. -/
def Holds (store : Store α) (ref : Ref α) : Prop :=
  ref.number < store.next

@[simp] theorem get_set (store : Store α) (ref other : Ref α) (object : α) :
    (store.set ref object).get other = if ref = other then object else store.get other := by
  cases ref with | mk ref =>
  cases other with | mk other =>
  simp [get, set, Std.ExtTreeMap.getD_insert]

@[simp] theorem get_create (store : Store α) (object : α) (other : Ref α) :
    (store.create object).get other =
      if store.fresh = other then object else store.get other := by
  cases other with | mk other =>
  simp [get, create, fresh, Std.ExtTreeMap.getD_insert]

omit [Inhabited α] in
@[simp] theorem next_set (store : Store α) (ref : Ref α) (object : α) :
    (store.set ref object).next = store.next := rfl

end Store

end AccessMobility
