import AccessMobility.Document
import Mathlib.Data.List.Nodup
import Mathlib.Data.List.Perm.Basic
import Mathlib.Logic.Relation

/-!
# Variations of JSON values

The order of the entries of an object carries no meaning, and entries that a reader has no field for
are passed over.  At which places of a value this is so depends on the type that is read: a shape
says where the objects are, which fields they have and whether they admit other entries.  A reader
that looks at its object through the fields alone reads the same from every variation.
-/

namespace AccessMobility

/-- The objects within the JSON form of a type.  An object that is not open admits no entries
besides its fields. -/
inductive Shape where
  | value
  | list (item : Shape)
  | record (fields : List (String × Shape)) (opened : Bool)

namespace Shape

/-! ## Values of a shape -/

/-- A value has its objects and lists where the shape has them, and nothing may stand in the place
of a field. -/
inductive Fits : Shape → Json → Prop where
  | bool (given : Bool) : Fits value (.bool given)
  | integer (given : Int) : Fits value (.integer given)
  | string (given : String) : Fits value (.string given)
  | list {item : Shape} {elements : List Json} : (∀ element ∈ elements, Fits item element) →
      Fits (list item) (.array elements)
  | record {fields : List (String × Shape)} {opened : Bool} {entries : List (String × Json)} :
      (∀ entry ∈ entries, entry.1 ∈ fields.map Prod.fst) →
      (∀ entry ∈ entries, ∀ shape, (entry.1, shape) ∈ fields → entry.2 ≠ .null →
        Fits shape entry.2) →
      Fits (record fields opened) (.object entries)

attribute [simp] Fits.bool Fits.integer Fits.string

theorem Fits.something {shape : Shape} {json : Json} (hfits : shape.Fits json) :
    Document.isNothing json = false := by
  cases hfits <;> rfl

/-- An entry is one of a field. -/
def FieldFits (fields : List (String × Shape)) (entry : String × Json) : Prop :=
  entry.1 ∈ fields.map Prod.fst ∧
    ∀ shape, (entry.1, shape) ∈ fields → entry.2 ≠ .null → shape.Fits entry.2

def FieldsFit (fields : List (String × Shape)) (entries : List (String × Json)) : Prop :=
  ∀ entry ∈ entries, FieldFits fields entry

section

variable {fields : List (String × Shape)}

@[simp] theorem fits_record {opened : Bool} {entries : List (String × Json)} :
    (record fields opened).Fits (.object entries) ↔ FieldsFit fields entries := by
  constructor
  · intro hfits entry hmem
    cases hfits with
    | record hnames hentries => exact ⟨hnames entry hmem, hentries entry hmem⟩
  · intro hfit
    exact .record (fun entry hmem => (hfit entry hmem).1) fun entry hmem => (hfit entry hmem).2

@[simp] theorem fieldsFit_nil : FieldsFit fields [] := by
  simp [FieldsFit]

@[simp] theorem fieldsFit_cons {entry : String × Json} {rest : List (String × Json)} :
    FieldsFit fields (entry :: rest) ↔ FieldFits fields entry ∧ FieldsFit fields rest :=
  List.forall_mem_cons

@[simp] theorem fieldsFit_append {before after : List (String × Json)} :
    FieldsFit fields (before ++ after) ↔ FieldsFit fields before ∧ FieldsFit fields after :=
  List.forall_mem_append

@[simp] theorem fieldsFit_optional {α : Type} {name : String} {write : α → Json}
    {value : Option α} :
    FieldsFit fields (Json.optional name write value) ↔
      ∀ some ∈ value, FieldFits fields (name, write some) := by
  cases value <;> simp [Json.optional]

@[simp] theorem fits_nullable {α : Type} {shape : Shape} {write : α → Json} {value : Option α} :
    (¬ Json.nullable write value = .null → shape.Fits (Json.nullable write value)) ↔
      ∀ some ∈ value, ¬ write some = .null → shape.Fits (write some) := by
  cases value <;> simp [Json.nullable]

end

/-! ## Variations -/

/-- Two entries of an object change places, an entry without a field is added, or one place further
inside varies. -/
inductive Step : Shape → Json → Json → Prop where
  | swap {fields : List (String × Shape)} {opened : Bool} {before after : List (String × Json)}
      {first second : String × Json} : first.1 ≠ second.1 →
      Step (record fields opened) (.object (before ++ first :: second :: after))
        (.object (before ++ second :: first :: after))
  | add {fields : List (String × Shape)} {before after : List (String × Json)}
      {entry : String × Json} : entry.1 ∉ fields.map Prod.fst →
      Step (record fields true) (.object (before ++ after)) (.object (before ++ entry :: after))
  | field {fields : List (String × Shape)} {opened : Bool} {before after : List (String × Json)}
      {name : String} {shape : Shape} {given other : Json} : (name, shape) ∈ fields →
      Step shape given other →
      Step (record fields opened) (.object (before ++ (name, given) :: after))
        (.object (before ++ (name, other) :: after))
  | item {shape : Shape} {before after : List Json} {given other : Json} : Step shape given other →
      Step (list shape) (.array (before ++ given :: after)) (.array (before ++ other :: after))

/-- Any number of steps. -/
def Varies (shape : Shape) : Json → Json → Prop :=
  Relation.ReflTransGen shape.Step

/-- The entries of an object can be brought into any order. -/
theorem varies_of_perm {fields : List (String × Shape)} {opened : Bool}
    {entries others : List (String × Json)} (hperm : entries.Perm others)
    (hdistinct : (entries.map Prod.fst).Nodup) (before : List (String × Json)) :
    (record fields opened).Varies (.object (before ++ entries)) (.object (before ++ others)) := by
  induction hperm generalizing before with
  | nil => exact Relation.ReflTransGen.refl
  | cons entry _ ih =>
      rw [List.map_cons, List.nodup_cons] at hdistinct
      simpa using ih hdistinct.2 (before ++ [entry])
  | swap first second rest =>
      have hne : second.1 ≠ first.1 := by
        rintro heq
        simp [heq] at hdistinct
      exact Relation.ReflTransGen.single (.swap hne)
  | trans hfirst _ ihFirst ihSecond =>
      have hdistinct' := (hfirst.map Prod.fst).nodup_iff.mp hdistinct
      exact (ihFirst hdistinct before).trans (ihSecond hdistinct' before)

theorem Varies.field {fields : List (String × Shape)} {opened : Bool} {name : String}
    {shape : Shape} {given other : Json} (hvaries : shape.Varies given other)
    (hfield : (name, shape) ∈ fields) (before after : List (String × Json)) :
    (record fields opened).Varies (.object (before ++ (name, given) :: after))
      (.object (before ++ (name, other) :: after)) := by
  induction hvaries with
  | refl => exact Relation.ReflTransGen.refl
  | tail _ hstep ih => exact ih.tail (.field hfield hstep)

/-! ## Readers that do not see a variation -/

def Respects {α : Type} (shape : Shape) (read : Json → Option α) : Prop :=
  ∀ ⦃json other : Json⦄, shape.Step json other → read json = read other

theorem respects_value {α : Type} (read : Json → Option α) : value.Respects read := by
  intro json other hstep
  cases hstep

theorem Respects.varies {α : Type} {shape : Shape} {read : Json → Option α}
    (hrespects : shape.Respects read) {json other : Json} (hvaries : shape.Varies json other) :
    read json = read other := by
  induction hvaries with
  | refl => rfl
  | tail _ hstep ih => exact ih.trans (hrespects hstep)

/-- What may be found under the name of a field before and after a step. -/
def Alike (shape : Shape) (given other : Option Json) : Prop :=
  given = other ∨ ∃ value varied, given = some value ∧ other = some varied ∧ shape.Step value varied

@[simp] theorem lookup_entry (name : String) (entry : String × Json) (rest : List (String × Json)) :
    (entry :: rest).lookup name = if name = entry.1 then some entry.2 else rest.lookup name := by
  rw [List.lookup_cons]
  by_cases heq : name = entry.1
  · simp [heq]
  · rw [if_neg heq, beq_eq_false_iff_ne.mpr heq]

theorem Step.objects {fields : List (String × Shape)} {opened : Bool} {json other : Json}
    (hstep : (record fields opened).Step json other) :
    ∃ entries others, json = .object entries ∧ other = .object others := by
  cases hstep <;> exact ⟨_, _, rfl, rfl⟩

/-- A step changes what is found under the name of a field at most by a step of this field. -/
theorem Step.alike {fields : List (String × Shape)} {opened : Bool}
    (hdistinct : (fields.map Prod.fst).Nodup) {entries others : List (String × Json)}
    (hstep : (record fields opened).Step (.object entries) (.object others)) :
    ∀ field ∈ fields, field.2.Alike (entries.lookup field.1) (others.lookup field.1) := by
  intro field hfield
  have hbefore {before after rest : List (String × Json)}
      (hafter : field.2.Alike (after.lookup field.1) (rest.lookup field.1)) :
      field.2.Alike ((before ++ after).lookup field.1) ((before ++ rest).lookup field.1) := by
    rw [List.lookup_append, List.lookup_append]
    cases before.lookup field.1 with
    | none => exact hafter
    | some found => exact Or.inl rfl
  cases hstep with
  | swap hne =>
      apply hbefore
      simp only [lookup_entry]
      split
      next hfirst =>
        rw [if_neg fun hsecond => hne (hfirst.symm.trans hsecond)]
        exact Or.inl rfl
      next => exact Or.inl rfl
  | @add _ _ _ entry hunknown =>
      apply hbefore
      have hne : field.1 ≠ entry.1 := by
        intro heq
        exact hunknown (heq ▸ List.mem_map_of_mem hfield)
      rw [lookup_entry, if_neg hne]
      exact Or.inl rfl
  | field hvaried hinner =>
      apply hbefore
      simp only [lookup_entry]
      split
      next heq =>
        have hsame := List.inj_on_of_nodup_map hdistinct hfield hvaried heq
        rw [hsame]
        exact Or.inr ⟨_, _, rfl, rfl, hinner⟩
      next => exact Or.inl rfl

/-- An object that is not open keeps its names. -/
theorem Step.names_perm {fields : List (String × Shape)} {entries others : List (String × Json)}
    (hstep : (record fields false).Step (.object entries) (.object others)) :
    (entries.map Prod.fst).Perm (others.map Prod.fst) := by
  cases hstep with
  | swap hne =>
      exact ((List.Perm.swap _ _ _).append_left _).map Prod.fst
  | field hvaried hinner => simp

/-- A record that is read through its fields alone respects its shape. -/
theorem respects_record {α : Type} {fields : List (String × Shape)} {opened : Bool}
    {names : List String} {body : Record Json → Option α}
    (hdistinct : (fields.map Prod.fst).Nodup)
    (hbody : ∀ entries others : Record Json,
      (∀ field ∈ fields, field.2.Alike (entries.lookup field.1) (others.lookup field.1)) →
        body entries = body others) :
    (record fields opened).Respects fun json => Document.record? names json >>= body := by
  intro json other hstep
  obtain ⟨entries, others, rfl, rfl⟩ := hstep.objects
  exact hbody entries others (hstep.alike hdistinct)

theorem respects_list {α : Type} {item : Shape} {read : Json → Option α}
    (hrespects : item.Respects read) : (list item).Respects (Document.listOf? read) := by
  intro json other hstep
  cases hstep with
  | item hinner =>
      show List.mapM read _ = List.mapM read _
      rw [List.mapM_append, List.mapM_append, List.mapM_cons, List.mapM_cons, hrespects hinner]

/-! ## Fields -/

section

variable {α : Type} {shape : Shape} {read : Json → Option α} (hrespects : shape.Respects read)
  {entries others : Record Json} {name : String}
  (halike : shape.Alike (entries.lookup name) (others.lookup name))

include hrespects halike

theorem Respects.required : entries.required name read = others.required name read := by
  unfold Record.required
  rcases halike with heq | ⟨value, varied, hgiven, hother, hstep⟩
  · rw [heq]
  · rw [hgiven, hother]
    exact hrespects hstep

theorem Respects.withDefault (value : α) :
    entries.withDefault name value read = others.withDefault name value read := by
  unfold Record.withDefault
  rcases halike with heq | ⟨value, varied, hgiven, hother, hstep⟩
  · rw [heq]
  · rw [hgiven, hother]
    exact hrespects hstep

/-- Only objects and lists vary, so nothing comes to stand for nothing. -/
theorem Respects.optional : entries.optional name read = others.optional name read := by
  unfold Record.optional
  rcases halike with heq | ⟨value, varied, hgiven, hother, hstep⟩
  · rw [heq]
  · rw [hgiven, hother]
    dsimp only
    rw [hrespects hstep]
    cases hstep <;> rfl

end

end Shape

end AccessMobility
