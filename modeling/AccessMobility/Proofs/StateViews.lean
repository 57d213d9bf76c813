import AccessMobility.Registry.Location
import AccessMobility.Registry.Node
import AccessMobility.Registry.Subscription
import Mathlib.Data.List.Nodup

/-!
# What the primitive updates do to the objects and the registry

A state is read through the objects under its references and through its registry.  For every
update the invariants meet, this file says what each of these readings becomes.  Later files use
only these equations, and never open the updates themselves.
-/

namespace AccessMobility

/-! ## Tables -/

namespace Table

variable {κ α : Type} [Ord κ] [Std.TransOrd κ]

theorem eraseIf_of_pass {table : Table κ α} {key : κ} {test : α → Bool} {value : α}
    (hentry : table[key]? = some value) (hpass : test value = true) :
    table.eraseIf key test = table.erase key := by
  rw [eraseIf, hentry, Option.any_some, if_pos hpass]

theorem eraseIf_of_fail {table : Table κ α} {key : κ} {test : α → Bool}
    (hfail : ∀ value, table[key]? = some value → test value = false) :
    table.eraseIf key test = table := by
  unfold eraseIf
  cases hentry : table[key]? with
  | none => rfl
  | some value => rw [Option.any_some, hfail value hentry, if_neg Bool.false_ne_true]

theorem size_insert_used {table : Table κ α} {key : κ} {old : α} (hused : table[key]? = some old)
    (value : α) : (table.insert key value).size = table.size := by
  rw [Std.ExtTreeMap.size_insert, if_pos]
  rw [Std.ExtTreeMap.contains_eq_isSome_getElem?, hused]
  rfl

theorem size_insert_free {table : Table κ α} {key : κ} (hfree : table[key]? = none) (value : α) :
    (table.insert key value).size = table.size + 1 := by
  rw [Std.ExtTreeMap.size_insert, if_neg]
  rw [Std.ExtTreeMap.contains_eq_isSome_getElem?, hfree]
  simp

theorem size_erase_used {table : Table κ α} {key : κ} {old : α} (hused : table[key]? = some old) :
    (table.erase key).size = table.size - 1 := by
  rw [Std.ExtTreeMap.size_erase, if_pos]
  rw [Std.ExtTreeMap.contains_eq_isSome_getElem?, hused]
  rfl

theorem size_eraseIf_le (table : Table κ α) (key : κ) (test : α → Bool) :
    (table.eraseIf key test).size ≤ table.size := by
  unfold eraseIf
  split
  · exact Std.ExtTreeMap.size_erase_le
  · exact Nat.le_refl _

theorem values_eq (table : Table κ α) : table.values = table.toList.map Prod.snd := by
  obtain ⟨⟨table⟩⟩ := table
  induction table using Quotient.inductionOn with
  | h table =>
      show table.inner.values =
        (Std.DTreeMap.Internal.Impl.Const.toList table.inner).map Prod.snd
      rw [Std.DTreeMap.Internal.Impl.values_eq_map_snd,
        Std.DTreeMap.Internal.Impl.Const.toList_eq_toListModel_map, List.map_map]
      rfl

theorem distinct_toList (table : Table κ α) :
    table.toList.Pairwise (fun left right => left.1 ≠ right.1) := by
  refine List.Pairwise.imp ?_ Std.ExtTreeMap.distinct_keys_toList
  intro left right hne heq
  apply hne
  rw [heq]
  exact Std.ReflCmp.compare_self

variable [Std.LawfulEqOrd κ]

theorem mem_values {table : Table κ α} {value : α} :
    value ∈ table.values ↔ ∃ key : κ, table[key]? = some value := by
  rw [values_eq, List.mem_map]
  constructor
  · rintro ⟨⟨key, other⟩, hmem, heq⟩
    exact ⟨key, heq ▸ Std.ExtTreeMap.mem_toList_iff_getElem?_eq_some.mp hmem⟩
  · rintro ⟨key, hentry⟩
    exact ⟨(key, value), Std.ExtTreeMap.mem_toList_iff_getElem?_eq_some.mpr hentry, rfl⟩

/-- A table that files nothing under two keys lists nothing twice. -/
theorem nodup_values {table : Table κ α}
    (hinjective : ∀ {left right : κ} {value : α}, table[left]? = some value →
      table[right]? = some value → left = right) : table.values.Nodup := by
  rw [values_eq]
  apply List.Nodup.map_on
  · rintro ⟨left, value⟩ hleft ⟨right, other⟩ hright heq
    have hsame : value = other := heq
    subst hsame
    rw [Std.ExtTreeMap.mem_toList_iff_getElem?_eq_some] at hleft hright
    rw [hinjective hleft hright]
  · exact table.distinct_toList.imp fun hne heq => hne (congrArg Prod.fst heq)

theorem ext_entries {left right : Table κ α}
    (hentries : ∀ (key : κ) (value : α), left[key]? = some value ↔ right[key]? = some value) :
    left = right := by
  apply Std.ExtTreeMap.ext_getElem?
  intro key
  exact Option.ext (hentries key)

theorem eq_empty {table : Table κ α}
    (hnone : ∀ (key : κ) (value : α), table[key]? ≠ some value) : table = ∅ := by
  apply ext_entries
  intro key value
  rw [Std.ExtTreeMap.getElem?_empty]
  exact iff_of_false (hnone key value) (by simp)

variable [DecidableEq κ]

theorem lookup_insert (table : Table κ α) (key other : κ) (value : α) :
    (table.insert key value)[other]? = if key = other then some value else table[other]? := by
  simp [Std.ExtTreeMap.getElem?_insert]

theorem lookup_erase (table : Table κ α) (key other : κ) :
    (table.erase key)[other]? = if key = other then none else table[other]? := by
  simp [Std.ExtTreeMap.getElem?_erase]

theorem erase_absent {table : Table κ α} {key : κ} (habsent : table[key]? = none) :
    table.erase key = table := by
  apply Std.ExtTreeMap.ext_getElem?
  intro other
  rw [lookup_erase]
  split
  next heq => rw [← heq, habsent]
  next => rfl

/-- A conditional erasure drops at most the entry under its key, and only one that passes. -/
theorem lookup_eraseIf (table : Table κ α) (key other : κ) (test : α → Bool) (value : α) :
    (table.eraseIf key test)[other]? = some value ↔
      table[other]? = some value ∧ ¬ (key = other ∧ test value = true) := by
  unfold eraseIf
  by_cases hkey : key = other
  · subst hkey
    cases hentry : table[key]? with
    | none => simp [hentry]
    | some entry =>
        by_cases htest : test entry = true
        · simp only [Option.any_some, htest, if_true, lookup_erase, true_and]
          constructor
          · intro hnone
            simp at hnone
          · rintro ⟨hsome, hnot⟩
            rw [Option.some.injEq] at hsome
            subst hsome
            exact absurd htest hnot
        · simp only [Option.any_some, htest, Bool.false_eq_true, if_false, hentry, true_and]
          constructor
          · intro hsome
            refine ⟨hsome, ?_⟩
            rw [Option.some.injEq] at hsome
            subst hsome
            exact htest
          · exact And.left
  · split
    · rw [lookup_erase, if_neg hkey]
      simp [hkey]
    · simp [hkey]

end Table

/-! ## References -/

namespace Store

variable {α : Type} {store : Store α} {ref : Ref α}

/-- The next reference was never handed out. -/
theorem ne_fresh (hholds : store.Holds ref) : store.fresh ≠ ref := by
  intro heq
  rw [← heq] at hholds
  exact Nat.lt_irrefl _ hholds

/-- What is held with a new object is this object or was held before. -/
theorem holds_of_create {object : α} (hholds : (store.create object).Holds ref)
    (hne : store.fresh ≠ ref) : store.Holds ref := by
  refine Nat.lt_of_le_of_ne (Nat.le_of_lt_succ hholds) ?_
  intro heq
  exact hne (congrArg Ref.mk heq.symm)

end Store

/-! ## Slots -/

namespace Ue

variable (ue : Ue)

theorem slot_clearSlot (access other : AccessType) :
    (ue.clearSlot access).slot other = if access = other then none else ue.slot other := by
  unfold slot clearSlot
  rw [PerAccess.get_set]
  split <;> rfl

theorem slot_unlink (ngapId : Nat) (access : AccessType) :
    (ue.unlink ngapId).slot access = (ue.slot access).filter (· ≠ ngapId) := by
  unfold slot unlink
  rw [PerAccess.get_map, Option.filter_filter, Option.filter_filter]
  congr 1
  funext other
  exact Bool.and_comm ..

end Ue

theorem RanUe.ueId_cleared (ranUe : RanUe) (cleared : Prop) [Decidable cleared] (owner id : Nat) :
    (if cleared ∧ ranUe.ueId = some owner then { ranUe with ueId := none } else ranUe).ueId =
        some id ↔
      ranUe.ueId = some id ∧ ¬ (cleared ∧ id = owner) := by
  split
  next hcleared =>
    simp only [reduceCtorEq, false_iff]
    rintro ⟨hsome, hnot⟩
    rw [hcleared.2, Option.some.injEq] at hsome
    exact hnot ⟨hcleared.1, hsome.symm⟩
  next hkept =>
    constructor
    · intro hsome
      refine ⟨hsome, ?_⟩
      rintro ⟨hcleared, heq⟩
      rw [heq] at hsome
      exact hkept ⟨hcleared, hsome⟩
    · exact And.left

namespace State

variable (state : State)

/-! ## Single objects -/

@[simp] theorem ue_setUe (ref other : Ref Ue) (ue : Ue) :
    (state.setUe ref ue).ue other = if ref = other then ue else state.ue other :=
  Store.get_set ..

@[simp] theorem node_setUe (ref : Ref Ue) (ue : Ue) : (state.setUe ref ue).node = state.node := rfl

@[simp] theorem ranUe_setUe (ref : Ref Ue) (ue : Ue) :
    (state.setUe ref ue).ranUe = state.ranUe := rfl

@[simp] theorem registry_setUe (ref : Ref Ue) (ue : Ue) :
    (state.setUe ref ue).registry = state.registry := rfl

@[simp] theorem node_setNode (ref other : Ref RadioNode) (node : RadioNode) :
    (state.setNode ref node).node other = if ref = other then node else state.node other :=
  Store.get_set ..

@[simp] theorem ranUe_setNode (ref : Ref RadioNode) (node : RadioNode) :
    (state.setNode ref node).ranUe = state.ranUe := rfl

@[simp] theorem ue_setRanUe (ref : Ref RanUe) (ranUe : RanUe) :
    (state.setRanUe ref ranUe).ue = state.ue := rfl

@[simp] theorem node_setRanUe (ref : Ref RanUe) (ranUe : RanUe) :
    (state.setRanUe ref ranUe).node = state.node := rfl

@[simp] theorem ranUe_setRanUe (ref other : Ref RanUe) (ranUe : RanUe) :
    (state.setRanUe ref ranUe).ranUe other = if ref = other then ranUe else state.ranUe other :=
  Store.get_set ..

@[simp] theorem registry_setRanUe (ref : Ref RanUe) (ranUe : RanUe) :
    (state.setRanUe ref ranUe).registry = state.registry := rfl

theorem setNode_setNode (ref : Ref RadioNode) (first second : RadioNode) :
    (state.setNode ref first).setNode ref second = state.setNode ref second := by
  have hobjects : (state.entities.nodes.objects.insert ref.number first).insert ref.number second =
      state.entities.nodes.objects.insert ref.number second := by
    apply Std.ExtTreeMap.ext_getElem?
    intro number
    rw [Table.lookup_insert, Table.lookup_insert, Table.lookup_insert]
    split <;> rfl
  simp only [setNode, Store.set, hobjects]

/-- What an update of one object keeps of it, it keeps of every object. -/
theorem field_setUe {β : Type} {state : State} {ref : Ref Ue} {ue : Ue} (field : Ue → β)
    (hfield : field ue = field (state.ue ref)) (other : Ref Ue) :
    field ((state.setUe ref ue).ue other) = field (state.ue other) := by
  rw [ue_setUe]
  split
  next heq => exact heq ▸ hfield
  next => rfl

theorem field_setNode {β : Type} {state : State} {ref : Ref RadioNode} {node : RadioNode}
    (field : RadioNode → β) (hfield : field node = field (state.node ref))
    (other : Ref RadioNode) :
    field ((state.setNode ref node).node other) = field (state.node other) := by
  rw [node_setNode]
  split
  next heq => exact heq ▸ hfield
  next => rfl

theorem field_setRanUe {β : Type} {state : State} {ref : Ref RanUe} {ranUe : RanUe}
    (field : RanUe → β) (hfield : field ranUe = field (state.ranUe ref)) (other : Ref RanUe) :
    field ((state.setRanUe ref ranUe).ranUe other) = field (state.ranUe other) := by
  rw [ranUe_setRanUe]
  split
  next heq => exact heq ▸ hfield
  next => rfl

def created : Nat × Nat × Nat :=
  (state.entities.ues.next, state.entities.nodes.next, state.entities.ranUes.next)

@[simp] theorem created_setUe (ref : Ref Ue) (ue : Ue) :
    (state.setUe ref ue).created = state.created := rfl

@[simp] theorem created_setRanUe (ref : Ref RanUe) (ranUe : RanUe) :
    (state.setRanUe ref ranUe).created = state.created := rfl

/-! ## Back references -/

@[simp] theorem ue_clearBackReference (ngapId ueId : Nat) :
    (state.clearBackReference ngapId ueId).ue = state.ue := by
  unfold clearBackReference
  split
  · rfl
  · split <;> rfl

@[simp] theorem node_clearBackReference (ngapId ueId : Nat) :
    (state.clearBackReference ngapId ueId).node = state.node := by
  unfold clearBackReference
  split
  · rfl
  · split <;> rfl

@[simp] theorem registry_clearBackReference (ngapId ueId : Nat) :
    (state.clearBackReference ngapId ueId).registry = state.registry := by
  unfold clearBackReference
  split
  · rfl
  · split <;> rfl

@[simp] theorem created_clearBackReference (ngapId ueId : Nat) :
    (state.clearBackReference ngapId ueId).created = state.created := by
  unfold clearBackReference
  split
  · rfl
  · split <;> rfl

theorem ranUe_clearBackReference (ngapId ueId : Nat) (ref : Ref RanUe) :
    (state.clearBackReference ngapId ueId).ranUe ref =
      if state.findRanUe ngapId = some ref ∧ (state.ranUe ref).ueId = some ueId then
        { state.ranUe ref with ueId := none }
      else state.ranUe ref := by
  unfold clearBackReference
  cases hfind : state.findRanUe ngapId with
  | none => simp
  | some found =>
      simp only [Option.some.injEq]
      by_cases hback : (state.ranUe found).ueId = some ueId
      · rw [if_pos hback]
        by_cases heq : found = ref
        · subst heq
          simp [hback, modifyRanUe]
        · simp [modifyRanUe, heq]
      · rw [if_neg hback, if_neg]
        rintro ⟨heq, hother⟩
        subst heq
        exact hback hother

/-! ## Detaching -/

theorem ue_detach (ref other : Ref Ue) (access : AccessType) :
    (state.detach ref access).ue other =
      if ref = other then (state.ue ref).clearSlot access else state.ue other := by
  dsimp only [detach]
  split <;> simp

@[simp] theorem node_detach (ref : Ref Ue) (access : AccessType) :
    (state.detach ref access).node = state.node := by
  dsimp only [detach]
  split <;> simp

@[simp] theorem registry_detach (ref : Ref Ue) (access : AccessType) :
    (state.detach ref access).registry = state.registry := by
  dsimp only [detach]
  split <;> simp

@[simp] theorem created_detach (ref : Ref Ue) (access : AccessType) :
    (state.detach ref access).created = state.created := by
  dsimp only [detach]
  split <;> simp

/-- Detaching clears the back reference of the RAN UE the slot resolves to, if it names the UE. -/
theorem ranUe_detach (ref : Ref Ue) (access : AccessType) (other : Ref RanUe) :
    (state.detach ref access).ranUe other =
      if ((state.ue ref).slot access).bind state.findRanUe = some other ∧
          (state.ranUe other).ueId = some (state.ue ref).id then
        { state.ranUe other with ueId := none }
      else state.ranUe other := by
  dsimp only [detach]
  cases hslot : (state.ue ref).slot access with
  | none => simp
  | some ngapId =>
      simp only [Option.bind_some, ranUe_clearBackReference, ranUe_setUe]
      rfl

theorem ueId_detach (ref : Ref Ue) (access : AccessType) (other : Ref RanUe) (id : Nat) :
    ((state.detach ref access).ranUe other).ueId = some id ↔
      (state.ranUe other).ueId = some id ∧
        ¬ (((state.ue ref).slot access).bind state.findRanUe = some other ∧
          id = (state.ue ref).id) := by
  rw [ranUe_detach, RanUe.ueId_cleared]

/-! ## Releasing a RAN UE -/

@[simp] theorem ranUe_leaveCollection (node : Ref RadioNode) (key : Int) (ref : Ref RanUe) :
    (state.leaveCollection node key ref).ranUe = state.ranUe := rfl

@[simp] theorem registry_leaveCollection (node : Ref RadioNode) (key : Int) (ref : Ref RanUe) :
    (state.leaveCollection node key ref).registry = state.registry := rfl

@[simp] theorem created_leaveCollection (node : Ref RadioNode) (key : Int) (ref : Ref RanUe) :
    (state.leaveCollection node key ref).created = state.created := rfl

theorem node_leaveCollection (node other : Ref RadioNode) (key : Int) (ref : Ref RanUe) :
    (state.leaveCollection node key ref).node other =
      if node = other then
        { state.node node with ranUes := (state.node node).ranUes.eraseIf key (· = ref) }
      else state.node other := by
  simp [leaveCollection, modifyNode]

@[simp] theorem ue_leavePool (ref : Ref RanUe) : (state.leavePool ref).ue = state.ue := by
  dsimp only [leavePool]
  split <;> rfl

@[simp] theorem node_leavePool (ref : Ref RanUe) : (state.leavePool ref).node = state.node := by
  dsimp only [leavePool]
  split <;> rfl

@[simp] theorem ranUe_leavePool (ref : Ref RanUe) : (state.leavePool ref).ranUe = state.ranUe := by
  dsimp only [leavePool]
  split <;> rfl

@[simp] theorem created_leavePool (ref : Ref RanUe) :
    (state.leavePool ref).created = state.created := by
  dsimp only [leavePool]
  split <;> rfl

theorem registry_leavePool (ref : Ref RanUe) :
    (state.leavePool ref).registry =
      if state.RanUeRegistered ref then
        { state.registry with
          ranUes := state.registry.ranUes.erase (state.ranUe ref).ngapId
          ngapIds := state.registry.ngapIds.free (NgapId.toSigned (state.ranUe ref).ngapId) }
      else state.registry := by
  by_cases hregistered : state.RanUeRegistered ref
  · have hfind : state.findRanUe (state.ranUe ref).ngapId = some ref := hregistered
    simp only [leavePool, if_pos hfind, if_pos hregistered]
  · have hfind : ¬ state.findRanUe (state.ranUe ref).ngapId = some ref := hregistered
    simp only [leavePool, if_neg hfind, if_neg hregistered]

/-- The state in which a RAN UE is marked as removed and its UE has let go of it, but which still
registers it. -/
def disown (ref : Ref RanUe) : State :=
  let marked := state.setRanUe ref { state.ranUe ref with removed := true, ueId := none }
  match state.ueOfRanUe ref with
  | none => marked
  | some ue => marked.modifyUe ue (·.unlink (state.ranUe ref).ngapId)

theorem release_eq (ref : Ref RanUe) :
    state.release ref =
      (match state.findNode (state.ranUe ref).nodeId with
        | none => state.disown ref
        | some node =>
          (state.disown ref).leaveCollection node (state.ranUe ref).key ref).leavePool ref := by
  have hfind : ∀ id, (state.disown ref).findNode id = state.findNode id := by
    intro id
    dsimp only [disown]
    split <;> rfl
  rw [← hfind]
  rfl

@[simp] theorem node_disown (ref : Ref RanUe) : (state.disown ref).node = state.node := by
  dsimp only [disown]
  split <;> rfl

@[simp] theorem registry_disown (ref : Ref RanUe) :
    (state.disown ref).registry = state.registry := by
  dsimp only [disown]
  split <;> rfl

@[simp] theorem created_disown (ref : Ref RanUe) :
    (state.disown ref).created = state.created := by
  dsimp only [disown]
  split <;> rfl

theorem ranUe_disown (ref other : Ref RanUe) :
    (state.disown ref).ranUe other =
      if ref = other then { state.ranUe ref with removed := true, ueId := none }
      else state.ranUe other := by
  dsimp only [disown]
  split <;> simp [modifyUe]

theorem ue_disown (ref : Ref RanUe) (other : Ref Ue) :
    (state.disown ref).ue other =
      if state.ueOfRanUe ref = some other then
        (state.ue other).unlink (state.ranUe ref).ngapId
      else state.ue other := by
  dsimp only [disown]
  split
  next hnone => simp [hnone]
  next ue hsome =>
    by_cases heq : ue = other
    · subst heq
      simp [hsome, modifyUe]
    · simp [hsome, modifyUe, heq]

theorem ue_release (ref : Ref RanUe) (other : Ref Ue) :
    (state.release ref).ue other =
      if state.ueOfRanUe ref = some other then
        (state.ue other).unlink (state.ranUe ref).ngapId
      else state.ue other := by
  rw [release_eq, ue_leavePool, ← ue_disown]
  split <;> rfl

theorem ranUe_release (ref other : Ref RanUe) :
    (state.release ref).ranUe other =
      if ref = other then { state.ranUe ref with removed := true, ueId := none }
      else state.ranUe other := by
  rw [release_eq, ranUe_leavePool, ← ranUe_disown]
  split <;> rfl

theorem ranUe_release_of_ne {state : State} {ref other : Ref RanUe} (hne : other ≠ ref) :
    (state.release ref).ranUe other = state.ranUe other := by
  rw [ranUe_release, if_neg (Ne.symm hne)]

theorem ngapId_release (ref other : Ref RanUe) :
    ((state.release ref).ranUe other).ngapId = (state.ranUe other).ngapId := by
  rw [ranUe_release]
  split
  next heq => rw [heq]
  next => rfl

theorem node_release (ref : Ref RanUe) (other : Ref RadioNode) :
    (state.release ref).node other =
      if state.findNode (state.ranUe ref).nodeId = some other then
        { state.node other with
          ranUes := (state.node other).ranUes.eraseIf (state.ranUe ref).key (· = ref) }
      else state.node other := by
  rw [release_eq, node_leavePool]
  split
  next hnone => simp [hnone]
  next node hsome =>
    rw [node_leaveCollection, node_disown, hsome]
    by_cases heq : node = other
    · subst heq
      simp
    · simp [heq]

theorem registry_release (ref : Ref RanUe) :
    (state.release ref).registry =
      if state.RanUeRegistered ref then
        { state.registry with
          ranUes := state.registry.ranUes.erase (state.ranUe ref).ngapId
          ngapIds := state.registry.ngapIds.free (NgapId.toSigned (state.ranUe ref).ngapId) }
      else state.registry := by
  rw [release_eq, registry_leavePool]
  have hid : ((state.disown ref).ranUe ref).ngapId = (state.ranUe ref).ngapId := by
    rw [ranUe_disown, if_pos rfl]
  have hregistered : (state.disown ref).RanUeRegistered ref ↔ state.RanUeRegistered ref := by
    simp only [RanUeRegistered, findRanUe, registry_disown, hid]
  have hsame (node : Ref RadioNode) (key : Int) :
      ((state.disown ref).leaveCollection node key ref).RanUeRegistered ref ↔
        (state.disown ref).RanUeRegistered ref := Iff.rfl
  split <;>
    simp only [hsame, hregistered, ranUe_leaveCollection, registry_leaveCollection,
      registry_disown, hid]

@[simp] theorem created_release (ref : Ref RanUe) :
    (state.release ref).created = state.created := by
  rw [release_eq, created_leavePool]
  split <;> simp

end State

end AccessMobility
