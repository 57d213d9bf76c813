import AccessMobility.Proofs.Roster

/-!
# Refused calls

Some calls look for a fault only after they have begun: a new RAN UE is in place when its radio node
is looked up once more, a radio node has lost its connection when it is looked up in the pool, and a
5G-TMSI has left its pool when its range is tested.  In a registry that was opened with a validated
configuration none of these late tests ever fails, so a call that is refused was refused before it
did anything.
-/

namespace AccessMobility

namespace World

/-- The answer to a call is an error, or that no 5G-TMSI is left. -/
def Refuses (world : World) : Operation → Prop
  | .newNode connection => (world.newNode connection).1.isOk = false
  | .newRanUe node key => (world.newRanUe node key).1.isOk = false
  | .attach ue ranUe => (world.attach ue ranUe).1.isOk = false
  | .removeRanUe ranUe => (world.removeRanUe ranUe).1.isOk = false
  | .switchNode ranUe target key => (world.switchNode ranUe target key).1.isOk = false
  | .removeNode connection => (world.removeNode connection).1.isOk = false
  | .deleteSubscription id => (world.deleteSubscription id).1.isOk = false
  | .removeSubscription id => (world.removeSubscription id).1.isOk = false
  | .reallocateGuti ue => (world.reallocateGuti ue).1 = none
  | _ => False

theorem deleteSubscription_refused {world : World} {id : String}
    (hrefused : (world.deleteSubscription id).1.isOk = false) :
    (world.deleteSubscription id).2 = world := by
  unfold deleteSubscription at hrefused ⊢
  cases hentry : world.state.registry.subscriptions[id]? with
  | none => rfl
  | some entry =>
      rw [hentry] at hrefused
      cases hrefused

/-- Dropping what the UEs keep of a subscription cannot fail. -/
theorem removeSubscription_refused {world : World} {id : String}
    (hrefused : (world.removeSubscription id).1.isOk = false) :
    (world.removeSubscription id).2 = world := by
  unfold removeSubscription at hrefused ⊢
  have hdeleted : (world.deleteSubscription id).1.isOk = false →
      (world.deleteSubscription id).2 = world := deleteSubscription_refused
  cases hcall : world.deleteSubscription id with
  | mk answer next =>
      rw [hcall] at hrefused hdeleted
      cases answer with
      | error error => exact hdeleted rfl
      | ok entry => cases hrefused

/-- The pool issues every value it has, so a UE gets no new 5G-TMSI only if the pool is
exhausted. -/
theorem reallocateGuti_refused {world : World} {ue : Ref Ue}
    (hpool : world.state.registry.tmsis.IssuesTmsis)
    (hrefused : (world.reallocateGuti ue).1 = none) :
    (world.reallocateGuti ue).2.state = world.state := by
  rcases world.reallocateGuti_cases ue with ⟨hnone, -, hstate⟩ | ⟨tmsi, -, hsome, -⟩
  · rw [allocateTmsi_eq hpool] at hnone
    rw [hstate, (IdPool.allocate_eq_self_iff _).mpr hnone]
    rfl
  · rw [hsome] at hrefused
    simp at hrefused

/-- On a sound state a call that is refused changes nothing. -/
theorem perform_refused {world : World} (hsound : world.state.Sound)
    (hpool : world.state.registry.tmsis.IssuesTmsis)
    {operation : Operation} (hrefused : world.Refuses operation) :
    (world.perform operation).state = world.state := by
  cases operation with
  | newNode connection =>
      rcases world.newNode_cases connection with
        ⟨-, error, refused, hcall, hstate⟩ | ⟨done, hcall, -⟩
      · simp only [perform, hcall, hstate]
      · simp only [Refuses, hcall] at hrefused
        cases hrefused
  | newRanUe node key =>
      rcases world.newRanUe_cases node key with
        ⟨error, refused, hcall, hstate⟩ | ⟨id, pool, done, -, -, hcall, -⟩
      · simp only [perform, hcall, hstate]
      · simp only [Refuses, hcall] at hrefused
        cases hrefused
  | attach ue ranUe =>
      rcases world.attach_cases ue ranUe with ⟨error, hcall⟩ | ⟨node, -, -, hok, -⟩
      · simp only [perform, hcall]
      · simp only [Refuses, hok] at hrefused
        cases hrefused
  | removeRanUe ranUe =>
      rcases world.removeRanUe_cases ranUe with
        ⟨-, error, refused, hcall, hstate⟩ | ⟨-, done, hcall, -⟩
      · simp only [perform, hcall, hstate]
      · simp only [Refuses, hcall] at hrefused
        cases hrefused
  | switchNode ranUe target key =>
      rcases world.switchNode_cases ranUe target key with
        ⟨-, error, hcall⟩ | ⟨source, done, -, -, -, hcall, -⟩
      · simp only [perform, hcall]
      · simp only [Refuses, hcall] at hrefused
        cases hrefused
  | removeNode connection =>
      rcases world.removeNode_cases hsound.toWellNumbered connection with
        ⟨-, error, hcall⟩ | ⟨ref, done, -, hcall, -⟩
      · simp only [perform, hcall]
      · simp only [Refuses, hcall] at hrefused
        cases hrefused
  | deleteSubscription id => exact congrArg World.state (deleteSubscription_refused hrefused)
  | removeSubscription id => exact congrArg World.state (removeSubscription_refused hrefused)
  | reallocateGuti ue => exact reallocateGuti_refused hpool hrefused
  | _ => exact hrefused.elim

/-- Whatever was called before on a registry with a validated configuration, and whatever objects a
call names, registered or gone: if it is refused, every object, pool, index, id pool and counter is
what it was. -/
theorem run_refused_unchanged {config : Config} (hvalid : config.validate = .ok ())
    (operations : List Operation) {operation : Operation}
    (hrefused : ((opened config).run operations).Refuses operation) :
    (((opened config).run operations).perform operation).state =
      ((opened config).run operations).state := by
  exact perform_refused (run_sound config operations) (run_issuesTmsis hvalid operations) hrefused

/-- With two 5G-TMSIs in all and both taken, a RAN UE of a radio node that is gone cannot be
attached, a radio node that is gone takes no RAN UE, and no UE gets another 5G-TMSI. -/
theorem refused_unchanged_exhausted :
    let config := { Config.standard with tmsis := ⟨7, 8⟩ }
    let operations : List Operation :=
      [.newUe "imsi-001010000000001", .newUe "imsi-001010000000002", .newNode ⟨1⟩,
        .newRanUe ⟨0⟩ 1, .attach ⟨0⟩ ⟨0⟩, .removeNode ⟨1⟩]
    let world := (opened config).run operations
    config.validate = .ok () ∧
      (world.Refuses (.attach ⟨0⟩ ⟨0⟩) ∧
        (world.perform (.attach ⟨0⟩ ⟨0⟩)).state = world.state) ∧
      (world.Refuses (.newRanUe ⟨0⟩ 1) ∧
        (world.perform (.newRanUe ⟨0⟩ 1)).state = world.state) ∧
      (world.Refuses (.reallocateGuti ⟨1⟩) ∧
        (world.perform (.reallocateGuti ⟨1⟩)).state = world.state) := by
  intro config operations world
  have hvalid : config.validate = .ok () := rfl
  have hattach : world.Refuses (.attach ⟨0⟩ ⟨0⟩) := by
    show (world.attach ⟨0⟩ ⟨0⟩).1.isOk = false
    decide +kernel
  have hnewRanUe : world.Refuses (.newRanUe ⟨0⟩ 1) := by
    show (world.newRanUe ⟨0⟩ 1).1.isOk = false
    decide +kernel
  have hreallocate : world.Refuses (.reallocateGuti ⟨1⟩) := by
    show (world.reallocateGuti ⟨1⟩).1 = none
    decide +kernel
  exact ⟨hvalid, ⟨hattach, run_refused_unchanged hvalid operations hattach⟩,
    ⟨hnewRanUe, run_refused_unchanged hvalid operations hnewRanUe⟩,
    ⟨hreallocate, run_refused_unchanged hvalid operations hreallocate⟩⟩

end World

end AccessMobility
