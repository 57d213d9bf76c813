import AccessMobility.Proofs.LocationHistory

/-!
# Changes of tracking area

A UE is in the tracking area of the last location update that was delivered to it, whatever kind the
update was of and whichever RAN UE it came through.  Its flag says that the tracking area code
changed from one delivered update to the next and that this was not acknowledged since.  The codes
of two cell reports are the same exactly if their octets are, because hexadecimal text determines
the octets.
-/

namespace AccessMobility

theorem Hex.encode_injective {left right : List UInt8} (heq : Hex.encode left = Hex.encode right) :
    left = right := by
  have hdigits : Hex.digits left = Hex.digits right := String.ofList_injective heq
  have hoctets := Hex.octets?_digits left
  rw [hdigits, Hex.octets?_digits, Option.some.injEq] at hoctets
  exact hoctets.symm

/-- The cell a report names, NR or E-UTRA. -/
def LocationReport.cell? : LocationReport → Option CellReport
  | nr report | eutra report => some report
  | n3iwf _ => none

theorem LocationReport.tai_of_cell {report : LocationReport} {cell : CellReport}
    (hcell : report.cell? = some cell) (operatorTai : Option Tai) :
    report.tai operatorTai = Tai.ofReported cell.tai := by
  cases report with
  | nr _ | eutra _ =>
      rw [cell?, Option.some.injEq] at hcell
      rw [← hcell]
      rfl
  | n3iwf _ => cases hcell

/-- Cell reports put a UE under the same tracking area code exactly if they name it in the same
octets. -/
theorem LocationReport.tac_eq_iff {left right : LocationReport} {leftCell rightCell : CellReport}
    (hleft : left.cell? = some leftCell) (hright : right.cell? = some rightCell)
    (leftTai rightTai : Option Tai) :
    (left.tai leftTai).tac = (right.tai rightTai).tac ↔
      leftCell.tai.tac = rightCell.tai.tac := by
  rw [tai_of_cell hleft, tai_of_cell hright]
  exact ⟨Hex.encode_injective, congrArg Hex.encode⟩

namespace World

/-- The tracking area of the last update delivered to a UE; the empty one before the first. -/
def lastTai (world : World) (ue : Ref Ue) (operations : List Operation) : Tai :=
  ((world.delivered ue operations).getLast?.map LocationUpdate.tai).getD default

/-- An update was delivered to a UE with another tracking area code than the one delivered before
it, and the UE did not acknowledge it since. -/
def AreaChanged (world : World) (ue : Ref Ue) (operations : List Operation) : Prop :=
  ∃ earlier update later, operations = earlier ++ LocationUpdate.call update :: later ∧
    update.state = (world.run earlier).state ∧ update.DeliveredTo ue ∧
    (world.lastTai ue earlier).tac ≠ update.tai.tac ∧ .acknowledgeLocation ue ∉ later

theorem areaChanged_nil (world : World) (ue : Ref Ue) : ¬ world.AreaChanged ue [] := by
  rintro ⟨earlier, update, later, hsplit, -⟩
  simp at hsplit

/-- One more call changes the area by an update, and keeps a change that it does not acknowledge. -/
theorem areaChanged_concat (world : World) (ue : Ref Ue) (operations : List Operation)
    (operation : Operation) :
    world.AreaChanged ue (operations ++ [operation]) ↔
      (∃ update, operation.update? (world.run operations).state = some update ∧
        update.DeliveredTo ue ∧ (world.lastTai ue operations).tac ≠ update.tai.tac) ∨
      (world.AreaChanged ue operations ∧ operation ≠ .acknowledgeLocation ue) := by
  constructor
  · rintro ⟨earlier, update, later, hsplit, hstate, hdelivered, htac, hlater⟩
    rcases List.eq_nil_or_concat later with rfl | ⟨middle, last, rfl⟩
    · obtain ⟨rfl, hcall⟩ := List.append_inj' hsplit rfl
      obtain rfl := List.singleton_inj.mp hcall
      exact Or.inl ⟨update, Operation.update?_eq_some.mpr ⟨rfl, hstate⟩, hdelivered, htac⟩
    · right
      have hsplit' : operations ++ [operation] =
          (earlier ++ update.call :: middle) ++ [last] := by simpa using hsplit
      obtain ⟨rfl, hlast⟩ := List.append_inj' hsplit' rfl
      obtain rfl := List.singleton_inj.mp hlast
      simp only [List.concat_eq_append, List.mem_append, List.mem_singleton, not_or] at hlater
      exact ⟨⟨earlier, update, middle, rfl, hstate, hdelivered, htac, hlater.1⟩,
        Ne.symm hlater.2⟩
  · rintro (⟨update, hupdate, hdelivered, htac⟩ | ⟨⟨earlier, update, later, rfl, hstate,
      hdelivered, htac, hlater⟩, hkept⟩)
    · obtain ⟨rfl, hstate⟩ := Operation.update?_eq_some.mp hupdate
      exact ⟨operations, update, [], rfl, hstate, hdelivered, htac, List.not_mem_nil⟩
    · refine ⟨earlier, update, later ++ [operation], by simp, hstate, hdelivered, htac, ?_⟩
      simp [hlater, Ne.symm hkept]

open State

theorem run_lastTai {config : Config} {operations : List Operation} {ue : Ref Ue}
    (hthere : ¬ ((opened config).run operations).state.Gone ue) :
    (((opened config).run operations).state.ueWhereabouts ue).1.2 =
      (opened config).lastTai ue operations := by
  rw [run_ueWhereabouts hthere, lastTai]
  cases ((opened config).delivered ue operations).getLast? <;> rfl

/-- As long as a UE is not gone, its flag is raised exactly after a change of area. -/
theorem run_flag_iff {config : Config} {operations : List Operation} {ue : Ref Ue}
    (hthere : ¬ ((opened config).run operations).state.Gone ue) :
    (((opened config).run operations).state.ueWhereabouts ue).2 = true ↔
      (opened config).AreaChanged ue operations := by
  induction operations using List.reverseRecOn with
  | nil =>
      have hnone : ¬ ((opened config).run []).state.entities.ues.Holds ue := Nat.not_lt_zero _
      rw [ueWhereabouts, if_neg hnone]
      exact iff_of_false Bool.false_ne_true (areaChanged_nil _ ue)
  | append_singleton operations operation ih =>
      have hbefore := not_gone_before hthere
      have hnumbered := (run_sound config operations).toWellNumbered
      rw [areaChanged_concat, ← ih hbefore, ← run_lastTai hbefore, run_concat]
      cases hupdate : operation.update? ((opened config).run operations).state with
      | none =>
          rcases Operation.unlocating_of_update? hupdate with hunlocating | ⟨other, rfl⟩
          · rw [(perform_sameWhereabouts hnumbered hunlocating).ue]
            have hkept : operation ≠ .acknowledgeLocation ue := by
              rintro rfl
              exact hunlocating
            simp [hkept]
          · rw [ueWhereabouts_acknowledge]
            simp
      | some update =>
          obtain ⟨rfl, hstate⟩ := Operation.update?_eq_some.mp hupdate
          have hkept : update.call ≠ .acknowledgeLocation ue := by
            intro heq
            cases heq
          rw [ueWhereabouts_update hnumbered hbefore hstate]
          by_cases hdelivered : update.DeliveredTo ue
          · simp [hdelivered, hkept, or_comm]
          · simp [hdelivered, hkept]

/-- A call that is no delivered update keeps the tracking area, and the flag too if it does not
acknowledge it. -/
theorem ueWhereabouts_of_not_delivered {world : World} (hnumbered : world.state.WellNumbered)
    {ue : Ref Ue} (hthere : ¬ world.state.Gone ue) {operation : Operation}
    (hnot : ∀ update, operation.update? world.state = some update → ¬ update.DeliveredTo ue) :
    ((world.perform operation).state.ueWhereabouts ue).1 = (world.state.ueWhereabouts ue).1 ∧
      (operation ≠ .acknowledgeLocation ue →
        ((world.perform operation).state.ueWhereabouts ue).2 =
          (world.state.ueWhereabouts ue).2) := by
  cases hupdate : operation.update? world.state with
  | none =>
      rcases Operation.unlocating_of_update? hupdate with hunlocating | ⟨other, rfl⟩
      · rw [(perform_sameWhereabouts hnumbered hunlocating).ue]
        exact ⟨rfl, fun _ => rfl⟩
      · rw [ueWhereabouts_acknowledge]
        refine ⟨rfl, fun hother => ?_⟩
        have hne : other ≠ ue := fun heq => hother (heq ▸ rfl)
        simp [hne]
  | some update =>
      have hdelivered := hnot update hupdate
      obtain ⟨rfl, hstate⟩ := Operation.update?_eq_some.mp hupdate
      rw [ueWhereabouts_update hnumbered hthere hstate]
      dsimp only
      rw [if_neg hdelivered]
      exact ⟨rfl, fun _ => rfl⟩

/-- A registered UE is in the tracking area of the last update delivered to it, and its flag is
raised exactly if since the last acknowledgement an update came with another code than the one
before.  The codes of cell reports are equal exactly if their octets are. -/
theorem run_locationChanged_iff (config : Config) (operations : List Operation) {ue : Ref Ue}
    (hregistered : ((opened config).run operations).state.UeRegistered ue) :
    let world := opened config
    let ueAfter (operations : List Operation) := (world.run operations).state.ue ue
    (ueAfter operations).tai = world.lastTai ue operations ∧
    ((ueAfter operations).locationChanged = true ↔ world.AreaChanged ue operations) ∧
    (∀ earlier operation later, operations = earlier ++ operation :: later →
      (world.run earlier).state.entities.ues.Holds ue →
      (∀ update, operation.update? (world.run earlier).state = some update →
        ¬ update.DeliveredTo ue) →
      (ueAfter (earlier ++ [operation])).tai = (ueAfter earlier).tai ∧
        (operation ≠ .acknowledgeLocation ue →
          (ueAfter (earlier ++ [operation])).locationChanged =
            (ueAfter earlier).locationChanged)) ∧
    ∀ (left right : LocationUpdate) (leftCell rightCell : CellReport),
      left.report.cell? = some leftCell → right.report.cell? = some rightCell →
        (left.tai.tac = right.tai.tac ↔ leftCell.tai.tac = rightCell.tai.tac) := by
  intro world ueAfter
  have hthere := not_gone_of_registered hregistered
  have hwhereabouts := ueWhereabouts_of_registered hregistered
  refine ⟨?_, ?_, ?_, fun left right leftCell rightCell hleft hright =>
    LocationReport.tac_eq_iff hleft hright _ _⟩
  · have htai := run_lastTai hthere
    rw [hwhereabouts] at htai
    exact htai
  · have hflag := run_flag_iff hthere
    rw [hwhereabouts] at hflag
    exact hflag
  · rintro earlier operation later rfl hholds hnot
    have hsound := run_sound config earlier
    obtain ⟨hseen, hflag⟩ := ueWhereabouts_of_not_delivered hsound.toWellNumbered
      (not_gone_before hthere) hnot
    have hstays : ((world.run earlier).perform operation).state.entities.ues.Holds ue :=
      Nat.lt_of_lt_of_le hholds (created_le_run hsound [operation]).1
    rw [ueWhereabouts, ueWhereabouts, if_pos hholds, if_pos hstays] at hseen hflag
    have hafter : ueAfter (earlier ++ [operation]) =
        ((world.run earlier).perform operation).state.ue ue :=
      congrArg (fun world : World => world.state.ue ue) (run_concat world earlier operation)
    rw [hafter]
    exact ⟨congrArg Prod.snd hseen, hflag⟩

/-- After an acknowledged NR report, an N3IWF report over the other access stays in the area, which
is the one the operator defines, and a further NR report leaves it. -/
theorem locationChanged_over_both_accesses :
    let cell (tac : List UInt8) : CellReport :=
      { tai := ⟨[0, 241, 16], tac⟩, cellPlmn := [0, 241, 16]
        cell := ⟨[0, 0, 0, 0, 16], 36⟩, timestamp := some [0, 0, 0, 0] }
    let address : InterworkingReport := { address := ⟨[10, 0, 0, 1], 32⟩, portNumber := [4, 0] }
    let earlier : List Operation :=
      [.newUe "imsi-001010000000001", .newNode ⟨1⟩, .newNode ⟨2⟩, .setAccess ⟨1⟩ .nonThreeGpp,
        .newRanUe ⟨0⟩ 1, .newRanUe ⟨1⟩ 1, .attach ⟨0⟩ ⟨0⟩, .attach ⟨0⟩ ⟨1⟩,
        .updateLocation ⟨0⟩ (some (.nr (cell [0, 0, 1]))) default, .acknowledgeLocation ⟨0⟩,
        .updateLocation ⟨1⟩ (some (.n3iwf address)) default]
    let operations := earlier ++ [.updateLocation ⟨0⟩ (some (.nr (cell [0, 0, 2]))) default]
    let world := opened Config.standard
    let ueAfter (operations : List Operation) := (world.run operations).state.ue ⟨0⟩
    (world.run earlier).state.UeRegistered ⟨0⟩ ∧ (world.run operations).state.UeRegistered ⟨0⟩ ∧
      (ueAfter earlier).tai = world.lastTai ⟨0⟩ earlier ∧
      (ueAfter earlier).tai.tac = "000001" ∧ ¬ world.AreaChanged ⟨0⟩ earlier ∧
      (ueAfter operations).tai = world.lastTai ⟨0⟩ operations ∧
      (ueAfter operations).tai.tac = "000002" ∧ world.AreaChanged ⟨0⟩ operations := by
  intro cell address earlier operations world ueAfter
  have hearlier : (world.run earlier).state.UeRegistered ⟨0⟩ := by decide +kernel
  have hregistered : (world.run operations).state.UeRegistered ⟨0⟩ := by decide +kernel
  obtain ⟨htaiEarlier, hflagEarlier, -⟩ := run_locationChanged_iff Config.standard earlier hearlier
  obtain ⟨htai, hflag, -⟩ := run_locationChanged_iff Config.standard operations hregistered
  have hlowered : ¬ (ueAfter earlier).locationChanged = true := by decide +kernel
  have hraised : (ueAfter operations).locationChanged = true := by decide +kernel
  exact ⟨hearlier, hregistered, htaiEarlier, by decide +kernel,
    fun hchanged => hlowered (hflagEarlier.mpr hchanged),
    htai, by decide +kernel, hflag.mp hraised⟩

end World

end AccessMobility
