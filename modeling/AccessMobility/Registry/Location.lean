import AccessMobility.Registry.State

/-!
# Location updates

A report belongs to a RAN UE.  The UE it is attached to takes over what the RAN UE knows, and notes
a change of tracking area code.
-/

namespace AccessMobility.World

/-- Merge a location report into a RAN UE; the UE it is attached to takes the result over.  Without
a report nothing happens. -/
def updateLocation (world : World) (ref : Ref RanUe) (report : Option LocationReport)
    (now : Instant) : World :=
  match report with
  | none => world
  | some report =>
    let operatorTai := world.state.registry.operatorTai
    let ranUe := world.state.ranUe ref
    let location := report.merge operatorTai now ranUe.location
    let tai := report.tai operatorTai
    let world := world.noteAll (report.remarks operatorTai)
    let world := world.modify (·.setRanUe ref { ranUe with location, tai })
    let world := world.note (.located ranUe.ngapId tai.plmnId tai.tac)
    match world.state.ueOfRanUe ref with
    | none => world
    | some ueRef =>
      let ue := world.state.ue ueRef
      let world :=
        if ue.tai.tac = tai.tac then world
        else world.note (.tacChanged ue.supi ue.tai.tac tai.tac)
      world.modify (·.setUe ueRef (ue.takeLocation location tai))

end AccessMobility.World
