import AccessMobility.Registry.State

/-!
# Served identities and 5G-TMSIs

A 5G-TMSI is issued from the pool of the registry and, together with the first served GUAMI, forms
the 5G-GUTI of a UE.  The value that marks a missing 5G-TMSI is never given to a UE.
-/

namespace AccessMobility.World

/-- Replace the served identities. -/
def serve (world : World) (served : ServedIdentities) : World :=
  (world.note (.servedIdentitiesReplaced served.guamis.length served.tais.length)).modifyRegistry
    fun registry => { registry with served }

/-- What is told about a value given back to a pool. -/
def freeRemarks (pool : IdPool) (id : Int) : List LogRecord :=
  if pool.InRange id then [] else [.idOutOfRange id pool.min pool.max]

/-- Issue a 5G-TMSI. -/
def allocateTmsi (world : World) : Option Int × World :=
  let (value, pool) := world.state.registry.tmsis.allocate
  let world := world.modifyRegistry fun registry => { registry with tmsis := pool }
  match value with
  | none => (none, world.note (.tmsisExhausted pool.min pool.max))
  | some tmsi =>
    if tmsi < Tmsi.smallest ∨ Tmsi.largest < tmsi then (none, world.note .tmsiOutOfRange)
    else if tmsi = Tmsi.invalid then (none, world)
    else (some tmsi, world)

/-- Give a 5G-TMSI back. -/
def freeTmsi (world : World) (tmsi : Option Int) : World :=
  match tmsi with
  | none => world
  | some tmsi =>
    (world.noteAll (freeRemarks world.state.registry.tmsis tmsi)).modifyRegistry
      fun registry => { registry with tmsis := registry.tmsis.free tmsi }

/-- Give the 5G-TMSI of a UE back and leave the UE without one. -/
def surrenderTmsi (world : World) (ref : Ref Ue) : World :=
  (world.modify (·.modifyUe ref ({ · with tmsi := none }))).freeTmsi (world.state.ue ref).tmsi

/-- Give a UE a new 5G-TMSI and 5G-GUTI; nothing changes when none is left. -/
def reallocateGuti (world : World) (ref : Ref Ue) : Option Int × World :=
  match world.allocateTmsi with
  | (none, world) => (none, world)
  | (some tmsi, world) =>
    let old := world.state.ue ref
    let guti := world.state.gutiOf (some tmsi)
    let world := world.modify (·.modifyUe ref (·.replaceIdentity tmsi guti))
    let world := world.freeTmsi old.tmsi
    (some tmsi, world.note (.gutiReallocated old.supi guti))

end AccessMobility.World
