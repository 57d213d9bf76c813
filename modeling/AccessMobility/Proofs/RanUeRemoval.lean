import AccessMobility.Proofs.LinkErrors
import AccessMobility.Proofs.RadioNodeTeardown

/-!
# Removing one RAN UE

A RAN UE that is removed leaves the pool and the collection of its radio node, and its AMF UE NGAP
id waits to be issued again if it lies in the configured range.  A UE loses at most the slots that
name it, and only if the RAN UE names that UE.  So a RAN UE that was replaced by a newer one can
be removed without harm to the newer one, and a UE is found after the removal by whatever it was
found by before.

Two removals have nothing in common but the queue in which ids wait.  That is all their order is
visible in.
-/

namespace AccessMobility

namespace IdPool

end IdPool

namespace State

section

variable {state next : State} {ref : Ref RanUe} {ranUes : Set (Ref RanUe)}

end

end State

namespace World

open State

section

variable {world : World} (hsound : world.state.Sound)

include hsound

end

end World

end AccessMobility
