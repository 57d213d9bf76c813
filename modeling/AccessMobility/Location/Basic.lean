import AccessMobility.Identity.Form
import AccessMobility.Instant

/-!
# User locations

The location of a UE as reported to other network functions.  Each kind of location keeps the last
update of its kind.
-/

namespace AccessMobility

open Document

/-- A location in an NR cell. -/
structure NrLocation where
  tai : Tai
  cell : Ncgi
  /-- Zero when the radio node sent a time with the location. -/
  age : Option Int32
  timestamp : Option Instant
  deriving DecidableEq, Inhabited

/-- A location in an E-UTRA cell. -/
structure EutraLocation where
  tai : Tai
  cell : Ecgi
  age : Option Int32
  timestamp : Option Instant
  deriving DecidableEq, Inhabited

/-- A location behind a non-3GPP interworking function. -/
structure N3gaLocation where
  tai : Option Tai
  ipv4 : Option String
  ipv6 : Option String
  portNumber : Option UInt16
  deriving DecidableEq, Inhabited

/-- The last location of each kind. -/
structure UserLocation where
  nr : Option NrLocation
  eutra : Option EutraLocation
  n3ga : Option N3gaLocation
  deriving DecidableEq, Inhabited

namespace NrLocation

/-- The JSON form with times written by `time`. -/
def toJsonWith (time : Instant → Json) (location : NrLocation) : Json :=
  .object ([("tai", location.tai.toJson), ("ncgi", location.cell.toJson)]
    ++ Json.optional "ageOfLocationInformation" (fun age => .integer age.toInt) location.age
    ++ Json.optional "ueLocationTimestamp" time location.timestamp)

def toJson (location : NrLocation) : Json :=
  location.toJsonWith Instant.toJson

def ofJson? (json : Json) : Option NrLocation := do
  let record ← record? ["tai", "ncgi", "ageOfLocationInformation", "ueLocationTimestamp"] json
  let tai ← record.required "tai" Tai.read
  let cell ← record.required "ncgi" Ncgi.read
  let age ← record.optional "ageOfLocationInformation" int32?
  let timestamp ← record.optional "ueLocationTimestamp" Instant.ofJson?
  return { tai, cell, age, timestamp }

end NrLocation

namespace EutraLocation

/-- The JSON form with times written by `time`. -/
def toJsonWith (time : Instant → Json) (location : EutraLocation) : Json :=
  .object ([("tai", location.tai.toJson), ("ecgi", location.cell.toJson)]
    ++ Json.optional "ageOfLocationInformation" (fun age => .integer age.toInt) location.age
    ++ Json.optional "ueLocationTimestamp" time location.timestamp)

def toJson (location : EutraLocation) : Json :=
  location.toJsonWith Instant.toJson

def ofJson? (json : Json) : Option EutraLocation := do
  let record ← record? ["tai", "ecgi", "ageOfLocationInformation", "ueLocationTimestamp"] json
  let tai ← record.required "tai" Tai.read
  let cell ← record.required "ecgi" Ecgi.read
  let age ← record.optional "ageOfLocationInformation" int32?
  let timestamp ← record.optional "ueLocationTimestamp" Instant.ofJson?
  return { tai, cell, age, timestamp }

end EutraLocation

namespace N3gaLocation

def toJson (location : N3gaLocation) : Json :=
  .object (Json.optional "n3gppTai" Tai.toJson location.tai
    ++ Json.optional "ueIpv4Addr" .string location.ipv4
    ++ Json.optional "ueIpv6Addr" .string location.ipv6
    ++ Json.optional "portNumber" (fun number => .integer number.toNat) location.portNumber)

def ofJson? (json : Json) : Option N3gaLocation := do
  let record ← record? ["n3gppTai", "ueIpv4Addr", "ueIpv6Addr", "portNumber"] json
  let tai ← record.optional "n3gppTai" Tai.read
  let ipv4 ← record.optional "ueIpv4Addr" text?
  let ipv6 ← record.optional "ueIpv6Addr" text?
  let portNumber ← record.optional "portNumber" uint16?
  return { tai, ipv4, ipv6, portNumber }

end N3gaLocation

namespace UserLocation

/-- The JSON form with times written by `time`. -/
def toJsonWith (time : Instant → Json) (location : UserLocation) : Json :=
  .object (Json.optional "nrLocation" (NrLocation.toJsonWith time) location.nr
    ++ Json.optional "eutraLocation" (EutraLocation.toJsonWith time) location.eutra
    ++ Json.optional "n3gaLocation" N3gaLocation.toJson location.n3ga)

def toJson (location : UserLocation) : Json :=
  location.toJsonWith Instant.toJson

def ofJson? (json : Json) : Option UserLocation := do
  let record ← record? ["nrLocation", "eutraLocation", "n3gaLocation"] json
  let nr ← record.optional "nrLocation" NrLocation.ofJson?
  let eutra ← record.optional "eutraLocation" EutraLocation.ofJson?
  let n3ga ← record.optional "n3gaLocation" N3gaLocation.ofJson?
  return { nr, eutra, n3ga }

end UserLocation

end AccessMobility
