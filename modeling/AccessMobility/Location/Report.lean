import AccessMobility.Address.Transport
import AccessMobility.Location.Basic
import AccessMobility.Log

/-!
# Location reports

User location information as a radio node sends it, and the user location it stands for.  Octets
are taken as they come; none of the decoders fails.  A report replaces the location of its own kind
and no other.
-/

namespace AccessMobility

/-- A tracking area identity in octets. -/
structure ReportedTai where
  plmn : List UInt8
  tac : List UInt8
  deriving DecidableEq, Inhabited

/-- A location in a cell, NR or E-UTRA. -/
structure CellReport where
  tai : ReportedTai
  cellPlmn : List UInt8
  cell : BitString
  /-- Seconds since 1900 in four octets. -/
  timestamp : Option (List UInt8)
  deriving DecidableEq, Inhabited

/-- A location behind a non-3GPP interworking function. -/
structure InterworkingReport where
  address : BitString
  portNumber : List UInt8
  deriving DecidableEq, Inhabited

inductive LocationReport where
  | nr (report : CellReport)
  | eutra (report : CellReport)
  | n3iwf (report : InterworkingReport)
  deriving DecidableEq

/-- The identity a radio node reported. -/
def Tai.ofReported (reported : ReportedTai) : Tai :=
  { plmnId := PlmnId.ofOctets reported.plmn, tac := Hex.encode reported.tac }

namespace CellReport

/-- The time sent with the report, if it is a time. -/
def sentTime? (report : CellReport) : Option Instant :=
  report.timestamp.bind Instant.ofOctets?

/-- A location with a sent time is fresh; without one its age is unknown. -/
def age (report : CellReport) : Option Int32 :=
  report.sentTime?.map fun _ => 0

/-- The sent time, or else the time of arrival. -/
def time (report : CellReport) (now : Instant) : Instant :=
  report.sentTime?.getD now

def nrLocation (report : CellReport) (now : Instant) : NrLocation :=
  { tai := Tai.ofReported report.tai
    cell := { plmnId := PlmnId.ofOctets report.cellPlmn, nrCellId := report.cell.hex }
    age := report.age
    timestamp := some (report.time now) }

def eutraLocation (report : CellReport) (now : Instant) : EutraLocation :=
  { tai := Tai.ofReported report.tai
    cell := { plmnId := PlmnId.ofOctets report.cellPlmn, eutraCellId := report.cell.hex }
    age := report.age
    timestamp := some (report.time now) }

/-- What is told about the octets of a report. -/
def remarks (report : CellReport) : List LogRecord :=
  let plmn (octets : List UInt8) : List LogRecord :=
    if PlmnId.padded octets then [.shortPlmn octets] else []
  let time : List LogRecord :=
    match report.timestamp with
    | some octets => if report.sentTime?.isNone then [.invalidTimestamp octets] else []
    | none => []
  plmn report.tai.plmn ++ time ++ plmn report.cellPlmn

end CellReport

namespace InterworkingReport

/-- The tracking area is the one the operator defines for non-3GPP access. -/
def location (report : InterworkingReport) (operatorTai : Option Tai) : N3gaLocation :=
  let address := TransportAddress.ofBitString report.address
  { tai := operatorTai
    ipv4 := address.ipv4
    ipv6 := address.ipv6
    portNumber := PortNumber.ofOctets? report.portNumber }

def remarks (report : InterworkingReport) (operatorTai : Option Tai) : List LogRecord :=
  let address : List LogRecord :=
    if TransportAddress.Supported report.address then []
    else [.unsupportedAddress report.address.octets report.address.bitLength]
  address ++ if operatorTai.isNone then [.noServedTai] else []

end InterworkingReport

namespace LocationReport

/-- The tracking area a report puts the UE in. -/
def tai (report : LocationReport) (operatorTai : Option Tai) : Tai :=
  match report with
  | nr report | eutra report => Tai.ofReported report.tai
  | n3iwf _ => operatorTai.getD default

/-- Replace the location of the kind reported. -/
def merge (report : LocationReport) (operatorTai : Option Tai) (now : Instant)
    (location : UserLocation) : UserLocation :=
  match report with
  | nr report => { location with nr := some (report.nrLocation now) }
  | eutra report => { location with eutra := some (report.eutraLocation now) }
  | n3iwf report => { location with n3ga := some (report.location operatorTai) }

def remarks (report : LocationReport) (operatorTai : Option Tai) : List LogRecord :=
  match report with
  | nr report | eutra report => report.remarks
  | n3iwf report => report.remarks operatorTai

end LocationReport

end AccessMobility
