import AccessMobility.Config.Loading
import AccessMobility.Json.Printer
import AccessMobility.Json.Reader
import AccessMobility.Proofs.ConnectionIndex
import AccessMobility.Proofs.DeregisteredUe
import AccessMobility.Proofs.IdPoolOutstanding
import AccessMobility.Proofs.LinkSymmetry
import AccessMobility.Proofs.RefusedCalls
import AccessMobility.Proofs.RunSoundness
import AccessMobility.Proofs.TmsiConservation
import AccessMobility.Proofs.UeIsolation
import AccessMobility.Registry.Location
import AccessMobility.Registry.Node
import AccessMobility.Registry.Subscription
import AccessMobility.Registry.Summary
import AccessMobility.Proofs.RadioNodeReset
import AccessMobility.Proofs.RadioNodeTeardown
import AccessMobility.Proofs.IdPoolHistory
import AccessMobility.Proofs.NodeCapacity
import AccessMobility.Proofs.IndexAgreement
import AccessMobility.Proofs.RemovedObjects
import AccessMobility.Proofs.AreaChange
import AccessMobility.Proofs.LinkErrors
import AccessMobility.Proofs.Replacement
import AccessMobility.Proofs.AttachmentOrder
import AccessMobility.Proofs.SubscriptionIds
import AccessMobility.Proofs.IdentifierRanges
import AccessMobility.Proofs.ReportContent
import AccessMobility.Proofs.ReportDecoding
import AccessMobility.Proofs.LocationMerge
import AccessMobility.Proofs.AttachmentEffect
import AccessMobility.Proofs.PlmnCoding
import AccessMobility.Proofs.ServedArea
import AccessMobility.Proofs.JsonShape
import AccessMobility.Proofs.JsonRoundTrip
import AccessMobility.Proofs.Handover
import AccessMobility.Proofs.RanUeRemoval
import AccessMobility.Proofs.SupiTakeover
import AccessMobility.Proofs.ConfigValidation
import AccessMobility.Proofs.PlmnDecoding
import AccessMobility.Proofs.IdPoolReuse
import AccessMobility.Proofs.SubscriptionRemoval
import AccessMobility.Proofs.TransportAddresses
