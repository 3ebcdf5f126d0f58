import PeerLanding.Runs
import PeerLanding.FurtherBids
import PeerLanding.Settlement
import PeerLanding.Exchange.RestRequest
import PeerLanding.Exchange.Steps
import PeerLanding.AuctionLifecycle
import PeerLanding.EmissionLifecycle
import PeerLanding.AuctionMirror
import PeerLanding.EmissionMirror
import PeerLanding.Rates
import PeerLanding.ClearingRate
import PeerLanding.Frontend
import PeerLanding.Survival
import PeerLanding.Identity
import PeerLanding.PositiveRates
import PeerLanding.Mailbox
import PeerLanding.SessionSteps
import PeerLanding.LiveSessions
import PeerLanding.LockedAccounts
import PeerLanding.Attribution
import PeerLanding.Holdings
import PeerLanding.Network
import PeerLanding.Roles
import PeerLanding.RequestReplies
import PeerLanding.ReplyOrder
import PeerLanding.Chunks
import PeerLanding.Wire
import PeerLanding.Framing
import PeerLanding.ThreadSteps
import PeerLanding.AuctionOrder
import PeerLanding.AuctionSteps
import PeerLanding.AuctionIds
import PeerLanding.DropBoxes
import PeerLanding.ThreadBids
import PeerLanding.CountedBids
import PeerLanding.Unwinding
import PeerLanding.Independence
import PeerLanding.KeptBids
import PeerLanding.Updates
import PeerLanding.EmissionFlags
import PeerLanding.Deliveries
import PeerLanding.Directory.Lookups
import PeerLanding.BidNumbers
import PeerLanding.ExactLookups
import PeerLanding.Parts
import PeerLanding.RequestOutlines
import PeerLanding.Serial
import PeerLanding.Serializability
import PeerLanding.ThreadMirror
import PeerLanding.Protocolo.Agreement
import PeerLanding.Protocolo.Merges
import PeerLanding.Broadcasts
import PeerLanding.SentNumbers
