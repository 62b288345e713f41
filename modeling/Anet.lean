import Anet.ApprovalEffects
import Anet.ConsumerCursor
import Anet.ConsumerLeases
import Anet.TaskCancellation
import Anet.TaskExecutions
import Anet.TaskLiveness
import Anet.PeerPrekeys
import Anet.GatewayOutbox
import Anet.GatewayLog
import Anet.GatewayCancellation
import Anet.GatewayReports
import Anet.Revocation
import Anet.LocalPrekeys
import Anet.LinkAuthentication
import Anet.PeerLedger
import Anet.AhubRelay
import Anet.ControlLedger
import Anet.AhubPublication
import Anet.AhubReplay
import Anet.AhubCustody
import Anet.RouteHysteresis
import Anet.CompanionGuarantees
import Anet.CarrierMailbox
import Anet.ControlTrust
import Anet.DisclosureRuns
import Anet.RouteOutbox
import Anet.ClaimConvergence
import Anet.ScheduleRevocation
import Anet.GapRecovery
import Anet.RelationshipRuns
import Anet.RelationshipReading
import Anet.DiscordRuns
import Anet.GatewayTaskIds
import Anet.GatewayDispatch
import Anet.DeliveryMarks
import Anet.AhubDrain
import Anet.PacketBundles
import Anet.DiscoveryFeeds
import Anet.ControlRoundTrip
import Anet.EffectConnector
import Anet.EffectGates
import Anet.FeedRecovery
import Anet.RateLimiter
import Anet.RelationshipAdvisor
import Anet.SocialEvaluation
import Anet.DiscordProjection
import Anet.FriendCodes
import Anet.TaskMessages
import Anet.ApprovalAnswers
import Anet.CompanionProjection
import Anet.SyncNetwork
