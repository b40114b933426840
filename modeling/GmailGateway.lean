import GmailGateway.Effect.Proc
import GmailGateway.Effect.Pool
import GmailGateway.Python.Text
import GmailGateway.Python.Value
import GmailGateway.Errors
import GmailGateway.Store.Records
import GmailGateway.Store.Proposals
import GmailGateway.SendFsm.Fsm
import GmailGateway.SendFsm.ConcurrentConfirm
import GmailGateway.Effect.Session
import GmailGateway.SendFsm.Redispatch
import GmailGateway.Canonicalizer.Jcs
import GmailGateway.Authz.Capability
import GmailGateway.Authz.Service
import GmailGateway.Authz.Gate
import GmailGateway.Authz.Domain
import GmailGateway.Authz.GateSpec
import GmailGateway.Authz.GateState
import GmailGateway.Authz.SingleUse
import GmailGateway.Authz.AntiRollback
import GmailGateway.Authz.Mediation
import GmailGateway.Authz.FailClosed
import GmailGateway.Authz.PayloadBinding
import GmailGateway.Authz.DispatchRecord
import GmailGateway.Authz.Orchestrator
import GmailGateway.Authz.Provenance
import GmailGateway.Gateway.Persistence
import GmailGateway.Gateway.FailedWrites
import GmailGateway.Keystore.Aead
import GmailGateway.Gateway.SealedTokenStore
import GmailGateway.Gateway.TokenStoreRuns
import GmailGateway.Gateway.TokenStoreInvariants
import GmailGateway.Authz.Artifact
import GmailGateway.Authz.ControlPlane
import GmailGateway.Authz.Delivery
import GmailGateway.Authz.Veto
import GmailGateway.Python.Utf8
import GmailGateway.Python.Json
import GmailGateway.Canonicalizer.RoundTrip
import GmailGateway.Authz.DomainSeparation
import GmailGateway.Authz.Revocation
import GmailGateway.Canonicalizer.Payload
import GmailGateway.Effect.Guards
import GmailGateway.Gateway.ProposalService
import GmailGateway.Gateway.CallGuards
import GmailGateway.Gateway.ProposalRuns
import GmailGateway.Gateway.ContentFidelity
import GmailGateway.Gateway.Idempotency
import GmailGateway.SendFsm.Replay
import GmailGateway.Canonicalizer.MemberOrder
import GmailGateway.Canonicalizer.Faults
import GmailGateway.Canonicalizer.PayloadDigest
import GmailGateway.Gateway.SendPath
import GmailGateway.Gateway.Transplant
import GmailGateway.Gateway.GmailSender
import GmailGateway.Gateway.TerminalStatus
import GmailGateway.Gateway.LedgerPrivacy
import GmailGateway.Authz.Unrecorded
import GmailGateway.Gateway.AllOrNothing
import GmailGateway.Authz.CanonicalIds
import GmailGateway.Canonicalizer.ClosedSchema
import GmailGateway.Authz.HeadDigest
import GmailGateway.Gateway.ReadFailures
import GmailGateway.Python.Urllib
import GmailGateway.Gateway.Egress
import GmailGateway.Gateway.TokenRefresh
import GmailGateway.Gateway.RefreshSpec
import GmailGateway.Gateway.RefreshFailures
import GmailGateway.Gateway.RefreshingSender
import GmailGateway.Gateway.RefreshRuns
import GmailGateway.Gateway.TokenRevoke
import GmailGateway.Gateway.RevokeOutcomes
import GmailGateway.SendFsm.Expiry
import GmailGateway.Authz.DenialFrame
import GmailGateway.Python.Http
import GmailGateway.Gateway.OAuthCallback
import GmailGateway.Gateway.OAuthListener
import GmailGateway.Gateway.ProposalServer
import GmailGateway.Gateway.UniformRejection
import GmailGateway.Gateway.ProposalIds
import GmailGateway.Python.Lines
import GmailGateway.TreePin.Manifest
import GmailGateway.TreePin.Binding
import GmailGateway.Gateway.Supervisor
import GmailGateway.Gateway.SupervisorRuns
import GmailGateway.Effect.Hiding
import GmailGateway.Gateway.Backends
import GmailGateway.Gateway.EndpointCalls
import GmailGateway.Gateway.EndpointRuns
import GmailGateway.Gateway.OAuthRequests
import GmailGateway.Gateway.SendCli
