import OpenBus.Machine.Run
import OpenBus.Machine.Action
import OpenBus.Machine.Follows
import OpenBus.Machine.PrefixCodec
import OpenBus.Machine.Recency
import OpenBus.ToMathlib.AListRecency
import OpenBus.ToMathlib.StateTransition
import OpenBus.Model.LRUCache
import OpenBus.Model.Ticket
import OpenBus.Model.Idl
import OpenBus.Model.Hash
import OpenBus.Model.ReferencePlatform
import OpenBus.Model.CallerChain
import OpenBus.Model.LoginCache
import OpenBus.Model.Connection
import OpenBus.Model.Orb
import OpenBus.Model.ChainExport
import OpenBus.Model.Login
import OpenBus.Model.ServerInterceptor
import OpenBus.Model.RegistryCalls
import OpenBus.Model.ServerRuns
import OpenBus.Model.ClientInterceptor
import OpenBus.Model.ConnectionThreads
import OpenBus.Model.RenewThreads
import OpenBus.Model.Requests
import OpenBus.Model.Contexts
import OpenBus.Model.Sessions
import OpenBus.Model.BusLogins
import OpenBus.Model.Conversions
import OpenBus.Model.SharedAuth
import OpenBus.Model.LoginCallback
import OpenBus.Model.CallbackScript
import OpenBus.Model.LegacySupport
import OpenBus.Proofs.LRUCache
import OpenBus.Proofs.Orb
import OpenBus.Proofs.ServerInterceptor
import OpenBus.Proofs.RegistryCalls
import OpenBus.Proofs.ClientInterceptor
import OpenBus.Proofs.ConnectionThreads
import OpenBus.Proofs.RenewThreads
import OpenBus.Proofs.Contexts
import OpenBus.Proofs.Chains
import OpenBus.Proofs.Login
import OpenBus.Proofs.Sections
import OpenBus.Proofs.Sessions
import OpenBus.Proofs.LegacySupport
import OpenBus.Proofs.Exports
import OpenBus.Proofs.SharedAuth
import OpenBus.Proofs.LoginCache
import OpenBus.Proofs.LoginCallback
import OpenBus.Proofs.CallbackScript
import OpenBus.Soundness.ServerVerdict
import OpenBus.Soundness.NoReplay
import OpenBus.Soundness.CachePlaces
import OpenBus.Soundness.Handshake
import OpenBus.Soundness.ChainRoundTrip
import OpenBus.Soundness.CredentialNames
import OpenBus.Soundness.ChainCache
import OpenBus.Soundness.LoggedSetUp
import OpenBus.Soundness.InvalidLogin
import OpenBus.Soundness.TicketWindow
import OpenBus.Soundness.CurrentConnection
import OpenBus.Soundness.ConnectionEntries
import OpenBus.Soundness.JoinedChain
import OpenBus.Soundness.LogoutContext
import OpenBus.Soundness.NullLogin
import OpenBus.Soundness.SessionOrigins
import OpenBus.Soundness.OrphanLogins
import OpenBus.Soundness.ProtocolErrors
import OpenBus.Soundness.LegacySupport
import OpenBus.Soundness.CachedLogins
import OpenBus.Soundness.ClockSteps
import OpenBus.Soundness.DecodingErrors
import OpenBus.Soundness.VersionedEntries
import OpenBus.Soundness.DecodedSecret
import OpenBus.Soundness.SharedAuthFailures
import OpenBus.Soundness.ResetContainment
import OpenBus.Soundness.FailedLogin
import OpenBus.Soundness.SettledLogin
import OpenBus.Soundness.CallbackReentry
import OpenBus.Soundness.SystemReplies
import OpenBus.Soundness.TicketWrap
import OpenBus.Soundness.PurgedProfiles
import OpenBus.Soundness.CredentialPreimage
import OpenBus.Soundness.SessionSurvival
import OpenBus.Soundness.SessionSecrets
import OpenBus.Soundness.RenewThreads
import OpenBus.Soundness.CallPath
import OpenBus.Soundness.OutstandingRequests
import OpenBus.Soundness.LoginRecency
import OpenBus.Soundness.SessionStream
import OpenBus.Soundness.Negotiation
import OpenBus.Soundness.Locks
import OpenBus.Soundness.CallerAuthentication
import OpenBus.Soundness.SharedSessions
import OpenBus.Soundness.ConcurrentTickets
