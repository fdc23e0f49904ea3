import Resiprocate.TransitionSystem
import Resiprocate.StreamMachine
import Resiprocate.MsgHeaderScannerValues
import Resiprocate.ConnectionMessages
import Resiprocate.ConnectionWrite
import Resiprocate.WsFrameExtractorRoundTrip
import Resiprocate.WsFrameExtractorDelivery
import Resiprocate.TransactionSoundness
import Resiprocate.TransactionClientResponses
import Resiprocate.TransactionClientTimers
import Resiprocate.TransactionClientResends
import Resiprocate.TransactionServerResponses
import Resiprocate.TransactionServerAbandon
import Resiprocate.TransactionStateless
import Resiprocate.TransactionControllerTimers
import Resiprocate.TransactionControllerReliability
import Resiprocate.TurnManagerCalls
import Resiprocate.ChannelBindings
import Resiprocate.RelayPorts
import Resiprocate.ParseBuffer
import Resiprocate.ProgramLogic
import Resiprocate.StunParseBounds
import Resiprocate.StunRoundTrip
import Resiprocate.ParseBufferRuns
import Resiprocate.Mime
import Resiprocate.TurnPermissions
import Resiprocate.SrvOrder
import Resiprocate.BestResponse
import Resiprocate.FinalResponse
import Resiprocate.NoNewBranch
import Resiprocate.RequestProgress
import Resiprocate.TargetRuns
import Resiprocate.SessionTimer
import Resiprocate.RemoteTarget
import Resiprocate.LocalCSeq
import Resiprocate.InviteSession
import Resiprocate.ServerInviteSession
import Resiprocate.ServerSessionRuns
import Resiprocate.AfterAnswer
import Resiprocate.AnswerSteps
import Resiprocate.AnsweredOnce
import Resiprocate.PrackSteps
import Resiprocate.ProvisionalAssertion
import Resiprocate.PrackAnswered
import Resiprocate.RegistrationDatabase
import Resiprocate.RegistrationLocks
import Resiprocate.ServerRegistration
import Resiprocate.RegistrationRollback
import Resiprocate.QueuedRefresh
import Resiprocate.ChallengeRuns
import Resiprocate.NitQueue
import Resiprocate.DnsReads
import Resiprocate.DnsRuns
import Resiprocate.TokenHash
import Resiprocate.Base64
import Resiprocate.PercentCoding
import Resiprocate.XmlCharData
import Resiprocate.RecordCacheAnswers
import Resiprocate.ConnectionRuns
import Resiprocate.HexCoding
import Resiprocate.DecimalCoding
import Resiprocate.DataReplace
import Resiprocate.IntegerParsing
import Resiprocate.FlowToken
import Resiprocate.UriAssignment
import Resiprocate.UriEquality
import Resiprocate.UriCanonicalHost
import Resiprocate.ConnectionKeepalives
import Resiprocate.ClientChannels
import Resiprocate.ChannelData
import Resiprocate.ExtensionParameters
import Resiprocate.TransactionHash
import Resiprocate.MultipartAssignment
import Resiprocate.EncoderBounds
import Resiprocate.ViaRoundTrip
import Resiprocate.UdpResponseMap
import Resiprocate.ActiveDestination
import Resiprocate.PreferredRecords
import Resiprocate.ContactRoundTrip
import Resiprocate.MediumCodecs
import Resiprocate.AckUnanswered
import Resiprocate.SessionEnd
import Resiprocate.Retransmission200
import Resiprocate.ReliableProvisionals
import Resiprocate.RWMutex
