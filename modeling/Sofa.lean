import Sofa.Lib.Machine
import Sofa.Lib.StateWp
import Sofa.Lib.Ledger
import Sofa.SecureOd
import Sofa.Moves
import Sofa.Server
import Sofa.Writes
import Sofa.Reads
import Sofa.Replay
import Sofa.DemoServer
import Sofa.Attribution
import Sofa.WriteSafety
import Sofa.Isolation
import Sofa.NonceUse
import Sofa.Confidential
import Sofa.Client
import Sofa.ClientMoves
import Sofa.ClientNonce
import Sofa.ReadSession
import Sofa.AccessGate
import Sofa.WriteSurvival
import Sofa.Slots
import Sofa.NonceContribution
import Sofa.RealTime
import Sofa.Residue
import Sofa.Epochs
import Sofa.Hosts
import Sofa.Commissioning
import Sofa.Challenges
import Sofa.Oblivious
import Sofa.Mechanisms
import Sofa.ReadAuthenticity
import Sofa.Replies
import Sofa.Lifecycle
import Sofa.Provisioning
import Sofa.KeyDisclosure
import Sofa.HandoverFreshness
import Sofa.UsdoServer
import Sofa.Reassembly
import Sofa.UsdoClient
import Sofa.Transfers
import Sofa.Channel
import Sofa.Honest
import Sofa.Lockstep
import Sofa.AadLayout
import Sofa.UsdoFormat
import Sofa.Transcripts
import Sofa.ReadWrite
import Sofa.RefusedCommands
import Sofa.DeviceLink
import Sofa.Recommission
import Sofa.Capabilities
import Sofa.RpkClient
import Sofa.SignedAccess
import Sofa.Lib.Pending
import Sofa.Addressing
import Sofa.Carrier
import Sofa.SharedBus
import Sofa.ReplyMatching
import Sofa.ClientKeys
import Sofa.TranscriptBuffer
import Sofa.Lib.Sha256
import Sofa.Lib.Hkdf
import Sofa.Hkdf
import Sofa.HexText
import Sofa.VoucherFile
import Sofa.Lib.CText
import Sofa.KeyFiles
import Sofa.KeyLadder
import Sofa.Framing
import Sofa.UsdoRaw
import Sofa.Lib.Reading
import Sofa.ScanReplies
import Sofa.RungWrite
import Sofa.KeyAgreement
import Sofa.HubMembers
import Sofa.HubBridge
import Sofa.WriteVerbs
import Sofa.ReadVerbs
import Sofa.GcmTable
import Sofa.MbedtlsGcm
import Sofa.VendoredAead
import Sofa.VendoredHkdf
