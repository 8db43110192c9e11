import VjBlockchain.Agentd.Envelope
import VjBlockchain.Agentd.Packet
import VjBlockchain.Agentd.ExactCode
import VjBlockchain.Common.Source
import VjBlockchain.Document.Chunks
import VjBlockchain.Document.RoundTrip
import VjBlockchain.Common.Record
import VjBlockchain.Cert.Vccert
import VjBlockchain.Cert.Model
import VjBlockchain.Cert.Emit
import VjBlockchain.Cert.Parse
import VjBlockchain.Cert.RoundTrip
import VjBlockchain.Cert.Damage
import VjBlockchain.Agentd.Messages
import VjBlockchain.Agentd.Handler
import VjBlockchain.Agentd.Layout
import VjBlockchain.Agentd.Answer
import VjBlockchain.Agentd.World
import VjBlockchain.Agentd.Agent
import VjBlockchain.Agentd.Exchange
import VjBlockchain.Agentd.Conversation
import VjBlockchain.Agentd.Invariants
import VjBlockchain.Agentd.Correctness
import VjBlockchain.Agentd.Crossing
import VjBlockchain.Agentd.Hello
import VjBlockchain.Agentd.Gate
import VjBlockchain.Client.Connection
import VjBlockchain.Client.Verdicts
import VjBlockchain.Common.History
import VjBlockchain.Agentd.Counters
import VjBlockchain.Client.Reconnect
import VjBlockchain.Agentd.Boundary
import VjBlockchain.Agentd.Submission
import VjBlockchain.Document.FirstRead
import VjBlockchain.Agentd.Acceptance
import VjBlockchain.Common.Dialogue
import VjBlockchain.Cert.Attestation
import VjBlockchain.Cert.SignedPrefix
import VjBlockchain.Crypt.SimpleStreamCipher
import VjBlockchain.Cert.Encrypted
import VjBlockchain.Cert.Recipients
import VjBlockchain.Cert.EncryptedRoundTrip
import VjBlockchain.Agentd.Receives
import VjBlockchain.Cert.NativeBounds
import VjBlockchain.Agentd.Place
import VjBlockchain.Crypt.CodeKey
import VjBlockchain.Cert.Sign
import VjBlockchain.Cert.Strings
import VjBlockchain.Util.Time
import VjBlockchain.Cert.FieldReader
import VjBlockchain.Cert.FieldCodec
import VjBlockchain.Cert.Rereading
import VjBlockchain.Cert.Conversion
import VjBlockchain.Cert.Vectors
import VjBlockchain.Agentd.InnerEnvelope
import VjBlockchain.Cert.SignerId
import VjBlockchain.Common.Resources
import VjBlockchain.Crypt.NativeHmac
import VjBlockchain.Crypt.HmacPieces
import VjBlockchain.Crypt.Password
import VjBlockchain.Common.Simulation
import VjBlockchain.Agentd.Socket
import VjBlockchain.Agentd.Parametric
import VjBlockchain.Agentd.Transport
import VjBlockchain.Client.EndToEnd
import VjBlockchain.Client.Lifecycle
import VjBlockchain.Common.Cleanup
import VjBlockchain.Util.Native
import VjBlockchain.Crypt.Native
import VjBlockchain.Agentd.NativePacket
import VjBlockchain.Crypt.NativeCipher
import VjBlockchain.Cert.OneFormat
import VjBlockchain.Cert.NativeCalls
import VjBlockchain.Common.Contract
import VjBlockchain.Agentd.Integrity
import VjBlockchain.Common.Follow
import VjBlockchain.Client.Consumer
import VjBlockchain.Client.Reading
import VjBlockchain.Client.Producer
import VjBlockchain.Common.Once
import VjBlockchain.Init.Initializer
import VjBlockchain.Crypt.NativeSigning
import VjBlockchain.Crypt.FreshKeys
import VjBlockchain.Cert.NativeBuilder
