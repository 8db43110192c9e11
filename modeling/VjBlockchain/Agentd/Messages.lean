import VjBlockchain.Crypt.Vccrypt
import VjBlockchain.Cert.Model
/-!
# The messages of the agent protocol

What `ProtocolHandlerImpl` puts into its requests and what it checks in the
responses, as functions on arrays; the handler that sends and receives them
is in `Agentd.Handler`. A request is an array allocated at its final size
and filled at the offsets of the source. A response is read at the offsets
of its table: request id, status, offset, and a body; the offset field is
never looked at, nor are the ids a response repeats.

Requests that carry one identifier are one family, and so are the responses
that carry an optional identifier and those that carry a certificate; the
members differ in a request id and, for certificates, in the length of the
table in front of the certificate.
-/

namespace VjBlockchain

open Common Common.Bytes Common.Throwing ByteUtil

/-! ## Constants -/

def PROTOCOL_VERSION : JInt := 1
def CRYPTO_SUITE_VERSION : JInt := 1
def IPC_DATA_TYPE_DATA_PACKET : UInt8 := 0x20

def UNAUTH_PROTOCOL_REQ_ID_HANDSHAKE_INITIATE : JInt := 0
def UNAUTH_PROTOCOL_REQ_ID_HANDSHAKE_ACKNOWLEDGE : JInt := 1
def UNAUTH_PROTOCOL_REQ_ID_LATEST_BLOCK_ID_GET : JInt := 2
def UNAUTH_PROTOCOL_REQ_ID_TRANSACTION_SUBMIT : JInt := 3
def UNAUTH_PROTOCOL_REQ_ID_BLOCK_BY_ID_GET : JInt := 4
def UNAUTH_PROTOCOL_REQ_ID_BLOCK_ID_GET_NEXT : JInt := 5
def UNAUTH_PROTOCOL_REQ_ID_BLOCK_ID_GET_PREV : JInt := 6
def UNAUTH_PROTOCOL_REQ_ID_BLOCK_ID_BY_HEIGHT_GET : JInt := 7
def UNAUTH_PROTOCOL_REQ_ID_TRANSACTION_BY_ID_GET : JInt := 16
def UNAUTH_PROTOCOL_REQ_ID_TRANSACTION_ID_GET_NEXT : JInt := 17
def UNAUTH_PROTOCOL_REQ_ID_TRANSACTION_ID_GET_PREV : JInt := 18
def UNAUTH_PROTOCOL_REQ_ID_TRANSACTION_ID_GET_BLOCK_ID : JInt := 19
def UNAUTH_PROTOCOL_REQ_ID_ARTIFACT_FIRST_TXN_BY_ID_GET : JInt := 32
def UNAUTH_PROTOCOL_REQ_ID_ARTIFACT_LAST_TXN_BY_ID_GET : JInt := 33
def UNAUTH_PROTOCOL_REQ_ID_STATUS_GET : JInt := 40960

def PROTOCOL_ERROR_MALFORMED_REQUEST : JInt := 0x080A000E
def PROTOCOL_ERROR_UNAUTHORIZED : JInt := 0x080A0010

/-! ## Requests -/

/-- Request id and offset in front of a fresh array. -/
def requestHead (reqId : JInt) (request : Bytes) : Except Fault Bytes := do
  let request ← arraycopy (htonl reqId) 0 request 0 4
  arraycopy (htonl 0) 0 request 4 4

/-- A request that carries nothing. -/
def plainRequest (reqId : JInt) : Except Fault Bytes := requestHead reqId (zeros 8)

/-- A request that carries one identifier. -/
def idRequest (reqId : JInt) (id : UUID) : Except Fault Bytes := do
  let request ← requestHead reqId (zeros 24)
  arraycopy (UuidUtil.getBytesFromUUID id) 0 request 8 16

/-- The request of `writeGetBlockIdByBlockHeight`. -/
def heightRequest (height : BitVec 64) : Except Fault Bytes := do
  let request ← requestHead UNAUTH_PROTOCOL_REQ_ID_BLOCK_ID_BY_HEIGHT_GET (zeros 16)
  arraycopy (htonll height) 0 request 8 8

/-- The request of `writeSubmitRequest`. -/
def submitRequest (transactionId artifactId : UUID) (transaction : Certificate) :
    Except Fault Bytes := do
  let certificateBytes := transaction.byteArray
  let request ← newArray (BitVec.ofNat 32 (certificateBytes.length + 40))
  let request ← requestHead UNAUTH_PROTOCOL_REQ_ID_TRANSACTION_SUBMIT request
  let request ← arraycopy (UuidUtil.getBytesFromUUID transactionId) 0 request 8 16
  let request ← arraycopy (UuidUtil.getBytesFromUUID artifactId) 0 request 24 16
  arraycopy certificateBytes 0 request 40 certificateBytes.length

/-- A field of a submitted certificate as a UUID: what the reader throws is
replaced by an `IOException` with a message of its own. -/
def fieldAsUUID (reader : CertificateReader) (field : JInt) (missing invalid : String) :
    Except Fault UUID :=
  match (do (← reader.getFirst field).asUUID : Except Fault UUID) with
  | .error (.thrown ⟨.missingFieldException, _⟩) => .error (.java .ioException missing)
  | .error (.thrown ⟨.fieldConversionException, _⟩) => .error (.java .ioException invalid)
  | result => result

/-- The two identifiers `submit` takes out of a transaction. -/
def submitIds (C : Vccert) (transaction : Certificate) : Except Fault (UUID × UUID) := do
  let reader ← CertificateReader.new C (.new transaction)
  let transactionId ← fieldAsUUID reader Field.CERTIFICATE_ID "Missing transaction id."
    "Invalid transaction id."
  let artifactId ← fieldAsUUID reader Field.ARTIFACT_ID "Missing artifact id."
    "Invalid artifact id."
  .ok (transactionId, artifactId)

/-! ## Response sizes

What a reader demands of the size in a packet's header before it reads on. -/

def sizeMessage (size : ℕ) (expected : String) : String :=
  "Invalid payload size (" ++ toString size ++ expected

/-- Twelve octets exactly; the two readers that ask for it space their
message differently. -/
def expectTwelve (expected : String) (payloadSize : ℕ) : Except Fault Unit :=
  check (payloadSize = 12)
    (.java .invalidPayloadSizeException (sizeMessage payloadSize expected))

def expectTwelveOrUuid (payloadSize : ℕ) : Except Fault Unit :=
  check (payloadSize = 12 ∨ payloadSize = 28)
    (.java .invalidPayloadSizeException
      (sizeMessage payloadSize "). Expected either 12 or 28 bytes."))

def expectAtLeastTwelve (payloadSize : ℕ) : Except Fault Unit :=
  check (¬payloadSize < 12)
    (.java .invalidPayloadSizeException
      (sizeMessage payloadSize "). Expected at least 12 bytes."))

/-! ## Response bodies -/

/-- Verify the request id of a response. -/
def verifyRequestId (decryptedPayload : Bytes) (reqId : JInt) (message : String) :
    Except Fault Unit := do
  let requestId ← ntohl (← copyOfRange decryptedPayload 0 4)
  check (requestId = reqId.toNat)
    (.java .invalidRequestIdException (message ++ toString requestId))

/-- The status of a response. -/
def responseStatus (decryptedPayload : Bytes) : Except Fault ℕ := do
  ntohl (← copyOfRange decryptedPayload 4 8)

/-- What `acknowledgeHandshake` checks in the second answer. -/
def decodeAcknowledge (decryptedPayload : Bytes) : Except Fault Unit := do
  verifyRequestId decryptedPayload UNAUTH_PROTOCOL_REQ_ID_HANDSHAKE_ACKNOWLEDGE
    "Invalid request ID in second round of handshake: "
  let status ← responseStatus decryptedPayload
  check (status = 0) (.java .errorStatusException
    ("Bad status code in second round of handshake: " ++ toString status))

/-- What `readSubmitResponse` returns: the status. -/
def decodeSubmit (decryptedPayload : Bytes) : Except Fault ℕ := do
  verifyRequestId decryptedPayload UNAUTH_PROTOCOL_REQ_ID_TRANSACTION_SUBMIT
    "Invalid request ID: "
  responseStatus decryptedPayload

/-- What `readGetLatestBlockIdResponse` returns. -/
def decodeLatest (payloadSize : ℕ) (decryptedPayload : Bytes) : Except Fault UUID := do
  verifyRequestId decryptedPayload UNAUTH_PROTOCOL_REQ_ID_LATEST_BLOCK_ID_GET
    "Invalid request ID: "
  let status ← responseStatus decryptedPayload
  check (status = 0) (.java .ioException "bad status code in call.")
  check (payloadSize = 28) (.java .invalidPayloadSizeException "Expected UUID in payload.")
  let uuidBytes ← arraycopy decryptedPayload 12 (zeros 16) 0 16
  UuidUtil.getUUIDFromBytes uuidBytes

/-- An optional identifier: empty on any bad status, and on a body too short
to hold it. -/
def decodeOptUuid (reqId : JInt) (payloadSize : ℕ) (decryptedPayload : Bytes) :
    Except Fault (Option UUID) := do
  verifyRequestId decryptedPayload reqId "Invalid request ID: "
  let status ← responseStatus decryptedPayload
  if status ≠ 0 then .ok none
  else if payloadSize < 3 * 4 + 16 then .ok none
  else do
    let uuidBytes ← copyOfRange decryptedPayload (3 * 4) (3 * 4 + 16)
    let uuid ← UuidUtil.getUUIDFromBytes uuidBytes
    .ok (some uuid)

/-- An optional certificate behind `payloadHeaderSize` octets of table. -/
def decodeCertificate (reqId : JInt) (payloadHeaderSize payloadSize : ℕ)
    (decryptedPayload : Bytes) : Except Fault (Option Certificate) := do
  verifyRequestId decryptedPayload reqId "Invalid request ID: "
  let status ← responseStatus decryptedPayload
  if status ≠ 0 then .ok none
  else if payloadSize ≤ payloadHeaderSize then .ok none
  else do
    let certificate ← copyOfRange decryptedPayload payloadHeaderSize payloadSize
    .ok (some ⟨certificate⟩)

/-- What `readGetConnectionStatus` returns: any bad status is one. -/
def decodeConnectionStatus (decryptedPayload : Bytes) : Except Fault JInt := do
  verifyRequestId decryptedPayload UNAUTH_PROTOCOL_REQ_ID_STATUS_GET "Invalid request ID: "
  let status ← responseStatus decryptedPayload
  if status ≠ 0 then .ok 1 else .ok 0

/-! ## The handshake -/

/-- The client's two random draws of a handshake. -/
structure Nonces where
  clientKeyNonce : Bytes
  clientChallengeNonce : Bytes
  length_clientKeyNonce : clientKeyNonce.length = 32
  length_clientChallengeNonce : clientChallengeNonce.length = 32

/-- The handshake request with its five octets of header. -/
def handshakeRequest (entityId : UUID) (nonces : Nonces) : Except Fault Bytes := do
  let request := zeros 96
  let request ← arraycopy (htonl PROTOCOL_VERSION) 0 request 8 4
  let request ← arraycopy (htonl CRYPTO_SUITE_VERSION) 0 request 12 4
  let request ← arraycopy (UuidUtil.getBytesFromUUID entityId) 0 request 16 16
  let request ← arraycopy nonces.clientKeyNonce 0 request 32 32
  let request ← arraycopy nonces.clientChallengeNonce 0 request 64 32
  let requestHeader ← arraycopy (htonl (BitVec.ofNat 32 request.length)) 0
    (IPC_DATA_TYPE_DATA_PACKET :: zeros 4) 1 4
  .ok (merge requestHeader request)

/-- What the first answer of a handshake brings, once it has been checked. -/
structure ServerHello where
  serverPublicKey : Bytes
  serverKeyNonce : Bytes
  serverChallengeNonce : Bytes
  serverChallengeResponseHMAC : Bytes
  deriving DecidableEq, Repr

/-- The checks on the first answer up to the code: request id, status,
versions, agent id, public key. -/
def verifyServerHello (agentId : UUID) (agentPublicEncKey response : Bytes) :
    Except Fault ServerHello := do
  verifyRequestId response UNAUTH_PROTOCOL_REQ_ID_HANDSHAKE_INITIATE
    "Invalid request ID in first round of handshake: "
  let status ← ntohl (← copyOfRange response 8 12)
  check (status = 0) (.java .errorStatusException
    ("Bad status code in first round of handshake: " ++ toString status))
  let protocolVersion ← ntohl (← copyOfRange response 12 16)
  check (protocolVersion = PROTOCOL_VERSION.toNat) (.java .unsupportedProtocolVersionException
    ("Unsupported protocol version: " ++ toString protocolVersion))
  let cryptoSuiteVersion ← ntohl (← copyOfRange response 16 20)
  check (cryptoSuiteVersion = CRYPTO_SUITE_VERSION.toNat) (.java .unsupportedCryptoSuiteVersion
    ("Unsupported crypto suite version: " ++ toString cryptoSuiteVersion))
  let idBytes ← copyOfRange response 20 36
  if EqualsUtil.constantTimeEqual (some (UuidUtil.getBytesFromUUID agentId)) (some idBytes) then do
    let serverPublicKey ← copyOfRange response 36 68
    check (EqualsUtil.constantTimeEqual (some agentPublicEncKey) (some serverPublicKey))
      (.java .agentVerificationException
        ("Server public key does not match expected public key. " ++ "Possible MITM attack!"))
    let serverKeyNonce ← copyOfRange response 68 100
    let serverChallengeNonce ← copyOfRange response 100 132
    let serverChallengeResponseHMAC ← copyOfRange response 132 164
    .ok ⟨serverPublicKey, serverKeyNonce, serverChallengeNonce, serverChallengeResponseHMAC⟩
  else do
    let badId ← UuidUtil.getUUIDFromBytes (← copyOfRange response 20 36)
    .error (.java .agentVerificationException ("Invalid agentId (expected " ++
      agentId.toString ++ " and got " ++ badId.toString ++ ")"))

/-- The exception a shorter error answer is turned into. -/
def handshakeInitiateError (response : Bytes) : Except Fault Unit := do
  let status ← ntohl (← copyOfRange response 8 12)
  if BitVec.ofNat 32 status = PROTOCOL_ERROR_MALFORMED_REQUEST then
    .error (.java .agentVerificationException "Malformed client request.")
  else if BitVec.ofNat 32 status = PROTOCOL_ERROR_UNAUTHORIZED then
    .error (.java .agentVerificationException "Client not authorized.")
  else
    .error (.java .agentVerificationException "Client not authorized.")

end VjBlockchain
