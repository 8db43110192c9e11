import VjBlockchain.Agentd.Envelope
import VjBlockchain.Agentd.Messages
/-!
# The protocol handler

`ProtocolHandlerImpl` over a data channel. A method runs on the handler and
the world behind the channel and keeps what it changed when it throws: a
packet counter that moved, a shared secret that was assigned, octets that
were sent or taken off the channel.

The channel is a parameter, with a world of any type: `send` hands over one
message, `recv` asks for a number of octets, and both may throw.
-/

namespace VjBlockchain

open Common Common.Bytes Common.Throwing ByteUtil

/-- `DataChannel`, over a world of type `W`. -/
structure DataChannel (W : Type) where
  send : Bytes → EStateM Fault W Unit
  recv : ℕ → EStateM Fault W Bytes

/-- What a handler runs on: the two native libraries and its channel. -/
structure Platform (W : Type) where
  crypt : Vccrypt
  cert : Vccert
  dataChannel : DataChannel W

/-- The fields of a handler. The shared secret starts out `null`. -/
structure ProtocolHandlerImpl where
  agentId : UUID
  entityId : UUID
  agentPublicEncKey : Bytes
  entityPrivateEncKey : Bytes
  outerEnvelopeReader : OuterEnvelopeReader
  outerEnvelopeWriter : OuterEnvelopeWriter
  sharedSecret : Option Bytes
  deriving DecidableEq, Repr

namespace ProtocolHandlerImpl

/-- The constructor, given the reader and the writer a connection makes. -/
def new (agentId entityId : UUID) (agentPublicEncKey entityPrivateEncKey : Bytes) :
    ProtocolHandlerImpl :=
  ⟨agentId, entityId, agentPublicEncKey, entityPrivateEncKey, .new, .new, none⟩

end ProtocolHandlerImpl

/-- A handler and the world behind its channel. -/
structure Session (W : Type) where
  handler : ProtocolHandlerImpl
  world : W

/-- A method of the handler. -/
abbrev Handler (W : Type) := EStateM Fault (Session W)

namespace Handler

variable {W α : Type} (P : Platform W)

/-! ## The handler's parts -/

/-- A call on the channel. -/
def onWorld (x : EStateM Fault W α) : Handler W α := fun s =>
  match x s.world with
  | .ok a w => .ok a { s with world := w }
  | .error f w => .error f { s with world := w }

def send (message : Bytes) : Handler W Unit := onWorld (P.dataChannel.send message)

def recv (nBytes : ℕ) : Handler W Bytes := onWorld (P.dataChannel.recv nBytes)

/-- `outerEnvelopeWriter.encryptPayload(sharedSecret, payload)`. -/
def encryptPayload (payload : Bytes) : Handler W Bytes := fun s =>
  match s.handler.outerEnvelopeWriter.encryptPayload P.crypt s.handler.sharedSecret payload with
  | .ok (packet, writer) =>
    .ok packet { s with handler := { s.handler with outerEnvelopeWriter := writer } }
  | .error f => .error f s

/-- `outerEnvelopeReader.decryptHeader(sharedSecret, header)`. -/
def decryptHeader (header : Bytes) : Handler W ℕ := fun s =>
  Effect.lift (s.handler.outerEnvelopeReader.decryptHeader P.crypt s.handler.sharedSecret header) s

/-- `outerEnvelopeReader.decryptPayload(sharedSecret, header, payload)`. -/
def decryptPayload (header payload : Bytes) : Handler W Bytes := fun s =>
  match s.handler.outerEnvelopeReader.decryptPayload P.crypt s.handler.sharedSecret header
      payload with
  | .ok (decrypted, reader) =>
    .ok decrypted { s with handler := { s.handler with outerEnvelopeReader := reader } }
  | .error f => .error f s

/-- The guard of the operations. -/
def requireConnected : Handler W Unit := fun s =>
  if s.handler.sharedSecret = none then
    .error (.java .connectException "Not connected. Call connect() first.") s
  else .ok () s

/-! ## Requests and responses -/

/-- Seal a request and hand it to the channel. -/
def sendRequest (request : Except Fault Bytes) : Handler W Unit := do
  let request ← Effect.lift request
  let packet ← encryptPayload P request
  send P packet

/-- The reader of most responses: a header, a check of its size, and the rest
of the packet in one piece. -/
def readResponse (expect : ℕ → Except Fault Unit) (decode : ℕ → Bytes → Except Fault α) :
    Handler W α := do
  let header ← recv P 5
  let payloadSize ← decryptHeader P header
  Effect.lift (expect payloadSize)
  let encryptedPayload ← recv P (payloadSize + 32)
  let decryptedPayload ← decryptPayload P header encryptedPayload
  Effect.lift (decode payloadSize decryptedPayload)

/-- The code and the tail of a packet, joined. -/
def joinPayload (responseHMAC encryptedPayloadTail : Bytes) : Except Fault Bytes := do
  let encryptedPayload := zeros (responseHMAC.length + encryptedPayloadTail.length)
  let encryptedPayload ← arraycopy responseHMAC 0 encryptedPayload 0 responseHMAC.length
  arraycopy encryptedPayloadTail 0 encryptedPayload responseHMAC.length
    encryptedPayloadTail.length

/-- The reader of the two oldest responses: the code and the payload come in
two pieces. -/
def readSplitResponse (expect : ℕ → Except Fault Unit) (decode : Bytes → Except Fault α) :
    Handler W α := do
  let header ← recv P 5
  let payloadSize ← decryptHeader P header
  Effect.lift (expect payloadSize)
  let responseHMAC ← recv P 32
  let encryptedPayloadTail ← recv P payloadSize
  let encryptedPayload ← Effect.lift (joinPayload responseHMAC encryptedPayloadTail)
  let decryptedPayload ← decryptPayload P header encryptedPayload
  Effect.lift (decode decryptedPayload)

/-! ## Writers and readers, one by one -/

def writeSubmitRequest (transactionId artifactId : UUID) (transaction : Certificate) :
    Handler W Unit :=
  sendRequest P (submitRequest transactionId artifactId transaction)

def readSubmitResponse : Handler W ℕ :=
  readSplitResponse P (expectTwelve "). Expected 12 bytes.") decodeSubmit

def writeGetLatestBlockIdRequest : Handler W Unit :=
  sendRequest P (plainRequest UNAUTH_PROTOCOL_REQ_ID_LATEST_BLOCK_ID_GET)

def readGetLatestBlockIdResponse : Handler W UUID :=
  readResponse P expectTwelveOrUuid decodeLatest

def writeGetBlockByIdRequest (blockId : UUID) : Handler W Unit :=
  sendRequest P (idRequest UNAUTH_PROTOCOL_REQ_ID_BLOCK_BY_ID_GET blockId)

def readGetBlockByIdResponse : Handler W (Option Certificate) :=
  readResponse P expectAtLeastTwelve
    (decodeCertificate UNAUTH_PROTOCOL_REQ_ID_BLOCK_BY_ID_GET (3 * 4 + 16 * 4 + 8 * 2))

def writeGetNextBlockIdRequest (blockId : UUID) : Handler W Unit :=
  sendRequest P (idRequest UNAUTH_PROTOCOL_REQ_ID_BLOCK_ID_GET_NEXT blockId)

def readGetNextBlockIdResponse : Handler W (Option UUID) :=
  readResponse P expectAtLeastTwelve (decodeOptUuid UNAUTH_PROTOCOL_REQ_ID_BLOCK_ID_GET_NEXT)

def writeGetPrevBlockIdRequest (blockId : UUID) : Handler W Unit :=
  sendRequest P (idRequest UNAUTH_PROTOCOL_REQ_ID_BLOCK_ID_GET_PREV blockId)

def readGetPrevBlockIdResponse : Handler W (Option UUID) :=
  readResponse P expectAtLeastTwelve (decodeOptUuid UNAUTH_PROTOCOL_REQ_ID_BLOCK_ID_GET_PREV)

def writeGetTransactionByIdRequest (txnId : UUID) : Handler W Unit :=
  sendRequest P (idRequest UNAUTH_PROTOCOL_REQ_ID_TRANSACTION_BY_ID_GET txnId)

def readGetTransactionByIdResponse : Handler W (Option Certificate) :=
  readResponse P expectAtLeastTwelve
    (decodeCertificate UNAUTH_PROTOCOL_REQ_ID_TRANSACTION_BY_ID_GET
      (3 * 4 + 16 * 5 + 8 * 1 + 4 * 1))

def writeGetTransactionNextIdRequest (txnId : UUID) : Handler W Unit :=
  sendRequest P (idRequest UNAUTH_PROTOCOL_REQ_ID_TRANSACTION_ID_GET_NEXT txnId)

def readGetTransactionNextIdResponse : Handler W (Option UUID) :=
  readResponse P expectAtLeastTwelve (decodeOptUuid UNAUTH_PROTOCOL_REQ_ID_TRANSACTION_ID_GET_NEXT)

def writeGetTransactionPreviousIdRequest (txnId : UUID) : Handler W Unit :=
  sendRequest P (idRequest UNAUTH_PROTOCOL_REQ_ID_TRANSACTION_ID_GET_PREV txnId)

def readGetTransactionPreviousIdResponse : Handler W (Option UUID) :=
  readResponse P expectAtLeastTwelve (decodeOptUuid UNAUTH_PROTOCOL_REQ_ID_TRANSACTION_ID_GET_PREV)

def writeGetTransactionBlockIdRequest (txnId : UUID) : Handler W Unit :=
  sendRequest P (idRequest UNAUTH_PROTOCOL_REQ_ID_TRANSACTION_ID_GET_BLOCK_ID txnId)

def readGetTransactionBlockIdResponse : Handler W (Option UUID) :=
  readResponse P expectAtLeastTwelve
    (decodeOptUuid UNAUTH_PROTOCOL_REQ_ID_TRANSACTION_ID_GET_BLOCK_ID)

def writeGetArtifactFirstTxnIdRequest (artifactId : UUID) : Handler W Unit :=
  sendRequest P (idRequest UNAUTH_PROTOCOL_REQ_ID_ARTIFACT_FIRST_TXN_BY_ID_GET artifactId)

def readGetArtifactGetFirstTxnIdRequest : Handler W (Option UUID) :=
  readResponse P expectAtLeastTwelve
    (decodeOptUuid UNAUTH_PROTOCOL_REQ_ID_ARTIFACT_FIRST_TXN_BY_ID_GET)

def writeGetArtifactLastTxnIdRequest (artifactId : UUID) : Handler W Unit :=
  sendRequest P (idRequest UNAUTH_PROTOCOL_REQ_ID_ARTIFACT_LAST_TXN_BY_ID_GET artifactId)

def readGetArtifactGetLastTxnIdRequest : Handler W (Option UUID) :=
  readResponse P expectAtLeastTwelve
    (decodeOptUuid UNAUTH_PROTOCOL_REQ_ID_ARTIFACT_LAST_TXN_BY_ID_GET)

def writeGetBlockIdByBlockHeight (height : BitVec 64) : Handler W Unit :=
  sendRequest P (heightRequest height)

def readGetBlockIdByBlockHeight : Handler W (Option UUID) :=
  readResponse P expectAtLeastTwelve (decodeOptUuid UNAUTH_PROTOCOL_REQ_ID_BLOCK_ID_BY_HEIGHT_GET)

def writeGetConnectionStatus : Handler W Unit :=
  sendRequest P (plainRequest UNAUTH_PROTOCOL_REQ_ID_STATUS_GET)

def readGetConnectionStatus : Handler W JInt :=
  readResponse P expectAtLeastTwelve fun _ => decodeConnectionStatus

/-! ## The operations -/

/-- The status of the response is not given to the caller. -/
def submit (transaction : Certificate) : Handler W Unit := do
  requireConnected
  let (transactionId, artifactId) ← Effect.lift (submitIds P.cert transaction)
  writeSubmitRequest P transactionId artifactId transaction
  let _status ← readSubmitResponse P
  pure ()

def getLatestBlockId : Handler W UUID := do
  requireConnected
  writeGetLatestBlockIdRequest P
  readGetLatestBlockIdResponse P

def getBlockById (blockId : UUID) : Handler W (Option Certificate) := do
  requireConnected
  writeGetBlockByIdRequest P blockId
  readGetBlockByIdResponse P

def getNextBlockId (blockId : UUID) : Handler W (Option UUID) := do
  requireConnected
  writeGetNextBlockIdRequest P blockId
  readGetNextBlockIdResponse P

def getPrevBlockId (blockId : UUID) : Handler W (Option UUID) := do
  requireConnected
  writeGetPrevBlockIdRequest P blockId
  readGetPrevBlockIdResponse P

def getTransactionById (txnId : UUID) : Handler W (Option Certificate) := do
  requireConnected
  writeGetTransactionByIdRequest P txnId
  readGetTransactionByIdResponse P

def getTransactionNextId (txnId : UUID) : Handler W (Option UUID) := do
  requireConnected
  writeGetTransactionNextIdRequest P txnId
  readGetTransactionNextIdResponse P

def getTransactionPreviousId (txnId : UUID) : Handler W (Option UUID) := do
  requireConnected
  writeGetTransactionPreviousIdRequest P txnId
  readGetTransactionPreviousIdResponse P

def getTransactionBlockId (txnId : UUID) : Handler W (Option UUID) := do
  requireConnected
  writeGetTransactionBlockIdRequest P txnId
  readGetTransactionBlockIdResponse P

def getArtifactFirstTxnId (artifactId : UUID) : Handler W (Option UUID) := do
  requireConnected
  writeGetArtifactFirstTxnIdRequest P artifactId
  readGetArtifactGetFirstTxnIdRequest P

def getArtifactLastTxnId (artifactId : UUID) : Handler W (Option UUID) := do
  requireConnected
  writeGetArtifactLastTxnIdRequest P artifactId
  readGetArtifactGetLastTxnIdRequest P

def getBlockIdByBlockHeight (height : BitVec 64) : Handler W (Option UUID) := do
  requireConnected
  writeGetBlockIdByBlockHeight P height
  readGetBlockIdByBlockHeight P

/-- The one operation without the guard. -/
def getConnectionStatus : Handler W JInt := do
  writeGetConnectionStatus P
  readGetConnectionStatus P

/-! ## The handshake -/

/-- `handleHandshakeInitiateError`: it throws whatever it reads. -/
def handleHandshakeInitiateError (responseLength : ℤ) : Handler W Unit :=
  if responseLength < 12 then
    throw (.java .invalidPayloadSizeException
      ("Invalid response size (" ++ toString responseLength ++ ").  Expected 164 bytes."))
  else do
    let response ← recv P responseLength.toNat
    Effect.lift (handshakeInitiateError response)

/-- The first answer of a handshake, as far as it is read without being
understood: a type octet, a length, and as many octets. -/
def recvServerHello : Handler W Bytes := do
  let responseHeader ← recv P 5
  Effect.lift (check (responseHeader[0]? = some IPC_DATA_TYPE_DATA_PACKET)
    (.java .invalidPacketTypeException "Incorrect message type"))
  let length ← Effect.lift (copyOfRange responseHeader 1 5 >>= ntohl)
  -- a Java int: the upper half of the lengths is negative
  let responseLength := (BitVec.ofNat 32 length).toInt
  if responseLength ≠ 164 then handleHandshakeInitiateError P responseLength
  recv P responseLength.toNat

/-- The first round up to the key agreement: the request sent, the answer
received, and everything checked that is checked without a secret. -/
def exchangeHello (nonces : Nonces) : Handler W (Bytes × ServerHello) := do
  let s ← get
  let request ← Effect.lift (handshakeRequest s.handler.entityId nonces)
  send P request
  let response ← recvServerHello P
  let hello ←
    Effect.lift (verifyServerHello s.handler.agentId s.handler.agentPublicEncKey response)
  pure (response, hello)

/-- The assignment to the field. -/
def setSharedSecret (secret : Bytes) : Handler W Unit :=
  modify fun s => { s with handler := { s.handler with sharedSecret := some secret } }

/-- The code of the first answer against the one computed. -/
def verifyServerCode (nonces : Nonces) (secret response : Bytes) (hello : ServerHello) :
    Except Fault Unit := do
  let part ← copyOfRange response 0 132
  let computedHMAC ←
    HMAC.createHMACShortArr P.crypt (some secret) [part, nonces.clientChallengeNonce]
  check (EqualsUtil.constantTimeEqual (some computedHMAC) (some hello.serverChallengeResponseHMAC))
    (.java .messageVerificationException "Invalid HMAC in first round of handshake.")

/-- The shared secret is assigned before the code that proves the agent knows
it is verified. -/
def initiateHandshake (nonces : Nonces) : Handler W Bytes := do
  let (response, hello) ← exchangeHello P nonces
  let s ← get
  let secret ← Effect.lift (computeSharedSecret P.crypt s.handler.entityPrivateEncKey
    hello.serverPublicKey hello.serverKeyNonce nonces.clientKeyNonce)
  setSharedSecret secret
  Effect.lift (verifyServerCode P nonces secret response hello)
  pure hello.serverChallengeNonce

/-- The second round: prove knowledge of the secret, and have it accepted. -/
def acknowledgeHandshake (serverChallengeNonce : Bytes) : Handler W Unit := do
  let s ← get
  sendRequest P (HMAC.createHMACShort P.crypt s.handler.sharedSecret serverChallengeNonce)
  readSplitResponse P (expectTwelve ").  Expected 12 bytes.") decodeAcknowledge

def handshake (nonces : Nonces) : Handler W Unit := do
  let serverChallengeNonce ← initiateHandshake P nonces
  acknowledgeHandshake P serverChallengeNonce

end Handler

/-! ## Calls -/

/-- A call of one of the operations. -/
inductive Operation
  | submit (transaction : Certificate)
  | getLatestBlockId
  | getBlockById (blockId : UUID)
  | getNextBlockId (blockId : UUID)
  | getPrevBlockId (blockId : UUID)
  | getTransactionById (txnId : UUID)
  | getTransactionNextId (txnId : UUID)
  | getTransactionPreviousId (txnId : UUID)
  | getTransactionBlockId (txnId : UUID)
  | getArtifactFirstTxnId (artifactId : UUID)
  | getArtifactLastTxnId (artifactId : UUID)
  | getBlockIdByBlockHeight (height : BitVec 64)
  | getConnectionStatus
  deriving DecidableEq, Repr

/-- What a call returns. -/
inductive Value
  | void
  | uuid (id : UUID)
  | optUuid (id : Option UUID)
  | optCertificate (certificate : Option Certificate)
  | int (n : JInt)
  deriving DecidableEq, Repr

/-- Make the call. -/
def Operation.call {W : Type} (P : Platform W) : Operation → Handler W Value
  | submit t => do Handler.submit P t; pure .void
  | getLatestBlockId => do pure (.uuid (← Handler.getLatestBlockId P))
  | getBlockById id => do pure (.optCertificate (← Handler.getBlockById P id))
  | getNextBlockId id => do pure (.optUuid (← Handler.getNextBlockId P id))
  | getPrevBlockId id => do pure (.optUuid (← Handler.getPrevBlockId P id))
  | getTransactionById id => do pure (.optCertificate (← Handler.getTransactionById P id))
  | getTransactionNextId id => do pure (.optUuid (← Handler.getTransactionNextId P id))
  | getTransactionPreviousId id => do pure (.optUuid (← Handler.getTransactionPreviousId P id))
  | getTransactionBlockId id => do pure (.optUuid (← Handler.getTransactionBlockId P id))
  | getArtifactFirstTxnId id => do pure (.optUuid (← Handler.getArtifactFirstTxnId P id))
  | getArtifactLastTxnId id => do pure (.optUuid (← Handler.getArtifactLastTxnId P id))
  | getBlockIdByBlockHeight h => do pure (.optUuid (← Handler.getBlockIdByBlockHeight P h))
  | getConnectionStatus => do pure (.int (← Handler.getConnectionStatus P))

end VjBlockchain
