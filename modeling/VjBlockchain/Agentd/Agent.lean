import VjBlockchain.Agentd.Answer
import VjBlockchain.Agentd.World
import VjBlockchain.Crypt.XorSuite
/-!
# A conforming agent

The other party of the protocol, as the tables of `ProtocolHandlerImpl`
describe it. An agent holds its key pair and knows one client by its public
key. It answers a handshake request in the clear, proving with the code over
its answer that it knows the shared secret, waits for the client's proof
under the client's first counter, and from then on answers every request it
can authenticate and read with exactly one packet. A message it cannot place
is met with silence.

What it answers is up to `answer`, which sees the request and everything
served before it; the agent carries the proof that its answers are laid out
as the tables.
-/

namespace VjBlockchain

open Common Common.Bytes Common.Throwing ByteUtil UuidUtil

/-- **A conforming agent.** -/
structure Agent (V : Vccrypt) where
  agentId : UUID
  privateKey : Bytes
  publicKey : Bytes
  isKeyPair : V.IsKeyPair privateKey publicKey
  /-- The one client it knows. -/
  entityId : UUID
  entityPublicKey : Bytes
  serverKeyNonce : Bytes
  serverChallengeNonce : Bytes
  length_serverKeyNonce : serverKeyNonce.length = 32
  length_serverChallengeNonce : serverChallengeNonce.length = 32
  /-- The offset fields of its two handshake answers. -/
  helloOffset : JInt
  acknowledgeOffset : JInt
  answer : List Request → Request → Answer
  laidOut : ∀ (served : List Request) (r : Request), r.LaidOut (answer served r)

/-- How far a connection has got. -/
inductive Phase
  | awaitingHello
  | awaitingAcknowledge (secret : Bytes)
  | serving (secret : Bytes)
  deriving DecidableEq, Repr

/-- A connection on the agent's side. -/
structure AgentState where
  phase : Phase
  clientIv : BitVec 64
  serverIv : BitVec 64
  /-- The requests answered so far. -/
  served : List Request
  deriving DecidableEq, Repr

/-- A connection before its handshake. -/
def AgentState.start : AgentState := ⟨.awaitingHello, 0x0000000000000001, 0x8000000000000001, []⟩

/-- Both counters move on. -/
def AgentState.next (st : AgentState) : AgentState :=
  { st with clientIv := st.clientIv + 1, serverIv := st.serverIv + 1 }

/-! ## What the agent reads -/

/-- The payload of an authentic packet. -/
def openPacket (V : Vccrypt) (key : Bytes) (iv : BitVec 64) (packet : Bytes) : Option Bytes :=
  let payload := xorAt (packetStream V key iv) 5 (packet.drop (5 + 32))
  if sealPacket V key iv payload = packet then some payload else none

/-- **What the writer seals, the agent opens.** -/
theorem openPacket_sealPacket {V : Vccrypt} (hV : V.Lawful) (key : Bytes) (iv : BitVec 64)
    (p : Bytes) : openPacket V key iv (sealPacket V key iv p) = some p := by
  have hhead : (sealHeader V key iv p.length ++ sealMac V key iv p).length = 5 + 32 := by
    rw [List.length_append, length_sealHeader, length_sealMac hV]
  have hbody : (sealPacket V key iv p).drop (5 + 32) = sealBody V key iv p := by
    rw [sealPacket, sealRest, ← List.append_assoc, List.drop_left' hhead]
  have hclear : xorAt (packetStream V key iv) 5 (sealBody V key iv p) = p := xorAt_xorAt ..
  rw [openPacket, hbody, hclear]
  exact if_pos rfl

/-- **It opens nothing else.** -/
theorem openPacket_eq_some_iff {V : Vccrypt} (hV : V.Lawful) {key : Bytes} {iv : BitVec 64}
    {packet p : Bytes} : openPacket V key iv packet = some p ↔ packet = sealPacket V key iv p := by
  constructor
  · intro h
    unfold openPacket at h
    dsimp only at h
    split at h
    · rename_i heq
      rw [← Option.some.inj h, heq]
    · cases h
  · rintro rfl
    exact openPacket_sealPacket hV key iv p

/-- A handshake request, as it is read. -/
structure Hello where
  entityId : UUID
  clientKeyNonce : Bytes
  clientChallengeNonce : Bytes
  deriving DecidableEq, Repr

/-- The fixed octets of a handshake request: type, size, request id, offset
and the two versions. -/
def helloHead : Bytes :=
  (IPC_DATA_TYPE_DATA_PACKET :: htonl 96) ++ (htonl UNAUTH_PROTOCOL_REQ_ID_HANDSHAKE_INITIATE ++
    (htonl 0 ++ (htonl PROTOCOL_VERSION ++ htonl CRYPTO_SUITE_VERSION)))

def decodeHello (message : Bytes) : Option Hello :=
  if message.length = 101 ∧ message.take 21 = helloHead then
    some ⟨halves (slice message 21 37), slice message 37 69, slice message 69 101⟩
  else none

/-- The octets of a handshake request. -/
def helloRequest (entityId : UUID) (nonces : Nonces) : Bytes :=
  helloHead ++
    (getBytesFromUUID entityId ++ (nonces.clientKeyNonce ++ nonces.clientChallengeNonce))

theorem handshakeRequest_eq (entityId : UUID) (nonces : Nonces) :
    handshakeRequest entityId nonces = .ok (helloRequest entityId nonces) := by
  have hk := nonces.length_clientKeyNonce
  have hc := nonces.length_clientChallengeNonce
  have hzeros : zeros 96 = zeros 8 ++ zeros 88 := zeros_add 8 88
  have hhead : zeros 8 = htonl UNAUTH_PROTOCOL_REQ_ID_HANDSHAKE_INITIATE ++ htonl 0 := by decide
  have hsize : (IPC_DATA_TYPE_DATA_PACKET :: zeros 4) = [IPC_DATA_TYPE_DATA_PACKET] ++ zeros 4 :=
    rfl
  rw [handshakeRequest, hzeros,
    arraycopy_next (length_zeros 8) (length_htonl _) (by omega), ok_bind,
    arraycopy_next (by simp) (length_htonl _) (by omega), ok_bind,
    arraycopy_next (by simp) (length_getBytesFromUUID _) (by omega), ok_bind,
    arraycopy_next (by simp) hk (by omega), ok_bind,
    arraycopy_next (by simp [hk]) hc (by omega), ok_bind, hsize,
    arraycopy_next (List.length_singleton ..) (length_htonl _) (by omega), ok_bind, hhead]
  simp [merge, helloRequest, helloHead, hk, hc]

/-- **The client's handshake request is what the agent reads.** -/
theorem decodeHello_helloRequest (entityId : UUID) (nonces : Nonces) :
    decodeHello (helloRequest entityId nonces) =
      some ⟨entityId, nonces.clientKeyNonce, nonces.clientChallengeNonce⟩ := by
  have hk := nonces.length_clientKeyNonce
  have hc := nonces.length_clientChallengeNonce
  have hhead : helloHead.length = 21 := by decide
  have hid := length_getBytesFromUUID entityId
  have hlen : (helloRequest entityId nonces).length = 101 := by simp [helloRequest, hhead, hk, hc]
  have hcut₀ : (helloRequest entityId nonces).take 21 = helloHead := List.take_left' hhead
  have hcut₁ : slice (helloRequest entityId nonces) 21 37 = getBytesFromUUID entityId :=
    slice_mid hhead (by rw [hhead, hid])
  have hcut₂ : slice (helloRequest entityId nonces) 37 69 = nonces.clientKeyNonce := by
    rw [helloRequest, ← List.append_assoc]
    exact slice_mid (by simp [hhead]) (by simp [hhead, hk])
  have hcut₃ : slice (helloRequest entityId nonces) 69 101 = nonces.clientChallengeNonce := by
    rw [helloRequest, ← List.append_assoc, ← List.append_assoc,
      slice_append_right (by simp [hhead, hk]), List.length_append, List.length_append, hhead,
      hid, hk]
    exact slice_self _ _ hc.le
  rw [decodeHello, if_pos ⟨hlen, hcut₀⟩, hcut₁, hcut₂, hcut₃, halves_getBytesFromUUID]

/-! ## What the agent answers -/

namespace Agent

variable {V : Vccrypt} (A : Agent V)

/-- The first answer of a handshake up to the code. -/
def helloPart : Bytes :=
  htonl UNAUTH_PROTOCOL_REQ_ID_HANDSHAKE_INITIATE ++ (htonl A.helloOffset ++ (htonl 0 ++
    (htonl PROTOCOL_VERSION ++ (htonl CRYPTO_SUITE_VERSION ++ (getBytesFromUUID A.agentId ++
      (A.publicKey ++ (A.serverKeyNonce ++ A.serverChallengeNonce)))))))

/-- The code that proves the agent knows the secret. -/
def helloCode (secret clientChallengeNonce : Bytes) : Bytes :=
  V.macShort.mac secret (A.helloPart ++ clientChallengeNonce)

/-- The first answer. -/
def helloBody (secret clientChallengeNonce : Bytes) : Bytes :=
  A.helloPart ++ A.helloCode secret clientChallengeNonce

/-- The first answer in the clear behind a type octet and its size. -/
def helloResponse (secret clientChallengeNonce : Bytes) : Bytes :=
  (IPC_DATA_TYPE_DATA_PACKET :: htonl 164) ++ A.helloBody secret clientChallengeNonce

/-- What a client takes out of the first answer. -/
def serverHello (secret clientChallengeNonce : Bytes) : ServerHello :=
  ⟨A.publicKey, A.serverKeyNonce, A.serverChallengeNonce, A.helloCode secret clientChallengeNonce⟩

/-- The payload of the second answer. -/
def acknowledgeResponse : Bytes :=
  Answer.payload UNAUTH_PROTOCOL_REQ_ID_HANDSHAKE_ACKNOWLEDGE ⟨0, A.acknowledgeOffset, []⟩

/-- The payload that answers a request. -/
def response (served : List Request) (r : Request) : Bytes := (A.answer served r).payload r.id

/-- A handshake request, from the client the agent knows. -/
def hello (st : AgentState) (message : Bytes) : AgentState × Bytes :=
  match decodeHello message with
  | none => (st, [])
  | some m =>
    if m.entityId = A.entityId then
      match V.shortTermSecret A.privateKey A.entityPublicKey A.serverKeyNonce m.clientKeyNonce with
      | none => (st, [])
      | some secret =>
        ({ st with phase := .awaitingAcknowledge secret },
          A.helloResponse secret m.clientChallengeNonce)
    else (st, [])

/-- The client's proof that it knows the secret. -/
def acknowledge (st : AgentState) (secret message : Bytes) : AgentState × Bytes :=
  match openPacket V secret st.clientIv message with
  | none => (st, [])
  | some p =>
    if p = V.macShort.mac secret A.serverChallengeNonce then
      ({ st.next with phase := .serving secret },
        sealPacket V secret st.serverIv A.acknowledgeResponse)
    else (st, [])

/-- The request a message carries. -/
def requestOf (st : AgentState) (secret message : Bytes) : Option Request :=
  (openPacket V secret st.clientIv message).bind decodeRequest

/-- A request: one packet in, one packet out. -/
def serve (st : AgentState) (secret message : Bytes) : AgentState × Bytes :=
  match requestOf (V := V) st secret message with
  | none => (st, [])
  | some r =>
    ({ st.next with served := st.served ++ [r] },
      sealPacket V secret st.serverIv (A.response st.served r))

/-- What the agent makes of a message. -/
def react (st : AgentState) (message : Bytes) : AgentState × Bytes :=
  match st.phase with
  | .awaitingHello => A.hello st message
  | .awaitingAcknowledge secret => A.acknowledge st secret message
  | .serving secret => A.serve st secret message

/-- The message submits a transaction, and the answer's status is zero. -/
def accepts (st : AgentState) (message : Bytes) : Bool :=
  match st.phase with
  | .serving secret =>
    match requestOf (V := V) st secret message with
    | some (.submit t a c) => (A.answer st.served (.submit t a c)).status = 0
    | _ => false
  | _ => false

def machine : AgentMachine := ⟨AgentState, A.react, A.accepts⟩

/-! ## The client reads the first answer -/

variable {A}

theorem length_publicKey (hV : V.Lawful) : A.publicKey.length = 32 :=
  (hV.length_keys A.isKeyPair).2

theorem length_helloPart (hV : V.Lawful) : A.helloPart.length = 132 := by
  simp [helloPart, length_publicKey hV, A.length_serverKeyNonce, A.length_serverChallengeNonce]

theorem length_helloCode (hV : V.Lawful) (secret clientChallengeNonce : Bytes) :
    (A.helloCode secret clientChallengeNonce).length = 32 := by
  rw [helloCode, hV.macShort.length_mac, hV.macSize]

theorem length_helloBody (hV : V.Lawful) (secret clientChallengeNonce : Bytes) :
    (A.helloBody secret clientChallengeNonce).length = 164 := by
  rw [helloBody, List.length_append, length_helloPart hV, length_helloCode hV]

/-- **The first answer passes the client's checks**, all but that of its
code. -/
theorem verifyServerHello_helloBody (hV : V.Lawful) (secret clientChallengeNonce : Bytes) :
    verifyServerHello A.agentId A.publicKey (A.helloBody secret clientChallengeNonce) =
      .ok (A.serverHello secret clientChallengeNonce) := by
  have hpk := length_publicKey (A := A) hV
  have hkn := A.length_serverKeyNonce
  have hcn := A.length_serverChallengeNonce
  have hlen := length_helloBody (A := A) hV secret clientChallengeNonce
  have hcode := length_helloCode (A := A) hV secret clientChallengeNonce
  set response := A.helloBody secret clientChallengeNonce with hresponse
  have hcut : ∀ i j, i ≤ j → j ≤ 164 → copyOfRange response i j = .ok (slice response i j) :=
    fun i j hij hj => copyOfRange_eq hij (hj.trans hlen.ge)
  -- one cut for each row of the table
  have hid : slice response 0 4 = htonl UNAUTH_PROTOCOL_REQ_ID_HANDSHAKE_INITIATE := by
    simp [hresponse, helloBody, helloPart, slice_append_left]
  have hstatus : slice response 8 12 = htonl 0 := by
    simp [hresponse, helloBody, helloPart, slice_append_left, slice_append_right]
  have hprotocol : slice response 12 16 = htonl PROTOCOL_VERSION := by
    simp [hresponse, helloBody, helloPart, slice_append_left, slice_append_right]
  have hsuite : slice response 16 20 = htonl CRYPTO_SUITE_VERSION := by
    simp [hresponse, helloBody, helloPart, slice_append_left, slice_append_right]
  have hagent : slice response 20 36 = getBytesFromUUID A.agentId := by
    simp [hresponse, helloBody, helloPart, slice_append_left, slice_append_right]
  have hkey : slice response 36 68 = A.publicKey := by
    simp [hresponse, helloBody, helloPart, slice_append_left, slice_append_right, hpk]
  have hkeyNonce : slice response 68 100 = A.serverKeyNonce := by
    simp [hresponse, helloBody, helloPart, slice_append_left, slice_append_right, hpk, hkn]
  have hchallenge : slice response 100 132 = A.serverChallengeNonce := by
    simp [hresponse, helloBody, helloPart, slice_append_left, slice_append_right, hpk, hkn, hcn]
  have hhmac : slice response 132 164 = A.helloCode secret clientChallengeNonce := by
    rw [hresponse, helloBody, slice_append_right (length_helloPart hV).le, length_helloPart hV]
    exact slice_self _ _ hcode.le
  rw [verifyServerHello, verifyRequestId]
  simp only [hcut, Nat.zero_le, Nat.reduceLeDiff, ok_bind, hid, hstatus, hprotocol, hsuite, hagent,
    hkey, hkeyNonce, hchallenge, hhmac, ntohl_htonl, check_pos,
    (EqualsUtil.constantTimeEqual_iff _ _).mpr rfl, if_true]
  rfl

end Agent

/-! ## An agent in the open

Over the suite in the open, with every key and nonce a string of zeros. Its
answers are still a parameter. -/

/-- A refusal fits every table. -/
theorem Request.laidOut_refusal (r : Request) (offset : JInt) : r.LaidOut ⟨1, offset, []⟩ :=
  ⟨.inr ⟨(by decide : (1 : JInt) ≠ 0), rfl⟩, (by decide : 12 + 0 ≤ MAX_PAYLOAD_SIZE)⟩

def openAgent (answer : List Request → Request → Answer)
    (laidOut : ∀ (served : List Request) (r : Request), r.LaidOut (answer served r)) :
    Agent XorSuite.suite where
  agentId := ⟨1, 1⟩
  privateKey := zeros 32
  publicKey := zeros 32
  isKeyPair := ⟨length_zeros 32, rfl⟩
  entityId := ⟨2, 2⟩
  entityPublicKey := zeros 32
  serverKeyNonce := zeros 32
  serverChallengeNonce := zeros 32
  length_serverKeyNonce := length_zeros 32
  length_serverChallengeNonce := length_zeros 32
  helloOffset := 0
  acknowledgeOffset := 0
  answer := answer
  laidOut := laidOut

/-- A client's key for it. -/
theorem openAgent_client (answer : List Request → Request → Answer)
    (laidOut : ∀ (served : List Request) (r : Request), r.LaidOut (answer served r)) :
    XorSuite.suite.IsKeyPair (zeros 32) (openAgent answer laidOut).entityPublicKey :=
  ⟨length_zeros 32, rfl⟩

/-- Two draws of a weak source of randomness. -/
def openNonces : Nonces := ⟨zeros 32, zeros 32, length_zeros 32, length_zeros 32⟩

end VjBlockchain
