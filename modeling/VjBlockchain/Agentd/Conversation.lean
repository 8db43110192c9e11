import VjBlockchain.Agentd.Agent
import VjBlockchain.Agentd.Exchange
/-!
# A conversation with a conforming agent

What holds between the calls of a client and its agent: both know one
secret, the writer's counter is the agent's next client counter and the
reader's its next server counter, and nothing lies unread. `Aligned` is that
state. A handshake from fresh ends reaches it, and a call starts and ends in
it, with the answer to its own request as its result.

The line may make any `recv` throw. A call then ends with that exception, and
about the state it leaves nothing is said but that a `recv` has thrown.
-/

namespace VjBlockchain

open Common Common.Bytes Common.Throwing ByteUtil

variable {V : Vccrypt} {C : Vccert} {A : Agent V} {line : Line} {key : Bytes}

/-- A platform with the agent behind its channel. -/
abbrev Agent.platform (A : Agent V) (C : Vccert) (line : Line) : Platform (AgentWorld A.machine) :=
  agentPlatform V C A.machine line

/-- The requests the agent has read so far, in order. -/
def servedBy (s : Session (AgentWorld A.machine)) : List Request := AgentState.served s.world.agent

/-- **The two ends are in step**, with `served` behind them. -/
structure Aligned (A : Agent V) (key : Bytes) (served : List Request)
    (s : Session (AgentWorld A.machine)) : Prop where
  length_key : key.length = 32
  secret : s.handler.sharedSecret = some key
  agent : s.world.agent = AgentState.mk (.serving key) s.handler.outerEnvelopeWriter.iv
    s.handler.outerEnvelopeReader.iv served
  inbox : s.world.inbox = []
  /-- Two messages for the handshake, and one for each request. -/
  sends : s.world.sends = 2 + served.length

theorem Aligned.servedBy_eq {served : List Request} {s : Session (AgentWorld A.machine)}
    (h : Aligned A key served s) : servedBy s = served := by
  rw [servedBy, h.agent]

theorem Aligned.connected {served : List Request} {s : Session (AgentWorld A.machine)}
    (h : Aligned A key served s) : s.handler.sharedSecret ≠ none := by
  rw [h.secret]
  exact Option.some_ne_none key

/-! ## One call -/

namespace Agent

variable (hV : V.Lawful) (A : Agent V) (key : Bytes) (clientIv serverIv : BitVec 64)
  (served : List Request)
include hV

/-- **The agent reads the request that was sent.** -/
theorem requestOf_request (r : Request) :
    requestOf (V := V) ⟨.serving key, clientIv, serverIv, served⟩ key
      (sealPacket V key clientIv r.encode) = some r := by
  rw [requestOf, openPacket_sealPacket hV, Option.bind_some, decodeRequest_encode]

/-- It answers the request. -/
theorem react_request (r : Request) :
    A.react ⟨.serving key, clientIv, serverIv, served⟩ (sealPacket V key clientIv r.encode) =
      (⟨.serving key, clientIv + 1, serverIv + 1, served ++ [r]⟩,
        sealPacket V key serverIv (A.response served r)) := by
  show A.serve _ key _ = _
  rw [serve, requestOf_request hV]
  rfl

/-- It accepts a submission that it answers with status zero. -/
theorem accepts_submit {transactionId artifactId : UUID} {certificate : Bytes}
    (hstatus : (A.answer served (.submit transactionId artifactId certificate)).status = 0) :
    A.accepts ⟨.serving key, clientIv, serverIv, served⟩ (sealPacket V key clientIv
      (Request.submit transactionId artifactId certificate).encode) = true := by
  unfold accepts
  dsimp only
  rw [requestOf_request hV]
  exact decide_eq_true hstatus

end Agent

/-- A request delivered: the agent has served it, and its answer is the last
thing in the inbox. -/
theorem deliver_request (hV : V.Lawful) {w : AgentWorld A.machine} {clientIv serverIv : BitVec 64}
    {served : List Request}
    (hagent : w.agent = AgentState.mk (.serving key) clientIv serverIv served) (r : Request) :
    (w.deliver (sealPacket V key clientIv r.encode)).agent =
        AgentState.mk (.serving key) (clientIv + 1) (serverIv + 1) (served ++ [r]) ∧
      (w.deliver (sealPacket V key clientIv r.encode)).inbox =
        w.inbox ++ sealPacket V key serverIv (A.response served r) := by
  have hreact := A.react_request hV key clientIv serverIv served r
  refine ⟨?_, ?_⟩
  · show (A.react w.agent _).1 = _
    rw [hagent, hreact]
  · show w.inbox ++ (A.react w.agent _).2 = _
    rw [hagent, hreact]

/-- **The first half of a call**: the request is sealed and delivered, and the
agent's answer to it is the last thing in the inbox. -/
theorem Operation.call_served (hV : V.Lawful) {h : ProtocolHandlerImpl} {w : AgentWorld A.machine}
    {serverIv : BitVec 64} {served : List Request} (hlen : key.length = 32)
    (hsecret : h.sharedSecret = some key)
    (hagent : w.agent = AgentState.mk (.serving key) h.outerEnvelopeWriter.iv serverIv served)
    (hline : line.sendFails w.sends = false) {op : Operation} {r : Request}
    (hr : op.request C = .ok r) :
    ∃ w' : AgentWorld A.machine,
      op.call (A.platform C line) ⟨h, w⟩ = r.read (A.platform C line) ⟨h.afterWrite, w'⟩ ∧
        w'.agent = AgentState.mk (.serving key) (h.outerEnvelopeWriter.iv + 1) (serverIv + 1)
          (served ++ [r]) ∧
        w'.inbox = w.inbox ++ sealPacket V key serverIv (A.response served r) ∧
        w'.sends = w.sends + 1 ∧ w'.recvs = w.recvs := by
  have hconnected : h.sharedSecret ≠ none := by
    rw [hsecret]
    exact Option.some_ne_none key
  obtain ⟨hwritten, hfits⟩ := Operation.request_eq_ok_iff.mp hr
  have hsent := Handler.sendRequest_ok (C := C) hV (hV.takes hlen) hsecret hfits hline
  obtain ⟨hagent', hin⟩ := deliver_request hV hagent r
  exact ⟨_, (call_eq (P := A.platform C line) (s := ⟨h, w⟩) hwritten hconnected).trans
    (Effect.bind_ok hsent), hagent', hin, rfl, rfl⟩

/-- A call that finds no request to send. -/
theorem Aligned.call_refused (hV : V.Lawful) {served : List Request}
    {s : Session (AgentWorld A.machine)} (hal : Aligned A key served s) {op : Operation}
    {f : Fault} (hr : op.request C = .error f) : op.call (A.platform C line) s = .error f s :=
  Operation.call_refused (P := A.platform C line) hV (hV.takes hal.length_key) hal.secret hr

section

variable (C line)
variable (hV : V.Lawful)
include hV

/-- **A packet of a size the reader expects** is read off the inbox, whatever
it carries, and decoded. -/
theorem Request.read_packet {M : AgentMachine} {h : ProtocolHandlerImpl} {w : AgentWorld M}
    (hkey : V.Takes key) (hsecret : h.sharedSecret = some key) {r : Request} {p rest : Bytes}
    (hin : w.inbox = sealPacket V key h.outerEnvelopeReader.iv p ++ rest)
    (hmax : p.length ≤ MAX_PAYLOAD_SIZE) (hexpect : r.expect p.length = .ok ()) :
    Broken 3 (r.read (agentPlatform V C M line)) line ⟨h, w⟩ ∨
      ∃ n, r.read (agentPlatform V C M line) ⟨h, w⟩ =
        Effect.lift (r.decode p.length p) ⟨h.afterRead, w.took n rest⟩ := by
  -- only the answer to a submission is read in three pieces
  cases r with
  | submit t x c =>
    rcases Handler.readSplitResponse_cases C line hV hkey hsecret hin hmax _
        ((Request.submit t x c).decode 12) hexpect with hbroken | hread
    · exact .inl hbroken
    · exact .inr ⟨3, hread⟩
  | _ =>
    rcases Handler.readResponse_cases C line hV hkey hsecret hin hmax _
        (Request.decode _) hexpect with hbroken | hread
    · exact .inl (hbroken.mono (by omega))
    · exact .inr ⟨2, hread⟩

/-- The answer to a request, read off the inbox. -/
theorem Request.read_cases {M : AgentMachine} {h : ProtocolHandlerImpl} {w : AgentWorld M}
    (hkey : V.Takes key) (hsecret : h.sharedSecret = some key) {r : Request} {a : Answer}
    (hlaid : r.LaidOut a) {rest : Bytes}
    (hin : w.inbox = sealPacket V key h.outerEnvelopeReader.iv (a.payload r.id) ++ rest) :
    Broken 3 (r.read (agentPlatform V C M line)) line ⟨h, w⟩ ∨
      ∃ n, r.read (agentPlatform V C M line) ⟨h, w⟩ =
        Effect.lift (r.result a) ⟨h.afterRead, w.took n rest⟩ := by
  have hmax : (a.payload r.id).length ≤ MAX_PAYLOAD_SIZE := by
    rw [length_payload]
    exact hlaid.limit
  rw [← Request.decode_payload hlaid]
  exact read_packet C line hV hkey hsecret hin hmax (Request.expect_payload hlaid)

variable {C line} in
/-- **One call**: a `recv` throws, or the call gives the answer to its own
request and leaves both ends in step. -/
theorem Aligned.call_cases {served : List Request} {s : Session (AgentWorld A.machine)}
    (hal : Aligned A key served s) (hsend : ∀ i, line.sendFails i = false) {op : Operation}
    {r : Request} (hr : op.request C = .ok r) :
    Broken 3 (op.call (A.platform C line)) line s ∨
      ∃ s', Effect.outcome (op.call (A.platform C line)) s =
          (r.result (A.answer served r), s') ∧ Aligned A key (served ++ [r]) s' := by
  obtain ⟨h, w⟩ := s
  obtain ⟨hlen, hsecret, hagent, hinbox, hsends⟩ := hal
  have hsecret' : h.afterWrite.sharedSecret = some key := hsecret
  obtain ⟨w', hcall, hagent', hin, hsends', hrecvs⟩ :=
    Operation.call_served hV hlen hsecret hagent (hsend w.sends) hr
  rw [hinbox, List.nil_append] at hin
  rcases Request.read_cases C line hV (hV.takes hlen) hsecret' (A.laidOut served r)
      (hin.trans (List.append_nil _).symm) with hbroken | ⟨n, hread⟩
  · exact .inl (hbroken.of_eq hcall hrecvs)
  · refine .inr ⟨⟨h.afterWrite.afterRead, w'.took n []⟩, ?_, ⟨hlen, hsecret, hagent', rfl, ?_⟩⟩
    · rw [Effect.outcome, hcall.trans hread]
      exact Effect.outcome_lift ..
    · show w'.sends = _
      rw [hsends', hsends, List.length_append, List.length_singleton, Nat.add_assoc]

end

/-! ## The handshake -/

namespace Handler

/-- The first request is sent, and its answer is read and checked. -/
theorem exchangeHello_sent {M : AgentMachine} {h : ProtocolHandlerImpl} {w : AgentWorld M}
    (nonces : Nonces) (hline : line.sendFails w.sends = false) :
    exchangeHello (agentPlatform V C M line) nonces ⟨h, w⟩ = (do
      let response ← recvServerHello (agentPlatform V C M line)
      let hello ← Effect.lift (verifyServerHello h.agentId h.agentPublicEncKey response)
      pure (response, hello) : Handler (AgentWorld M) (Bytes × ServerHello))
      ⟨h, w.deliver (helloRequest h.entityId nonces)⟩ := by
  have hrequest : (Effect.lift (handshakeRequest h.entityId nonces) : Handler (AgentWorld M) Bytes)
      ⟨h, w⟩ = .ok (helloRequest h.entityId nonces) ⟨h, w⟩ := by
    rw [handshakeRequest_eq, Effect.lift_ok]
  exact (Effect.bind_ok (Effect.get_apply _)).trans <| (Effect.bind_ok hrequest).trans <|
    Effect.bind_ok (send_ok _ hline)

/-- The client's proof is sealed and delivered, and its answer is read. -/
theorem acknowledgeHandshake_sent (hV : V.Lawful) {M : AgentMachine} {h : ProtocolHandlerImpl}
    {w : AgentWorld M} (hlen : key.length = 32) (hsecret : h.sharedSecret = some key)
    (serverChallengeNonce : Bytes) (hline : line.sendFails w.sends = false) :
    acknowledgeHandshake (agentPlatform V C M line) serverChallengeNonce ⟨h, w⟩ =
      readSplitResponse (agentPlatform V C M line) (expectTwelve ").  Expected 12 bytes.")
        decodeAcknowledge ⟨h.afterWrite, w.deliver (sealPacket V key h.outerEnvelopeWriter.iv
          (V.macShort.mac key serverChallengeNonce))⟩ := by
  have hmac : HMAC.createHMACShort V h.sharedSecret serverChallengeNonce =
      .ok (V.macShort.mac key serverChallengeNonce) := by
    rw [hsecret, HMAC.createHMACShort_eq hV hlen]
  have hsent : sendRequest (agentPlatform V C M line)
      (HMAC.createHMACShort V h.sharedSecret serverChallengeNonce) ⟨h, w⟩ =
      .ok () ⟨h.afterWrite, w.deliver (sealPacket V key h.outerEnvelopeWriter.iv
        (V.macShort.mac key serverChallengeNonce))⟩ := by
    rw [hmac]
    exact sendRequest_ok hV (hV.takes hlen) hsecret (fitsPacket_mac hV ..) hline
  exact (Effect.bind_ok (Effect.get_apply _)).trans (Effect.bind_ok hsent)

/-- The first answer taken off the inbox. -/
theorem recvServerHello_cases (V : Vccrypt) (C : Vccert) (line : Line) {M : AgentMachine}
    {h : ProtocolHandlerImpl} {w : AgentWorld M} {response rest : Bytes}
    (hlen : response.length = 164)
    (hin : w.inbox = (IPC_DATA_TYPE_DATA_PACKET :: htonl 164) ++ (response ++ rest)) :
    Broken 2 (recvServerHello (agentPlatform V C M line)) line ⟨h, w⟩ ∨
      recvServerHello (agentPlatform V C M line) ⟨h, w⟩ =
        .ok response ⟨h, w.took 2 rest⟩ := by
  have hsize : copyOfRange (IPC_DATA_TYPE_DATA_PACKET :: htonl 164) 1 5 >>= ntohl = .ok 164 := by
    decide
  have htype : check ((IPC_DATA_TYPE_DATA_PACKET :: htonl 164)[0]? = some IPC_DATA_TYPE_DATA_PACKET)
      (Fault.java .invalidPacketTypeException "Incorrect message type") = .ok () := check_pos rfl
  cases h₀ : line.recvFails w.recvs with
  | true => exact .inl ⟨_, _, Effect.bind_error (recv_error 5 h₀), rfl, 0, by omega, h₀⟩
  | false =>
    have hheader : recvServerHello (agentPlatform V C M line) ⟨h, w⟩ =
        recv (agentPlatform V C M line) 164 ⟨h, w.took 1 (response ++ rest)⟩ := by
      unfold recvServerHello
      rw [Effect.bind_ok (recv_ok h₀ hin (by simp)), htype, Effect.bind_ok (Effect.lift_ok ..),
        hsize, Effect.bind_ok (Effect.lift_ok ..)]
      rfl
    cases h₁ : line.recvFails (w.recvs + 1) with
    | true => exact .inl ⟨_, _, hheader.trans (recv_error _ h₁), rfl, 1, by omega, h₁⟩
    | false => exact .inr (hheader.trans (recv_ok h₁ rfl hlen))

end Handler

namespace Agent

/-- A handler fresh from its constructor, for this agent and its client. -/
def client (A : Agent V) (privateKey : Bytes) : ProtocolHandlerImpl :=
  .new A.agentId A.entityId A.publicKey privateKey

/-- That handler on a connection just opened. -/
def fresh (A : Agent V) (privateKey : Bytes) : Session (AgentWorld A.machine) :=
  ⟨A.client privateKey, .start (M := A.machine) AgentState.start⟩

/-- A handler that belongs to this agent and its client, whatever its counters
and its secret. -/
structure Configures (A : Agent V) (privateKey : Bytes) (h : ProtocolHandlerImpl) : Prop where
  agentId : h.agentId = A.agentId
  entityId : h.entityId = A.entityId
  agentPublicEncKey : h.agentPublicEncKey = A.publicKey
  entityPrivateEncKey : h.entityPrivateEncKey = privateKey

theorem configures_client (A : Agent V) (privateKey : Bytes) :
    A.Configures privateKey (A.client privateKey) := ⟨rfl, rfl, rfl, rfl⟩

/-- A handler on a connection just opened. -/
def dialed (A : Agent V) (h : ProtocolHandlerImpl) : Session (AgentWorld A.machine) :=
  ⟨h, .start (M := A.machine) AgentState.start⟩

/-- **The agent answers the handshake request** under the secret it computes. -/
theorem react_hello (A : Agent V) (nonces : Nonces)
    (hsecret : V.shortTermSecret A.privateKey A.entityPublicKey A.serverKeyNonce
      nonces.clientKeyNonce = some key) :
    A.react .start (helloRequest A.entityId nonces) =
      ({ AgentState.start with phase := .awaitingAcknowledge key },
        A.helloResponse key nonces.clientChallengeNonce) := by
  show A.hello _ _ = _
  rw [hello, decodeHello_helloRequest]
  dsimp only
  rw [if_pos rfl, hsecret]

/-- **The agent accepts the client's proof.** -/
theorem react_acknowledge (hV : V.Lawful) (A : Agent V) (key : Bytes)
    (clientIv serverIv : BitVec 64) (served : List Request) :
    A.react ⟨.awaitingAcknowledge key, clientIv, serverIv, served⟩
        (sealPacket V key clientIv (V.macShort.mac key A.serverChallengeNonce)) =
      (⟨.serving key, clientIv + 1, serverIv + 1, served⟩,
        sealPacket V key serverIv A.acknowledgeResponse) := by
  show A.acknowledge _ key _ = _
  rw [acknowledge, openPacket_sealPacket hV]
  dsimp only
  rw [if_pos rfl]
  rfl

end Agent

namespace Handler

/-- The code over the first answer verifies under the same secret. -/
theorem verifyServerCode_ok (hV : V.Lawful) (A : Agent V) (C : Vccert) (line : Line)
    (hkey : key.length = 32) (nonces : Nonces) :
    verifyServerCode (A.platform C line) nonces key
      (A.helloBody key nonces.clientChallengeNonce)
      (A.serverHello key nonces.clientChallengeNonce) = .ok () := by
  have hpart := Agent.length_helloPart (A := A) hV
  have hcut : copyOfRange (A.helloBody key nonces.clientChallengeNonce) 0 132 =
      .ok A.helloPart := by
    rw [copyOfRange_eq (by omega) (by rw [Agent.length_helloBody hV]; omega), Agent.helloBody,
      slice_append_left hpart.ge, slice_self _ _ hpart.le]
  have hmac : HMAC.createHMACShortArr V (some key) [A.helloPart, nonces.clientChallengeNonce] =
      .ok (A.helloCode key nonces.clientChallengeNonce) := by
    rw [HMAC.createHMACShortArr_eq hV hkey, Agent.helloCode]
    simp
  rw [verifyServerCode, hcut, ok_bind]
  refine (bind_ok hmac).trans (check_pos ?_)
  exact (EqualsUtil.constantTimeEqual_iff _ _).mpr rfl

section

variable (hV : V.Lawful) {privateKey : Bytes} (nonces : Nonces)
  (hsend : ∀ i, line.sendFails i = false)
include hV hsend

section FirstRound

variable {h : ProtocolHandlerImpl} (hh : A.Configures privateKey h)
include hh

/-- **The first round up to the key agreement**: the answer is taken off the
channel and passes the checks. -/
theorem exchangeHello_cases
    (hagent : V.shortTermSecret A.privateKey A.entityPublicKey A.serverKeyNonce
      nonces.clientKeyNonce = some key) :
    Broken 2 (exchangeHello (A.platform C line) nonces) line (A.dialed h) ∨
      ∃ w : AgentWorld A.machine,
        exchangeHello (A.platform C line) nonces (A.dialed h) =
          .ok (A.helloBody key nonces.clientChallengeNonce,
            A.serverHello key nonces.clientChallengeNonce) ⟨h, w⟩ ∧
        w.agent = ({ AgentState.start with phase := .awaitingAcknowledge key } : AgentState) ∧
        w.inbox = [] ∧ w.sends = 1 ∧ w.recvs = 2 ∧ w.threw = false := by
  let w : AgentWorld A.machine :=
    (A.dialed h).world.deliver (helloRequest A.entityId nonces)
  have hreact := A.react_hello nonces hagent
  have hagent : w.agent =
      ({ AgentState.start with phase := .awaitingAcknowledge key } : AgentState) := by
    show (A.react .start (helloRequest A.entityId nonces)).1 = _
    rw [hreact]
  have hin : w.inbox = (IPC_DATA_TYPE_DATA_PACKET :: htonl 164) ++
      (A.helloBody key nonces.clientChallengeNonce ++ []) := by
    show [] ++ (A.react .start (helloRequest A.entityId nonces)).2 = _
    rw [hreact, List.nil_append, List.append_nil]
    rfl
  have hsent : exchangeHello (A.platform C line) nonces (A.dialed h) = (do
      let response ← recvServerHello (A.platform C line)
      let hello ← Effect.lift (verifyServerHello h.agentId h.agentPublicEncKey response)
      pure (response, hello) : Handler (AgentWorld A.machine) (Bytes × ServerHello)) ⟨h, w⟩ := by
    rw [Agent.dialed, exchangeHello_sent nonces (hsend _), hh.entityId]
    rfl
  have hverify : (Effect.lift (verifyServerHello h.agentId h.agentPublicEncKey
      (A.helloBody key nonces.clientChallengeNonce)) : Handler (AgentWorld A.machine) ServerHello)
      ⟨h, w.took 2 []⟩ =
      .ok (A.serverHello key nonces.clientChallengeNonce) ⟨h, w.took 2 []⟩ := by
    rw [hh.agentId, hh.agentPublicEncKey, Agent.verifyServerHello_helloBody hV, Effect.lift_ok]
  -- only the two `recv`s of the answer may throw
  rcases recvServerHello_cases (h := h) V C line
    (Agent.length_helloBody hV key nonces.clientChallengeNonce) hin with hbroken | hrecv
  · exact .inl ((hbroken.bind _).of_eq hsent rfl)
  · refine .inr ⟨w.took 2 [], ?_, hagent, rfl, rfl, rfl, rfl⟩
    exact hsent.trans <| (Effect.bind_ok hrecv).trans (Effect.bind_ok hverify)

/-- **The first round**: it ends with the secret both ends compute. -/
theorem initiateHandshake_cases (hkey : key.length = 32)
    (hclient : V.shortTermSecret privateKey A.publicKey A.serverKeyNonce nonces.clientKeyNonce =
      some key)
    (hagent : V.shortTermSecret A.privateKey A.entityPublicKey A.serverKeyNonce
      nonces.clientKeyNonce = some key) :
    Broken 2 (initiateHandshake (A.platform C line) nonces) line (A.dialed h) ∨
      ∃ w : AgentWorld A.machine,
        initiateHandshake (A.platform C line) nonces (A.dialed h) =
          .ok A.serverChallengeNonce ⟨{ h with sharedSecret := some key }, w⟩ ∧
        w.agent = ({ AgentState.start with phase := .awaitingAcknowledge key } : AgentState) ∧
        w.inbox = [] ∧ w.sends = 1 ∧ w.recvs = 2 ∧ w.threw = false := by
  rcases exchangeHello_cases (C := C) hV nonces hsend hh hagent with
    hbroken | ⟨w, hexchange, hworld⟩
  · exact .inl (hbroken.bind _)
  · right
    have hsecret : (Effect.lift (computeSharedSecret V h.entityPrivateEncKey A.publicKey
        A.serverKeyNonce nonces.clientKeyNonce) : Handler (AgentWorld A.machine) Bytes) ⟨h, w⟩ =
        .ok key ⟨h, w⟩ := by
      rw [computeSharedSecret, hh.entityPrivateEncKey, hclient, orThrow_some, Effect.lift_ok]
    refine ⟨w, ?_, hworld⟩
    -- the assignment comes before the code is verified
    refine (Effect.bind_ok hexchange).trans <| (Effect.bind_ok (Effect.get_apply _)).trans <|
      (Effect.bind_ok hsecret).trans <| (Effect.bind_ok rfl).trans ?_
    dsimp only
    rw [verifyServerCode_ok hV A C line hkey]
    rfl

end FirstRound

/-- **The second round**: the agent accepts, and both ends are in step. -/
theorem acknowledgeHandshake_cases {h : ProtocolHandlerImpl} {w : AgentWorld A.machine}
    (hlen : key.length = 32) (hsecret : h.sharedSecret = some key)
    (hagent : w.agent = AgentState.mk (.awaitingAcknowledge key) h.outerEnvelopeWriter.iv
      h.outerEnvelopeReader.iv []) (hinbox : w.inbox = []) (hsends : w.sends = 1) :
    Broken 3 (acknowledgeHandshake (A.platform C line) A.serverChallengeNonce) line ⟨h, w⟩ ∨
      ∃ s', acknowledgeHandshake (A.platform C line) A.serverChallengeNonce ⟨h, w⟩ = .ok () s' ∧
        Aligned A key [] s' ∧ s'.world.recvs = w.recvs + 3 ∧ s'.world.threw = w.threw := by
  have hkey : V.Takes key := hV.takes hlen
  have hsecret' : h.afterWrite.sharedSecret = some key := hsecret
  let w' : AgentWorld A.machine := w.deliver
    (sealPacket V key h.outerEnvelopeWriter.iv (V.macShort.mac key A.serverChallengeNonce))
  have hreact := A.react_acknowledge hV key h.outerEnvelopeWriter.iv h.outerEnvelopeReader.iv []
  have hagent' : w'.agent = AgentState.mk (.serving key) (h.outerEnvelopeWriter.iv + 1)
      (h.outerEnvelopeReader.iv + 1) [] := by
    show (A.react w.agent _).1 = _
    rw [hagent, hreact]
  have hin : w'.inbox =
      sealPacket V key h.afterWrite.outerEnvelopeReader.iv A.acknowledgeResponse ++ [] := by
    show w.inbox ++ (A.react w.agent _).2 = _
    rw [hagent, hreact, hinbox, List.nil_append, List.append_nil]
    rfl
  -- the agent's second answer passes every check of the client
  have hmax : A.acknowledgeResponse.length ≤ MAX_PAYLOAD_SIZE := by
    rw [Agent.acknowledgeResponse, length_payload]
    exact (by decide : 12 + 0 ≤ MAX_PAYLOAD_SIZE)
  have hexpect : expectTwelve ").  Expected 12 bytes." A.acknowledgeResponse.length = .ok () :=
    check_pos (length_payload ..)
  have hdecode : decodeAcknowledge A.acknowledgeResponse = .ok () := by
    rw [decodeAcknowledge, Agent.acknowledgeResponse, verifyRequestId_payload, check_pos rfl,
      ok_bind, responseStatus_payload, ok_bind]
    exact check_pos rfl
  have hcall := acknowledgeHandshake_sent (C := C) hV hlen hsecret A.serverChallengeNonce
    (hsend w.sends)
  rcases readSplitResponse_cases C line hV hkey hsecret' hin hmax _ decodeAcknowledge hexpect with
    hbroken | hread
  · exact .inl (hbroken.of_eq hcall rfl)
  · refine .inr ⟨⟨h.afterWrite.afterRead, w'.took 3 []⟩, hcall.trans (hread.trans ?_),
      ⟨hlen, hsecret, hagent', rfl, congrArg (· + 1) hsends⟩, rfl, rfl⟩
    rw [hdecode, Effect.lift_ok]

/-- **The handshake**: a `recv` throws, or it returns with both ends in step
and nothing served. -/
theorem handshake_cases (hclient : V.IsKeyPair privateKey A.entityPublicKey) :
    Broken 5 (handshake (A.platform C line) nonces) line (A.fresh privateKey) ∨
      ∃ key s', handshake (A.platform C line) nonces (A.fresh privateKey) = .ok () s' ∧
        Aligned A key [] s' ∧ s'.world.recvs = 5 ∧ s'.world.threw = false := by
  obtain ⟨key, hkc, hka, hlen⟩ := hV.shortTerm_agree hclient A.isKeyPair A.length_serverKeyNonce
    nonces.length_clientKeyNonce
  rcases initiateHandshake_cases (C := C) hV nonces hsend (A.configures_client privateKey) hlen hkc
    hka with
    hbroken | ⟨w, hfirst, hagent, hinbox, hsends, hrecvs, hthrew⟩
  · exact .inl ((hbroken.bind _).mono (by omega))
  rcases acknowledgeHandshake_cases (C := C)
    (h := { A.client privateKey with sharedSecret := some key }) hV hsend hlen rfl hagent hinbox
    hsends with
    hbroken | ⟨s', hsecond, hal, hrecvs', hthrew'⟩
  · exact .inl (hbroken.after hfirst hrecvs)
  · refine .inr ⟨key, s', (Effect.bind_ok hfirst).trans hsecond, hal, ?_, hthrew'.trans hthrew⟩
    rw [hrecvs', hrecvs]

/-- The handshake on a line that lets its five `recv`s through. -/
theorem handshake_ok (hclient : V.IsKeyPair privateKey A.entityPublicKey)
    (hrecv : ∀ i < 5, line.recvFails i = false) :
    ∃ key s', handshake (A.platform C line) nonces (A.fresh privateKey) = .ok () s' ∧
      Aligned A key [] s' ∧ s'.world.recvs = 5 ∧ s'.world.threw = false := by
  rcases handshake_cases (C := C) hV nonces hsend hclient with hbroken | hshake
  · refine hbroken.elim fun i hi => ?_
    show line.recvFails (0 + i) = false
    rw [Nat.zero_add]
    exact hrecv i hi
  · exact hshake

end

end Handler

end VjBlockchain
