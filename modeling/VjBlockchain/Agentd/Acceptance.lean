import VjBlockchain.Agentd.Gate
/-!
# What the handshake accepts

The client's half of the handshake over every sequence of octets it may
receive. The peer is nobody in particular: what it says is fixed, and the
client's own messages change nothing about it. `AuthenticHello` and
`AuthenticAcknowledge` are the two answers an agent that knows the shared
secret gives; the handshake returns on the sequences that start with both,
and throws on all others.

A first answer of any other length than that of the table ends in
`handleHandshakeInitiateError`, with nothing assigned.
-/

namespace VjBlockchain

open Common Common.Bytes Common.Throwing ByteUtil

/-- A peer that reacts to nothing. -/
def mute : AgentMachine where
  State := Unit
  react _ _ := ((), [])
  accepts _ _ := false

/-- A handler, and the octets it is going to receive. -/
def receiving (h : ProtocolHandlerImpl) (stream : Bytes) : Session (AgentWorld mute) :=
  ⟨h, { AgentWorld.start (M := mute) () with inbox := stream }⟩

/-- **An authentic first answer** to a handler: the fields are right, and the
code at the end is that of the rest under the secret both sides compute. -/
structure AuthenticHello (V : Vccrypt) (h : ProtocolHandlerImpl) (nonces : Nonces)
    (secret body : Bytes) : Prop where
  length_body : body.length = 164
  fields : HelloFields h.agentId h.agentPublicEncKey body
  agreement : V.shortTermSecret h.entityPrivateEncKey (slice body 36 68) (slice body 68 100)
    nonces.clientKeyNonce = some secret
  code : slice body 132 164 =
    V.macShort.mac secret (slice body 0 132 ++ nonces.clientChallengeNonce)

/-- **A second answer that accepts the client.** -/
structure AuthenticAcknowledge (payload : Bytes) : Prop where
  length_payload : payload.length = 12
  requestId : slice payload 0 4 = htonl UNAUTH_PROTOCOL_REQ_ID_HANDSHAKE_ACKNOWLEDGE
  status : slice payload 4 8 = htonl 0

/-- **The octets received start with two authentic answers**, the second one
sealed under the secret and the reader's counter. -/
def AuthenticReplies (V : Vccrypt) (h : ProtocolHandlerImpl) (nonces : Nonces)
    (stream : Bytes) : Prop :=
  ∃ secret body payload rest, AuthenticHello V h nonces secret body ∧
    AuthenticAcknowledge payload ∧
    stream = helloHeader 164 ++ body ++
      sealPacket V secret h.outerEnvelopeReader.iv payload ++ rest

/-- A secret the short-term agreement gives is as long as a key. -/
def Vccrypt.SizedSecrets (V : Vccrypt) : Prop :=
  ∀ {a B sn cn k}, V.shortTermSecret a B sn cn = some k → k.length = 32

theorem XorSuite.suite_sizedSecrets : XorSuite.suite.SizedSecrets := by
  intro a B sn cn k h
  obtain ⟨-, hk⟩ := Option.ite_none_right_eq_some.mp h
  rw [← Option.some.inj hk, length_toBE]

/-! ## Fields -/

/-- **What the client checks in a whole first answer** are its fields. -/
theorem verifyServerHello_whole_iff {agentId : UUID} {agentPublicEncKey body : Bytes}
    {hello : ServerHello} (hlen : body.length = 164) :
    verifyServerHello agentId agentPublicEncKey body = .ok hello ↔
      HelloFields agentId agentPublicEncKey body ∧ hello = serverHelloOf body := by
  rw [verifyServerHello_eq_ok_iff, copyOfRange_eq (by omega) hlen.ge]
  constructor
  · rintro ⟨-, hfields, code, hcode, rfl⟩
    obtain rfl := Except.ok.inj hcode
    exact ⟨hfields, rfl⟩
  · rintro ⟨hfields, rfl⟩
    exact ⟨by omega, hfields, _, rfl, rfl⟩

/-- **What the client checks in the second answer.** -/
theorem decodeAcknowledge_eq_ok_iff {p : Bytes} (hlen : p.length = 12) :
    decodeAcknowledge p = .ok () ↔ AuthenticAcknowledge p := by
  have hword : (slice p 4 8).length = 4 := by
    rw [length_slice]
    omega
  have hstatus : responseStatus p = .ok (ofBE (slice p 4 8)) := by
    rw [responseStatus, copyOfRange_eq (by omega) (by omega), ok_bind, ntohl_eq hword]
  rw [decodeAcknowledge, hstatus]
  constructor
  · intro h
    obtain ⟨_, hrequest, h⟩ := bind_eq_ok_iff.mp h
    exact ⟨hlen, (verifyRequestId_eq_ok_iff (by omega) ..).mp hrequest,
      (ofBE_slice_iff (i := 4) (by omega) 0).mp (check_eq_ok_iff.mp h)⟩
  · rintro ⟨-, hrequest, hzero⟩
    rw [(verifyRequestId_eq_ok_iff (by omega) ..).mpr hrequest, ok_bind, ok_bind]
    exact check_pos ((ofBE_slice_iff (i := 4) (by omega) 0).mpr hzero)

namespace Handler

/-- **The code of the first answer**, under a key. -/
theorem verifyServerCode_eq_ok_iff {W : Type} {P : Platform W} (hV : P.crypt.Lawful)
    {secret body : Bytes} (hsecret : secret.length = 32) (hlen : body.length = 164)
    (nonces : Nonces) (hello : ServerHello) :
    verifyServerCode P nonces secret body hello = .ok () ↔
      hello.serverChallengeResponseHMAC =
        P.crypt.macShort.mac secret (slice body 0 132 ++ nonces.clientChallengeNonce) := by
  rw [verifyServerCode, copyOfRange_eq (by omega) (by omega), ok_bind,
    HMAC.createHMACShortArr_eq hV hsecret, ok_bind, check_eq_ok_iff,
    EqualsUtil.constantTimeEqual_iff, List.flatten_cons, List.flatten_cons, List.flatten_nil,
    List.append_nil]
  exact eq_comm

/-! ## The first packet -/

section

variable {V : Vccrypt} {C : Vccert} {M : AgentMachine} {line : Line} {h : ProtocolHandlerImpl}
  {w : AgentWorld M}

/-- The header is read, and its length decides what is read next. -/
theorem recvServerHello_header {n : JInt} {rest : Bytes} (hline : line.recvFails w.recvs = false)
    (hin : w.inbox = helloHeader n ++ rest) :
    recvServerHello (agentPlatform V C M line) ⟨h, w⟩ = (do
      if n.toInt ≠ 164 then handleHandshakeInitiateError (agentPlatform V C M line) n.toInt
      recv (agentPlatform V C M line) n.toInt.toNat : Handler (AgentWorld M) Bytes)
      ⟨h, w.took 1 rest⟩ := by
  have htype : check ((helloHeader n)[0]? = some IPC_DATA_TYPE_DATA_PACKET)
      (Fault.java .invalidPacketTypeException "Incorrect message type") = .ok () := check_pos rfl
  have hcut : slice (helloHeader n) 1 5 = htonl n := slice_self (htonl n) 4 (length_htonl n).le
  have hsize : copyOfRange (helloHeader n) 1 5 >>= ntohl = .ok n.toNat := by
    rw [copyOfRange_eq (by omega) (by simp), ok_bind, hcut, ntohl_htonl]
  unfold recvServerHello
  rw [Effect.bind_ok (recv_ok hline hin (length_helloHeader n)), htype,
    Effect.bind_ok (Effect.lift_ok ..), hsize, Effect.bind_ok (Effect.lift_ok ..)]
  dsimp only
  rw [BitVec.ofNat_toNat, BitVec.setWidth_eq]

/-- **Any other length** is the business of `handleHandshakeInitiateError`,
and with it the method ends. -/
theorem recvServerHello_length {n : JInt} {rest : Bytes} (hn : n ≠ 164)
    (hline : line.recvFails w.recvs = false) (hin : w.inbox = helloHeader n ++ rest) :
    ∃ f s', handleHandshakeInitiateError (agentPlatform V C M line) n.toInt ⟨h, w.took 1 rest⟩ =
        .error f s' ∧
      s'.handler = h ∧ recvServerHello (agentPlatform V C M line) ⟨h, w⟩ = .error f s' := by
  have hint : n.toInt ≠ 164 := fun hint => hn (BitVec.eq_of_toInt_eq hint)
  obtain ⟨f, s', hthrows, hkept⟩ := handleHandshakeInitiateError_throws
    (P := agentPlatform V C M line) n.toInt ⟨h, w.took 1 rest⟩
  refine ⟨f, s', hthrows, hkept, ?_⟩
  rw [recvServerHello_header hline hin, if_pos hint]
  exact Effect.bind_error hthrows

/-- Backwards: **what a first answer that was taken off the channel was.** -/
theorem of_recvServerHello_ok {body : Bytes} {s' : Session (AgentWorld M)}
    (hok : recvServerHello (agentPlatform V C M line) ⟨h, w⟩ = .ok body s') :
    body.length = 164 ∧
      ∃ rest, w.inbox = helloHeader 164 ++ (body ++ rest) ∧ s' = ⟨h, w.took 2 rest⟩ := by
  obtain ⟨header, w₁, w₂, hheader, htake, hbody, rfl⟩ := recvServerHello_ok_iff.mp hok
  have hheader : recv (agentPlatform V C M line) 5 ⟨h, w⟩ = .ok header ⟨h, w₁⟩ :=
    onWorld_eq_ok_iff.mpr ⟨w₁, hheader, rfl⟩
  have hbody : recv (agentPlatform V C M line) 164 ⟨h, w₁⟩ = .ok body ⟨h, w₂⟩ :=
    onWorld_eq_ok_iff.mpr ⟨w₂, hbody, rfl⟩
  obtain ⟨-, hfive, rest, hin, hw⟩ := of_recv_ok hheader
  cases hw
  obtain ⟨-, hlen, rest', hin', hw⟩ := of_recv_ok hbody
  cases hw
  have hin' : rest = body ++ rest' := hin'
  rw [List.take_of_length_le hfive.le] at htake
  rw [htake, hin'] at hin
  exact ⟨hlen, rest', hin, rfl⟩

end

/-! ## The two rounds -/

section

variable {V : Vccrypt} (C : Vccert) (hV : V.Lawful)

/-- A platform with the peer that reacts to nothing behind its channel. -/
abbrev mutePlatform (V : Vccrypt) (C : Vccert) : Platform (AgentWorld mute) :=
  agentPlatform V C mute .reliable

/-- **A first answer is taken** if it is there with the right fields, whatever its
code. -/
theorem exchangeHello_eq_ok_iff (nonces : Nonces) {h : ProtocolHandlerImpl} {w : AgentWorld mute}
    {response : Bytes} {hello : ServerHello} {s' : Session (AgentWorld mute)} :
    exchangeHello (mutePlatform V C) nonces ⟨h, w⟩ = .ok (response, hello) s' ↔
      response.length = 164 ∧ HelloFields h.agentId h.agentPublicEncKey response ∧
        hello = serverHelloOf response ∧ ∃ rest,
          w.inbox = helloHeader 164 ++ (response ++ rest) ∧
          s' = ⟨h, (w.deliver (helloRequest h.entityId nonces)).took 2 rest⟩ := by
  have hsent := exchangeHello_sent (V := V) (C := C) (h := h) (w := w) nonces
    (Line.reliable_sends w.sends)
  have hinbox : (w.deliver (helloRequest h.entityId nonces)).inbox = w.inbox :=
    List.append_nil _
  rw [hsent]
  constructor
  · intro hexchange
    obtain ⟨body, s₂, hrecv, hverify⟩ := Effect.bind_eq_ok hexchange
    obtain ⟨hlen, rest, hin, rfl⟩ := of_recvServerHello_ok hrecv
    obtain ⟨hello', s₃, hverified, hpair⟩ := Effect.bind_eq_ok hverify
    obtain ⟨hchecked, rfl⟩ := Effect.lift_eq_ok_iff.mp hverified
    obtain ⟨hfields, rfl⟩ := (verifyServerHello_whole_iff hlen).mp hchecked
    cases hpair
    exact ⟨hlen, hfields, rfl, rest, hinbox.symm.trans hin, rfl⟩
  · rintro ⟨hlen, hfields, rfl, rest, hin, rfl⟩
    have hrecv : recvServerHello (mutePlatform V C)
        ⟨h, w.deliver (helloRequest h.entityId nonces)⟩ =
        .ok response ⟨h, (w.deliver (helloRequest h.entityId nonces)).took 2 rest⟩ :=
      (recvServerHello_header rfl (hinbox.trans hin)).trans
        (recv_ok (w := (w.deliver (helloRequest h.entityId nonces)).took 1 (response ++ rest)) rfl
          rfl hlen)
    have hverify := (verifyServerHello_whole_iff hlen).mpr ⟨hfields, rfl⟩
    rw [Effect.bind_ok hrecv, hverify]
    rfl

include hV

/-- **The first round** returns on an authentic first answer, and on nothing
else. -/
theorem initiateHandshake_eq_ok_iff (hsized : V.SizedSecrets) (nonces : Nonces)
    {h : ProtocolHandlerImpl} {w : AgentWorld mute} {challenge : Bytes}
    {s' : Session (AgentWorld mute)} :
    initiateHandshake (mutePlatform V C) nonces ⟨h, w⟩ = .ok challenge s' ↔
      ∃ secret body rest, AuthenticHello V h nonces secret body ∧
        w.inbox = helloHeader 164 ++ (body ++ rest) ∧ challenge = slice body 100 132 ∧
        s' = ⟨{ h with sharedSecret := some secret },
          (w.deliver (helloRequest h.entityId nonces)).took 2 rest⟩ := by
  constructor
  · intro hok
    obtain ⟨⟨response, hello⟩, s₁, hexchange, hrest⟩ := Effect.bind_eq_ok hok
    obtain ⟨hlen, hfields, rfl, rest, hin, rfl⟩ := (exchangeHello_eq_ok_iff C nonces).mp hexchange
    -- the secret is computed from what the answer brought, and the code checked under it
    dsimp only at hrest
    rw [Effect.get_bind] at hrest
    obtain ⟨secret, s₄, hsecret, hrest⟩ := Effect.bind_eq_ok hrest
    obtain ⟨hcomputed, rfl⟩ := Effect.lift_eq_ok_iff.mp hsecret
    have hagree := orThrow_eq_ok_iff.mp hcomputed
    obtain ⟨_, s₅, hset, hrest⟩ := Effect.bind_eq_ok hrest
    cases hset
    obtain ⟨_, s₆, hverified, hrest⟩ := Effect.bind_eq_ok hrest
    obtain ⟨hcode, rfl⟩ := Effect.lift_eq_ok_iff.mp hverified
    have hcode := (verifyServerCode_eq_ok_iff hV (hsized hagree) hlen nonces _).mp hcode
    cases hrest
    exact ⟨secret, response, rest, ⟨hlen, hfields, hagree, hcode⟩, hin, rfl, rfl⟩
  · rintro ⟨secret, body, rest, hhello, hin, rfl, rfl⟩
    have hexchange := (exchangeHello_eq_ok_iff (V := V) C nonces).mpr
      ⟨hhello.length_body, hhello.fields, rfl, rest, hin, rfl⟩
    have hsecret : computeSharedSecret (mutePlatform V C).crypt h.entityPrivateEncKey
        (serverHelloOf body).serverPublicKey (serverHelloOf body).serverKeyNonce
        nonces.clientKeyNonce = .ok secret := by
      exact orThrow_eq_ok_iff.mpr hhello.agreement
    have hcode := (verifyServerCode_eq_ok_iff (P := mutePlatform V C) hV (hsized hhello.agreement)
      hhello.length_body nonces (serverHelloOf body)).mpr hhello.code
    refine (Effect.bind_ok hexchange).trans ((Effect.bind_ok (Effect.get_apply _)).trans ?_)
    dsimp only
    rw [hsecret, Effect.bind_ok (Effect.lift_ok ..)]
    refine (Effect.bind_ok rfl).trans ?_
    rw [hcode]
    rfl

/-- **The second round** returns on an authentic second answer, and on
nothing else. -/
theorem acknowledgeHandshake_eq_ok_iff {h : ProtocolHandlerImpl} {w : AgentWorld mute}
    {secret : Bytes} (hlen : secret.length = 32) (hsecret : h.sharedSecret = some secret)
    (challenge : Bytes) :
    (∃ s', acknowledgeHandshake (mutePlatform V C) challenge ⟨h, w⟩ = .ok () s') ↔
      ∃ payload rest, AuthenticAcknowledge payload ∧
        w.inbox = sealPacket V secret h.outerEnvelopeReader.iv payload ++ rest := by
  have hsent := acknowledgeHandshake_sent (C := C) (w := w) hV hlen hsecret challenge
    (Line.reliable_sends w.sends)
  have hsecret' : h.afterWrite.sharedSecret = some secret := hsecret
  have hinbox : ∀ m, (w.deliver m).inbox = w.inbox := fun _ => List.append_nil _
  rw [hsent]
  constructor
  · rintro ⟨s', hok⟩
    obtain ⟨-, p, rest, hin, -, -, hexpect, hdecode, -⟩ := of_readSplitResponse_ok hV hsecret' hok
    exact ⟨p, rest, (decodeAcknowledge_eq_ok_iff (check_eq_ok_iff.mp hexpect)).mp hdecode,
      (hinbox _).symm.trans hin⟩
  · rintro ⟨p, rest, hp, hin⟩
    have hmax : p.length ≤ MAX_PAYLOAD_SIZE := hp.length_payload.trans_le (by decide)
    have hexpect : expectTwelve ").  Expected 12 bytes." p.length = .ok () :=
      check_pos hp.length_payload
    rcases readSplitResponse_cases C .reliable hV (hV.takes hlen) hsecret' ((hinbox _).trans hin)
      hmax _ decodeAcknowledge hexpect with hbroken | hread
    · exact hbroken.elim fun _ _ => rfl
    · rw [(decodeAcknowledge_eq_ok_iff hp.length_payload).mpr hp] at hread
      exact ⟨_, hread⟩

/-- A handshake that does not return throws. -/
theorem handshake_throws (nonces : Nonces) {s s' : Session (AgentWorld mute)} {f : Fault}
    (h : handshake (mutePlatform V C) nonces s = .error f s') : ∃ e, f = .thrown e := by
  have hrespects : Respects (mutePlatform V C) (fun _ => True) fun f => ∃ e, f = .thrown e :=
    .ofWorld (J := fun _ => True) hV (fun e => ⟨e, rfl⟩)
      (agentChannel_send ⟨_, rfl⟩ (fun _ _ _ => trivial) fun _ _ => trivial)
      (agentChannel_recv ⟨_, rfl⟩ (fun _ _ _ _ => trivial) fun _ _ => trivial)
  have hset : ∀ secret, Effect.Preserves (fun _ : Session (AgentWorld mute) => True)
      (fun f => ∃ e, f = .thrown e) (setSharedSecret secret) := by
    intro secret
    refine ⟨fun _ _ => trivial, ?_⟩
    rintro s f s' - ⟨⟩
  exact ((hrespects.handshake hset nonces).error trivial h).2

/-- The handshake returns exactly on authentic replies. -/
theorem handshake_ok_iff (hsized : V.SizedSecrets) (h : ProtocolHandlerImpl) (nonces : Nonces)
    (stream : Bytes) :
    (∃ s', handshake (mutePlatform V C) nonces (receiving h stream) = .ok () s') ↔
      AuthenticReplies V h nonces stream := by
  constructor
  · rintro ⟨s', hok⟩
    obtain ⟨challenge, s₁, hfirst, hsecond⟩ := Effect.bind_eq_ok hok
    obtain ⟨secret, body, rest, hhello, hin, rfl, rfl⟩ :=
      (initiateHandshake_eq_ok_iff C hV hsized nonces).mp hfirst
    obtain ⟨payload, rest', hack, rfl⟩ := (acknowledgeHandshake_eq_ok_iff C hV
      (hsized hhello.agreement) rfl _).mp ⟨s', hsecond⟩
    refine ⟨secret, body, payload, rest', hhello, hack, ?_⟩
    rw [List.append_assoc, List.append_assoc]
    exact hin
  · rintro ⟨secret, body, payload, rest, hhello, hack, hstream⟩
    let packet := sealPacket V secret h.outerEnvelopeReader.iv payload
    let w := ((receiving h stream).world.deliver (helloRequest h.entityId nonces)).took 2
      (packet ++ rest)
    have hin : (receiving h stream).world.inbox =
        helloHeader 164 ++ (body ++ (packet ++ rest)) := by
      show stream = _
      rw [hstream, List.append_assoc, List.append_assoc]
    have hfirst : initiateHandshake (mutePlatform V C) nonces (receiving h stream) =
        .ok (slice body 100 132) ⟨{ h with sharedSecret := some secret }, w⟩ :=
      (initiateHandshake_eq_ok_iff C hV hsized nonces).mpr
        ⟨secret, body, packet ++ rest, hhello, hin, rfl, rfl⟩
    have hlen : secret.length = 32 := hsized hhello.agreement
    obtain ⟨s', hsecond⟩ := (acknowledgeHandshake_eq_ok_iff C hV
      (h := { h with sharedSecret := some secret }) (w := w) hlen rfl (slice body 100 132)).mpr
      ⟨payload, rest, hack, rfl⟩
    exact ⟨s', (Effect.bind_ok hfirst).trans hsecond⟩

omit C in
/-- **An agent's own replies are authentic** to a client that computes the
agent's secret, at whatever counter the client reads. -/
theorem authenticReplies_of_agent {A : Agent V} {privateKey key : Bytes}
    {h : ProtocolHandlerImpl} (hh : A.Configures privateKey h) (nonces : Nonces)
    (hclient : V.shortTermSecret privateKey A.publicKey A.serverKeyNonce nonces.clientKeyNonce =
      some key) :
    AuthenticReplies V h nonces (A.helloResponse key nonces.clientChallengeNonce ++
      sealPacket V key h.outerEnvelopeReader.iv A.acknowledgeResponse) := by
  have hlen := Agent.length_helloBody (A := A) hV key nonces.clientChallengeNonce
  have hverify : verifyServerHello h.agentId h.agentPublicEncKey
      (A.helloBody key nonces.clientChallengeNonce) =
      .ok (A.serverHello key nonces.clientChallengeNonce) := by
    rw [hh.agentId, hh.agentPublicEncKey, Agent.verifyServerHello_helloBody hV]
  obtain ⟨hfields, hhello⟩ := (verifyServerHello_whole_iff hlen).mp hverify
  obtain ⟨hpublic, hkeyNonce, -, hcode⟩ := ServerHello.mk.inj hhello
  have hpart : slice (A.helloBody key nonces.clientChallengeNonce) 0 132 = A.helloPart := by
    rw [Agent.helloBody, slice_append_left (Agent.length_helloPart hV).ge,
      slice_self _ _ (Agent.length_helloPart hV).le]
  refine ⟨key, _, A.acknowledgeResponse, [], ⟨hlen, hfields, ?_, ?_⟩,
    ⟨length_payload .., slice_payload_id .., slice_payload_status ..⟩, ?_⟩
  · rw [← hpublic, ← hkeyNonce, hh.entityPrivateEncKey, hclient]
  · rw [← hcode, hpart, Agent.helloCode]
  · rw [Agent.helloResponse, List.append_nil]
    rfl

/-- **The handshake accepts exactly the authentic replies.** On all other
sequences of octets it throws; a first answer of any other length than 164
octets ends in `handleHandshakeInitiateError`, with nothing assigned. -/
theorem handshake_accepts_authentic (hsized : V.SizedSecrets) (h : ProtocolHandlerImpl)
    (nonces : Nonces) (stream : Bytes) :
    ((∃ s', handshake (mutePlatform V C) nonces (receiving h stream) = .ok () s') ↔
        AuthenticReplies V h nonces stream) ∧
      (¬AuthenticReplies V h nonces stream → ∃ e s',
        handshake (mutePlatform V C) nonces (receiving h stream) = .error (.thrown e) s') ∧
      ∀ (n : JInt) (rest : Bytes), n ≠ 164 → stream = helloHeader n ++ rest →
        ∃ s₁ e s', s₁.handler = h ∧ s₁.world.inbox = rest ∧
          handleHandshakeInitiateError (mutePlatform V C) n.toInt s₁ = .error (.thrown e) s' ∧
          s'.handler = h ∧
          handshake (mutePlatform V C) nonces (receiving h stream) = .error (.thrown e) s' := by
  have hiff := handshake_ok_iff C hV hsized h nonces stream
  refine ⟨hiff, ?_, ?_⟩
  · intro hnot
    cases hrun : handshake (mutePlatform V C) nonces (receiving h stream) with
    | ok u s' => exact absurd (hiff.mp ⟨s', hrun⟩) hnot
    | error f s' =>
      obtain ⟨e, rfl⟩ := handshake_throws C hV nonces hrun
      exact ⟨e, s', rfl⟩
  · intro n rest hn hstream
    let w := (receiving h stream).world.deliver (helloRequest h.entityId nonces)
    have hin : w.inbox = helloHeader n ++ rest := (List.append_nil stream).trans hstream
    have hline : Line.reliable.recvFails w.recvs = false := rfl
    obtain ⟨f, s', hthrows, hkept, hrecv⟩ :=
      recvServerHello_length (V := V) (C := C) (h := h) hn hline hin
    have hexchange : exchangeHello (mutePlatform V C) nonces (receiving h stream) =
        .error f s' :=
      (exchangeHello_sent nonces (Line.reliable_sends _)).trans (Effect.bind_error hrecv)
    have hshake : handshake (mutePlatform V C) nonces (receiving h stream) = .error f s' :=
      Effect.bind_error (Effect.bind_error hexchange)
    obtain ⟨e, rfl⟩ := handshake_throws C hV nonces hshake
    exact ⟨⟨h, w.took 1 rest⟩, e, s', rfl, rfl, hthrows, hkept, hshake⟩

end

/-- An agent in the open is let in, and a peer that says nothing is not. -/
theorem handshake_accepts_authentic_open :
    (∃ s', handshake (mutePlatform XorSuite.suite BufferCert.lib) openNonces
        (receiving (refusingAgent.client (zeros 32)) (refusingAgent.helloResponse (zeros 32)
          (zeros 32) ++ sealPacket XorSuite.suite (zeros 32)
            OuterEnvelopeReader.new.iv refusingAgent.acknowledgeResponse)) = .ok () s') ∧
      ∃ e s', handshake (mutePlatform XorSuite.suite BufferCert.lib) openNonces
        (receiving (refusingAgent.client (zeros 32)) []) = .error (.thrown e) s' := by
  have hclient : XorSuite.suite.shortTermSecret (zeros 32) refusingAgent.publicKey
      refusingAgent.serverKeyNonce openNonces.clientKeyNonce = some (zeros 32) := by decide +kernel
  have haccepts := handshake_accepts_authentic BufferCert.lib XorSuite.suite_lawful
    XorSuite.suite_sizedSecrets (refusingAgent.client (zeros 32)) openNonces
  refine ⟨(haccepts _).1.mpr (authenticReplies_of_agent XorSuite.suite_lawful
    (refusingAgent.configures_client (zeros 32)) openNonces hclient), (haccepts []).2.1 ?_⟩
  rintro ⟨secret, body, payload, rest, -, -, hstream⟩
  cases hstream

end Handler

end VjBlockchain
