import VjBlockchain.Agentd.ExactCode
import VjBlockchain.Agentd.Exchange
/-!
# What every operation respects

A property of a session that the two calls on the channel and the three uses
of the envelope preserve is preserved by every operation, whichever way the
operation ends; and if those five throw only faults of some kind that has
all exceptions in it, so does every operation. `Respects` collects the five
obligations, and `Respects.call` is the rule.

The remaining parts of an operation are functions on arrays. None of them
leaves a buffer, so with a lawful suite no operation does.
-/

namespace VjBlockchain

open Common Common.Bytes Common.Throwing ByteUtil UuidUtil

/-! ## Functions on arrays end with exceptions -/

theorem copyOfRange_inBounds (a : Bytes) (i j : ℕ) : InBounds (copyOfRange a i j) := by
  unfold copyOfRange
  refine ⟨fun h => ?_⟩
  split at h
  · cases h
  · split at h <;> cases h

theorem arraycopy_inBounds (src : Bytes) (srcPos : ℕ) (dest : Bytes) (destPos length : ℕ) :
    InBounds (arraycopy src srcPos dest destPos length) := by
  unfold arraycopy
  split
  · exact ⟨fun h => nomatch h⟩
  · exact .orThrow ..

theorem ntohl_inBounds (val : Bytes) : InBounds (ntohl val) :=
  .bind (.check ..) fun _ _ => .ok _

theorem getUUIDFromBytes_inBounds (bytes : Bytes) : InBounds (getUUIDFromBytes bytes) :=
  .bind (.check ..) fun _ _ => .ok _

theorem verifyRequestId_inBounds (p : Bytes) (reqId : JInt) (message : String) :
    InBounds (verifyRequestId p reqId message) :=
  .bind (copyOfRange_inBounds ..) fun _ _ => .bind (ntohl_inBounds _) fun _ _ => .check ..

theorem responseStatus_inBounds (p : Bytes) : InBounds (responseStatus p) :=
  .bind (copyOfRange_inBounds ..) fun _ _ => ntohl_inBounds _

theorem decodeSubmit_inBounds (p : Bytes) : InBounds (decodeSubmit p) :=
  .bind (verifyRequestId_inBounds ..) fun _ _ => responseStatus_inBounds p

theorem decodeLatest_inBounds (n : ℕ) (p : Bytes) : InBounds (decodeLatest n p) :=
  .bind (verifyRequestId_inBounds ..) fun _ _ => .bind (responseStatus_inBounds p) fun _ _ =>
    .bind (.check ..) fun _ _ => .bind (.check ..) fun _ _ =>
      .bind (arraycopy_inBounds ..) fun _ _ => getUUIDFromBytes_inBounds _

theorem decodeOptUuid_inBounds (reqId : JInt) (n : ℕ) (p : Bytes) :
    InBounds (decodeOptUuid reqId n p) := by
  refine .bind (verifyRequestId_inBounds ..) fun _ _ => .bind (responseStatus_inBounds p) ?_
  intro status _
  split
  · exact .ok _
  · split
    · exact .ok _
    · exact .bind (copyOfRange_inBounds ..) fun _ _ =>
        .bind (getUUIDFromBytes_inBounds _) fun _ _ => .ok _

theorem decodeCertificate_inBounds (reqId : JInt) (m n : ℕ) (p : Bytes) :
    InBounds (decodeCertificate reqId m n p) := by
  refine .bind (verifyRequestId_inBounds ..) fun _ _ => .bind (responseStatus_inBounds p) ?_
  intro status _
  split
  · exact .ok _
  · split
    · exact .ok _
    · exact .bind (copyOfRange_inBounds ..) fun _ _ => .ok _

theorem decodeConnectionStatus_inBounds (p : Bytes) : InBounds (decodeConnectionStatus p) := by
  refine .bind (verifyRequestId_inBounds ..) fun _ _ => .bind (responseStatus_inBounds p) ?_
  intro status _
  split
  · exact .ok _
  · exact .ok _

theorem Request.expect_inBounds (r : Request) (n : ℕ) : InBounds (r.expect n) := by
  cases r <;> exact .check ..

theorem Request.decode_inBounds (r : Request) (n : ℕ) (p : Bytes) : InBounds (r.decode n p) := by
  cases r with
  | submit _ _ _ => exact .bind (decodeSubmit_inBounds p) fun _ _ => .ok _
  | getLatestBlockId => exact .bind (decodeLatest_inBounds n p) fun _ _ => .ok _
  | getBlockById _ => exact .bind (decodeCertificate_inBounds ..) fun _ _ => .ok _
  | getTransactionById _ => exact .bind (decodeCertificate_inBounds ..) fun _ _ => .ok _
  | getConnectionStatus => exact .bind (decodeConnectionStatus_inBounds p) fun _ _ => .ok _
  | _ => exact .bind (decodeOptUuid_inBounds ..) fun _ _ => .ok _

theorem parse_inBounds (C : Vccert) (parser : CertificateParser) : InBounds (parser.parse C) :=
  .bind (.bind (.orThrow ..) fun _ _ => .bind (.orThrow ..) fun _ _ => .ok _) fun _ _ => .ok _

theorem get_inBounds (reader : CertificateReader) (field : JInt) (i : ℕ) :
    InBounds (reader.get field i) := by
  unfold CertificateReader.get
  refine ⟨fun h => ?_⟩
  split at h
  · cases h
  · split at h <;> cases h

theorem asUUID_inBounds (r : CertificateFieldReader) : InBounds r.asUUID := by
  rw [FieldReader.asUUID_eq]
  split
  · exact .ok _
  · exact ⟨fun h => nomatch h⟩

theorem fieldAsUUID_inBounds (reader : CertificateReader) (field : JInt)
    (missing invalid : String) : InBounds (fieldAsUUID reader field missing invalid) := by
  have hfield : InBounds (do (← reader.getFirst field).asUUID : Except Fault UUID) :=
    .bind (get_inBounds reader field 0) fun r _ => asUUID_inBounds r
  unfold fieldAsUUID
  split
  · exact ⟨fun h => nomatch h⟩
  · exact ⟨fun h => nomatch h⟩
  · exact hfield

theorem submitIds_inBounds (C : Vccert) (transaction : Certificate) :
    InBounds (submitIds C transaction) :=
  .bind (.bind (parse_inBounds ..) fun _ _ => .ok _) fun _ _ =>
    .bind (fieldAsUUID_inBounds ..) fun _ _ => .bind (fieldAsUUID_inBounds ..) fun _ _ => .ok _

theorem newArray_inBounds (length : BitVec 32) : InBounds (newArray length) := by
  unfold newArray
  split
  · exact ⟨fun h => nomatch h⟩
  · exact .ok _

theorem submitRequest_inBounds (transactionId artifactId : UUID) (transaction : Certificate) :
    InBounds (submitRequest transactionId artifactId transaction) :=
  .bind (newArray_inBounds _) fun _ _ =>
    .bind (.bind (arraycopy_inBounds ..) fun _ _ => arraycopy_inBounds ..) fun _ _ =>
      .bind (arraycopy_inBounds ..) fun _ _ => .bind (arraycopy_inBounds ..) fun _ _ =>
        arraycopy_inBounds ..

theorem Operation.written_inBounds (C : Vccert) (op : Operation) : InBounds (op.written C) := by
  cases op with
  | submit t =>
    exact .bind (submitIds_inBounds C t) fun _ _ => .bind (submitRequest_inBounds ..) fun _ _ =>
      .ok _
  | _ => exact .ok _

theorem Operation.request_inBounds (C : Vccert) (op : Operation) : InBounds (op.request C) :=
  .bind (written_inBounds C op) fun _ _ => .bind (.check ..) fun _ _ => .ok _

/-! ## So do those of the handshake -/

theorem handshakeRequest_inBounds (entityId : UUID) (nonces : Nonces) :
    InBounds (handshakeRequest entityId nonces) :=
  .bind (arraycopy_inBounds ..) fun _ _ => .bind (arraycopy_inBounds ..) fun _ _ =>
    .bind (arraycopy_inBounds ..) fun _ _ => .bind (arraycopy_inBounds ..) fun _ _ =>
      .bind (arraycopy_inBounds ..) fun _ _ => .bind (arraycopy_inBounds ..) fun _ _ => .ok _

theorem verifyServerHello_inBounds (agentId : UUID) (agentPublicEncKey response : Bytes) :
    InBounds (verifyServerHello agentId agentPublicEncKey response) := by
  refine .bind (verifyRequestId_inBounds ..) fun _ _ => ?_
  refine .bind (copyOfRange_inBounds ..) fun _ _ => .bind (ntohl_inBounds _) fun _ _ =>
    .bind (.check ..) fun _ _ => ?_
  refine .bind (copyOfRange_inBounds ..) fun _ _ => .bind (ntohl_inBounds _) fun _ _ =>
    .bind (.check ..) fun _ _ => ?_
  refine .bind (copyOfRange_inBounds ..) fun _ _ => .bind (ntohl_inBounds _) fun _ _ =>
    .bind (.check ..) fun _ _ => ?_
  refine .bind (copyOfRange_inBounds ..) fun _ _ => ?_
  split
  · exact .bind (copyOfRange_inBounds ..) fun _ _ => .bind (.check ..) fun _ _ =>
      .bind (copyOfRange_inBounds ..) fun _ _ => .bind (copyOfRange_inBounds ..) fun _ _ =>
        .bind (copyOfRange_inBounds ..) fun _ _ => .ok _
  · exact .bind (copyOfRange_inBounds ..) fun _ _ => .bind (getUUIDFromBytes_inBounds _) fun _ _ =>
      ⟨fun h => nomatch h⟩

theorem handshakeInitiateError_inBounds (response : Bytes) :
    InBounds (handshakeInitiateError response) := by
  refine .bind (copyOfRange_inBounds ..) fun _ _ => .bind (ntohl_inBounds _) fun _ _ => ?_
  split
  · exact ⟨fun h => nomatch h⟩
  · split <;> exact ⟨fun h => nomatch h⟩

theorem digestMessages_inBounds (V : Vccrypt) (mac : V.macShort.Instance) (ms : List Bytes) :
    InBounds (HMAC.digestMessages V mac ms) := by
  induction ms generalizing mac with
  | nil => exact .ok _
  | cons m ms ih => exact .bind (.orThrow ..) fun mac _ => ih mac

theorem verifyServerCode_inBounds {W : Type} (P : Platform W) (nonces : Nonces)
    (secret response : Bytes) (hello : ServerHello) :
    InBounds (Handler.verifyServerCode P nonces secret response hello) :=
  .bind (copyOfRange_inBounds ..) fun _ _ =>
    .bind (.bind (.orThrow ..) fun _ _ => .bind (.orThrow ..) fun _ _ =>
      .bind (digestMessages_inBounds ..) fun _ _ => .orThrow ..) fun _ _ => .check ..

/-! ## The rule -/

section

variable {W α : Type} {P : Platform W} {s : Session W}

/-- **An operation throws on the spot, or is one exchange.** -/
theorem Operation.call_cases (op : Operation) :
    (∃ e, op.call P s = .error (.thrown e) s) ∨
      ∃ r, op.written P.cert = .ok r ∧
        op.call P s = (Handler.sendRequest P (.ok r.encode) >>= fun _ => r.read P) s := by
  by_cases hop : op = .getConnectionStatus
  · subst hop
    refine .inr ⟨_, rfl, ?_⟩
    rw [call_getConnectionStatus]
  by_cases h : s.handler.sharedSecret = none
  · exact .inl ⟨_, call_unconnected hop h⟩
  · cases hr : op.written P.cert with
    | error f =>
      obtain ⟨e, rfl⟩ := (written_inBounds P.cert op).thrown hr
      exact .inl ⟨e, call_error hr h⟩
    | ok r => exact .inr ⟨r, rfl, call_eq hr h⟩

/-- With a secret, the exchange is that of a request that is sent. -/
theorem Operation.call_cases_request (hV : P.crypt.Lawful) {key : Bytes}
    (hsecret : s.handler.sharedSecret = some key) (op : Operation) :
    (∃ f, op.call P s = .error f s) ∨
      ∃ r, op.request P.cert = .ok r ∧
        op.call P s = (Handler.sendRequest P (.ok r.encode) >>= fun _ => r.read P) s := by
  rcases op.call_cases (P := P) (s := s) with ⟨e, hcall⟩ | ⟨r, hr, hcall⟩
  · exact .inl ⟨_, hcall⟩
  cases hseal : encryptPayloadNative P.crypt s.handler.sharedSecret
      s.handler.outerEnvelopeWriter.iv r.encode with
  | error f => exact .inl ⟨f, hcall.trans (Effect.bind_error (Handler.sendRequest_unsealed hseal))⟩
  | ok packet =>
    rw [hsecret] at hseal
    obtain ⟨-, hfits, -⟩ := (encryptPayloadNative_ok_iff hV).mp hseal
    exact .inr ⟨r, request_eq_ok_iff.mpr ⟨hr, hfits⟩, hcall⟩

/-- The five obligations. -/
structure Respects (P : Platform W) (I : Session W → Prop) (E : Fault → Prop) : Prop where
  send : ∀ message, Effect.Preserves I E (Handler.send P message)
  recv : ∀ n, Effect.Preserves I E (Handler.recv P n)
  encryptPayload : ∀ p, Effect.Preserves I E (Handler.encryptPayload P p)
  decryptHeader : ∀ h, Effect.Preserves I E (Handler.decryptHeader P h)
  decryptPayload : ∀ h p, Effect.Preserves I E (Handler.decryptPayload P h p)
  thrown : ∀ e, E (.thrown e)

namespace Respects

variable {I : Session W → Prop} {E : Fault → Prop} (hP : Respects P I E)
include hP

theorem lift {x : Except Fault α} (hx : InBounds x) :
    Effect.Preserves I E (Effect.lift x : Handler W α) := by
  refine .lift fun f hf => ?_
  obtain ⟨e, rfl⟩ := hx.thrown hf
  exact hP.thrown e

theorem sendRequest {request : Except Fault Bytes} (hrequest : InBounds request) :
    Effect.Preserves I E (Handler.sendRequest P request) :=
  .bind (hP.lift hrequest) fun _ => .bind (hP.encryptPayload _) fun _ => hP.send _

theorem readResponse {expect : ℕ → Except Fault Unit} {decode : ℕ → Bytes → Except Fault α}
    (hexpect : ∀ n, InBounds (expect n)) (hdecode : ∀ n p, InBounds (decode n p)) :
    Effect.Preserves I E (Handler.readResponse P expect decode) :=
  .bind (hP.recv _) fun _ => .bind (hP.decryptHeader _) fun _ =>
    .bind (hP.lift (hexpect _)) fun _ =>
    .bind (hP.recv _) fun _ => .bind (hP.decryptPayload ..) fun _ => hP.lift (hdecode ..)

theorem readSplitResponse {expect : ℕ → Except Fault Unit} {decode : Bytes → Except Fault α}
    (hexpect : ∀ n, InBounds (expect n)) (hdecode : ∀ p, InBounds (decode p)) :
    Effect.Preserves I E (Handler.readSplitResponse P expect decode) :=
  .bind (hP.recv _) fun _ => .bind (hP.decryptHeader _) fun _ =>
    .bind (hP.lift (hexpect _)) fun _ =>
    .bind (hP.recv _) fun _ => .bind (hP.recv _) fun _ =>
      .bind (hP.lift (.bind (arraycopy_inBounds ..) fun _ _ => arraycopy_inBounds ..)) fun _ =>
        .bind (hP.decryptPayload ..) fun _ => hP.lift (hdecode _)

theorem read (r : Request) : Effect.Preserves I E (r.read P) := by
  cases r with
  | submit t a c =>
    exact hP.readSplitResponse (Request.expect_inBounds _)
      (Request.decode_inBounds (.submit t a c) 12)
  | _ => exact hP.readResponse (Request.expect_inBounds _) (Request.decode_inBounds _)

theorem exchange (r : Request) :
    Effect.Preserves I E (Handler.sendRequest P (.ok r.encode) >>= fun _ => r.read P) :=
  .bind (hP.sendRequest (.ok _)) fun _ => hP.read r

/-- The second round of a handshake likewise. -/
theorem acknowledgeHandshake (serverChallengeNonce : Bytes) :
    Effect.Preserves I E (Handler.acknowledgeHandshake P serverChallengeNonce) := by
  have hmac : ∀ key, InBounds (HMAC.createHMACShort P.crypt key serverChallengeNonce) :=
    fun key => .bind (.orThrow ..) fun _ _ => .bind (.orThrow ..) fun _ _ =>
      .bind (.orThrow ..) fun _ _ => .orThrow ..
  have hdecode : ∀ p, InBounds (decodeAcknowledge p) :=
    fun p => .bind (verifyRequestId_inBounds ..) fun _ _ =>
      .bind (responseStatus_inBounds p) fun _ _ => .check ..
  exact .bind .get fun s => .bind (hP.sendRequest (hmac _)) fun _ =>
    hP.readSplitResponse (fun _ => .check ..) hdecode

/-- The first answer likewise, whatever its length. -/
theorem recvServerHello : Effect.Preserves I E (Handler.recvServerHello P) := by
  have herror : ∀ n, Effect.Preserves I E (Handler.handleHandshakeInitiateError P n) := by
    intro n
    unfold Handler.handleHandshakeInitiateError
    split
    · exact .throw (hP.thrown _)
    · exact .bind (hP.recv _) fun response => hP.lift (handshakeInitiateError_inBounds response)
  refine .bind (hP.recv _) fun _ => .bind (hP.lift (.check ..)) fun _ =>
    .bind (hP.lift (.bind (copyOfRange_inBounds ..) fun _ _ => ntohl_inBounds _)) fun _ => ?_
  dsimp only
  split
  · exact .bind (herror _) fun _ => hP.recv _
  · exact hP.recv _

/-- **A handshake respects what also survives the assignment of the secret.** -/
theorem handshake (hset : ∀ secret, Effect.Preserves I E (Handler.setSharedSecret secret))
    (nonces : Nonces) : Effect.Preserves I E (Handler.handshake P nonces) := by
  have hexchange : Effect.Preserves I E (Handler.exchangeHello P nonces) :=
    .bind .get fun _ => .bind (hP.lift (handshakeRequest_inBounds ..)) fun _ =>
      .bind (hP.send _) fun _ => .bind hP.recvServerHello fun _ =>
        .bind (hP.lift (verifyServerHello_inBounds ..)) fun _ => .pure _
  refine .bind (.bind hexchange fun _ => .bind .get fun _ => .bind (hP.lift (.orThrow ..)) fun _ =>
    .bind (hset _) fun _ => .bind (hP.lift (verifyServerCode_inBounds ..)) fun _ => .pure _) ?_
  exact hP.acknowledgeHandshake

/-- **Every operation respects what the channel and the envelope respect.** -/
theorem call (op : Operation) : Effect.Preserves I E (op.call P) where
  ok := by
    intro s v s' hs h
    rcases op.call_cases (P := P) (s := s) with ⟨e, hcall⟩ | ⟨r, -, hcall⟩
    · cases hcall.symm.trans h
    · exact (hP.exchange r).ok hs (hcall.symm.trans h)
  error := by
    intro s f s' hs h
    rcases op.call_cases (P := P) (s := s) with ⟨e, hcall⟩ | ⟨r, -, hcall⟩
    · cases hcall.symm.trans h
      exact ⟨hs, hP.thrown e⟩
    · exact (hP.exchange r).error hs (hcall.symm.trans h)

end Respects

/-! ## Properties of a session -/

namespace Handler

variable {I : Session W → Prop} {E : Fault → Prop}

/-- Backwards: what a call on the channel did. -/
theorem onWorld_eq_ok_iff {x : EStateM Fault W α} {s s' : Session W} {a : α} :
    onWorld x s = .ok a s' ↔ ∃ w, x s.world = .ok a w ∧ s' = { s with world := w } := by
  unfold onWorld
  cases x s.world <;> simp [eq_comm]

theorem onWorld_eq_error_iff {x : EStateM Fault W α} {s s' : Session W} {f : Fault} :
    onWorld x s = .error f s' ↔ ∃ w, x s.world = .error f w ∧ s' = { s with world := w } := by
  unfold onWorld
  cases x s.world <;> simp [eq_comm]

/-- **A call on the channel preserves** what it preserves of the world, under
any handler. -/
theorem onWorld_preserves {x : EStateM Fault W α}
    (hx : ∀ h, Effect.Preserves (fun w => I ⟨h, w⟩) E x) : Effect.Preserves I E (onWorld x) where
  ok := by
    intro s a s' hs h
    obtain ⟨w, hxs, rfl⟩ := onWorld_eq_ok_iff.mp h
    exact (hx s.handler).ok hs hxs
  error := by
    intro s f s' hs h
    obtain ⟨w, hxs, rfl⟩ := onWorld_eq_error_iff.mp h
    exact (hx s.handler).error hs hxs

/-- The channel does not touch the handler. -/
theorem onWorld_handler (J : ProtocolHandlerImpl → Prop) (x : EStateM Fault W α) :
    Effect.Preserves (fun s : Session W => J s.handler) (fun _ => True) (onWorld x) :=
  onWorld_preserves fun _ => ⟨fun hJ _ => hJ, fun hJ _ => ⟨hJ, trivial⟩⟩

/-- Sealing moves the counter of the writer and nothing else. -/
theorem encryptPayload_preserves {p : Bytes}
    (hI : ∀ {s : Session W} writer, I s →
      I { s with handler := { s.handler with outerEnvelopeWriter := writer } })
    (hE : ∀ {h : ProtocolHandlerImpl} {f},
      h.outerEnvelopeWriter.encryptPayload P.crypt h.sharedSecret p = .error f → E f) :
    Effect.Preserves I E (encryptPayload P p) where
  ok := by
    intro s packet s' hs h
    unfold encryptPayload at h
    split at h
    · cases h
      exact hI _ hs
    · cases h
  error := by
    intro s f s' hs h
    unfold encryptPayload at h
    split at h
    · cases h
    · rename_i f' hf
      cases h
      exact ⟨hs, hE hf⟩

/-- Reading a header moves nothing. -/
theorem decryptHeader_preserves {header : Bytes}
    (hE : ∀ {h : ProtocolHandlerImpl} {f},
      h.outerEnvelopeReader.decryptHeader P.crypt h.sharedSecret header = .error f → E f) :
    Effect.Preserves I E (decryptHeader P header) where
  ok := by
    intro s n s' hs h
    obtain ⟨-, rfl⟩ := Effect.lift_eq_ok_iff.mp h
    exact hs
  error := by
    intro s f s' hs h
    obtain ⟨hf, rfl⟩ := Effect.lift_eq_error_iff.mp h
    exact ⟨hs, hE hf⟩

/-- Opening moves the counter of the reader and nothing else. -/
theorem decryptPayload_preserves {header payload : Bytes}
    (hI : ∀ {s : Session W} reader, I s →
      I { s with handler := { s.handler with outerEnvelopeReader := reader } })
    (hE : ∀ {h : ProtocolHandlerImpl} {f}, h.outerEnvelopeReader.decryptPayload P.crypt
      h.sharedSecret header payload = .error f → E f) :
    Effect.Preserves I E (decryptPayload P header payload) where
  ok := by
    intro s p s' hs h
    unfold decryptPayload at h
    split at h
    · cases h
      exact hI _ hs
    · cases h
  error := by
    intro s f s' hs h
    unfold decryptPayload at h
    split at h
    · cases h
    · rename_i f' hf
      cases h
      exact ⟨hs, hE hf⟩

end Handler

/-- **With a lawful suite the envelope neither touches the world nor leaves a
buffer**, so a property of the world only has to survive the channel. -/
theorem Respects.ofWorld (hV : P.crypt.Lawful) {J : W → Prop} {E : Fault → Prop}
    (hthrown : ∀ e, E (.thrown e)) (hsend : ∀ m, Effect.Preserves J E (P.dataChannel.send m))
    (hrecv : ∀ n, Effect.Preserves J E (P.dataChannel.recv n)) :
    Respects P (fun s => J s.world) E := by
  -- the buffers of a lawful suite fit, so a fault is an exception
  have hfault : ∀ {α : Type} {x : Except Fault α} {f}, InBounds x → x = .error f → E f := by
    intro α x f hx hf
    obtain ⟨e, rfl⟩ := hx.thrown hf
    exact hthrown e
  exact
    { send := fun m => Handler.onWorld_preserves fun _ => hsend m
      recv := fun n => Handler.onWorld_preserves fun _ => hrecv n
      thrown := hthrown
      encryptPayload := fun _ => Handler.encryptPayload_preserves (fun _ hs => hs)
        (hfault (encryptPayload_inBounds hV ..))
      decryptHeader := fun _ => Handler.decryptHeader_preserves
        (hfault (decryptHeader_inBounds hV ..))
      decryptPayload := fun _ _ => Handler.decryptPayload_preserves (fun _ hs => hs)
        (hfault (decryptPayload_inBounds hV ..)) }

end

end VjBlockchain
