import VjBlockchain.Agentd.Crossing
import VjBlockchain.Agentd.Submission
/-!
# The remote agent connection

`RemoteAgentConnection.submit` reports how a submission ended. It has two
verdicts: `succeeded` when the handler's `submit` returned, and `failed` when
it threw. Neither looks at the status of the response, and the second does
not look at how far the submission had got.

The section behind it says what the two verdicts mean, for any machine
behind the channel: `succeeded` is exactly a delivered submission whose
response came and can be read, whatever its status, and everything else is
`failed`.
-/

namespace VjBlockchain

open Common Common.Bytes Common.Throwing ByteUtil

/-- How a submission ended. -/
inductive TransactionStatus
  | pending
  | failed
  | canceled
  | succeeded
  | unknownDisconnected
  deriving DecidableEq, Repr

namespace RemoteAgentConnection

/-- `submit`: every exception is caught, a native method that leaves its
buffers is none. -/
def submit {W : Type} (P : Platform W) (transaction : Certificate) :
    Handler W TransactionStatus := fun s =>
  match Handler.submit P transaction s with
  | .ok () s' => .ok .succeeded s'
  | .error (.thrown _) s' => .ok .failed s'
  | .error .outOfBounds s' => .error .outOfBounds s'

end RemoteAgentConnection

section

variable {V : Vccrypt} {C : Vccert} {M : AgentMachine} {line : Line}

/-- The packet a submission seals, if it gets so far. -/
def submission (V : Vccrypt) (C : Vccert) (h : ProtocolHandlerImpl) (t : Certificate) :
    Option Bytes :=
  match h.sharedSecret, submitIds C t with
  | some key, .ok (transactionId, artifactId) =>
    (encryptPayloadNative V (some key) h.outerEnvelopeWriter.iv
      (Request.submit transactionId artifactId t.byteArray).encode).toOption
  | _, _ => none

/-- The submission is handed over as `packet`. -/
def Delivers (V : Vccrypt) (C : Vccert) (line : Line) (s : Session (AgentWorld M))
    (t : Certificate) (packet : Bytes) : Prop :=
  submission V C s.handler t = some packet ∧ line.sendFails s.world.sends = false

/-- The submission is handed over, none of the three `recv`s of its response
throws, and what comes next off the channel is a packet with `payload`: the
decrypted response. -/
def Answered (V : Vccrypt) (C : Vccert) (line : Line) (s : Session (AgentWorld M))
    (t : Certificate) (payload : Bytes) : Prop :=
  ∃ packet rest, Delivers V C line s t packet ∧
    (∀ i < 3, line.recvFails (s.world.recvs + i) = false) ∧
    readPacket V s.handler.sharedSecret s.handler.outerEnvelopeReader.iv
      (s.world.deliver packet).inbox = .ok (payload, rest)

/-- There is at most one response. -/
theorem Answered.unique {s : Session (AgentWorld M)} {t : Certificate} {p p' : Bytes}
    (h : Answered V C line s t p) (h' : Answered V C line s t p') : p = p' := by
  obtain ⟨packet, rest, ⟨hpacket, -⟩, -, hread⟩ := h
  obtain ⟨packet', rest', ⟨hpacket', -⟩, -, hread'⟩ := h'
  obtain rfl := Option.some.inj (hpacket.symm.trans hpacket')
  exact (Prod.mk.inj (Except.ok.inj (hread.symm.trans hread'))).1

/-- A response that `readSubmitResponse` can read. -/
def Readable (payload : Bytes) : Prop :=
  payload.length = 12 ∧ slice payload 0 4 = htonl UNAUTH_PROTOCOL_REQ_ID_TRANSACTION_SUBMIT

/-- The status field is zero. -/
def StatusZero (payload : Bytes) : Prop := slice payload 4 8 = htonl 0

/-- The submission is handed over and a status comes back for it. -/
def ReadBack (V : Vccrypt) (C : Vccert) (line : Line) (s : Session (AgentWorld M))
    (t : Certificate) : Prop :=
  ∃ payload, Answered V C line s t payload ∧ Readable payload

theorem decodeSubmit_ok_iff {p : Bytes} (hlen : p.length = 12) :
    (∃ status, decodeSubmit p = .ok status) ↔ Readable p := by
  obtain ⟨reqId, a, rfl⟩ := exists_payload hlen.ge
  rw [decodeSubmit_payload, Readable, slice_payload_id]
  constructor
  · rintro ⟨status, h⟩
    obtain ⟨_, hid, -⟩ := bind_eq_ok_iff.mp h
    exact ⟨hlen, congrArg htonl (check_eq_ok_iff.mp hid)⟩
  · rintro ⟨-, hid⟩
    have hnat : reqId.toNat = UNAUTH_PROTOCOL_REQ_ID_TRANSACTION_SUBMIT.toNat := by
      rw [← ofBE_htonl, hid, ofBE_htonl]
    rw [check_pos (BitVec.eq_of_toNat_eq hnat)]
    exact ⟨_, rfl⟩

/-! ## How far a submission gets -/

/-- With a secret and identifiers, the packet is what the writer seals. -/
theorem submission_eq {h : ProtocolHandlerImpl} {t : Certificate} {key : Bytes}
    {transactionId artifactId : UUID} (hsecret : h.sharedSecret = some key)
    (hids : submitIds C t = .ok (transactionId, artifactId)) :
    submission V C h t = (encryptPayloadNative V (some key) h.outerEnvelopeWriter.iv
      (Request.submit transactionId artifactId t.byteArray).encode).toOption := by
  simp only [submission, hsecret, hids]

/-- A submission that is not laid out has none. -/
theorem submission_eq_none (hV : V.Lawful) {h : ProtocolHandlerImpl} {t : Certificate} {f : Fault}
    (hwritten : Operation.written C (.submit t) = .error f) : submission V C h t = none := by
  unfold submission
  split
  · rename_i key transactionId artifactId hsecret hids
    cases hseal : encryptPayloadNative V (some key) h.outerEnvelopeWriter.iv
        (Request.submit transactionId artifactId t.byteArray).encode with
    | error f => rfl
    | ok packet =>
      -- a request whose packet fits would have been laid out
      obtain ⟨-, hfits, -⟩ := (encryptPayloadNative_ok_iff hV).mp hseal
      rw [FitsPacket, length_encode_submit] at hfits
      cases hwritten.symm.trans (Operation.written_submit hids (by omega))
  · rfl

/-- A submission is one exchange. -/
theorem submit_eq {W : Type} {P : Platform W} {s : Session W} {t : Certificate}
    {transactionId artifactId : UUID} (hconnected : s.handler.sharedSecret ≠ none)
    (hids : submitIds P.cert t = .ok (transactionId, artifactId))
    (hsize : t.byteArray.length + 40 < 2 ^ 31) :
    Handler.submit P t s = (Handler.sendRequest P
      (.ok (Request.submit transactionId artifactId t.byteArray).encode) >>= fun _ =>
        Handler.readSubmitResponse P >>= fun _ => pure ()) s := by
  have hlift : (Effect.lift (submitIds P.cert t) : Handler W (UUID × UUID)) s =
      .ok (transactionId, artifactId) s := by
    rw [hids, Effect.lift_ok]
  refine (Effect.bind_ok (Handler.requireConnected_ok hconnected)).trans
    ((Effect.bind_ok hlift).trans ?_)
  dsimp only
  rw [Handler.writeSubmitRequest, submitRequest_eq _ _ hsize]

/-- Without a packet nothing is handed over. -/
theorem not_delivers {s : Session (AgentWorld M)} {t : Certificate}
    (h : submission V C s.handler t = none) (packet : Bytes) : ¬Delivers V C line s t packet := by
  intro hdel
  rw [Delivers, h] at hdel
  cases hdel.1

/-- Only a handler with a secret hands anything over. -/
theorem Delivers.secret {s : Session (AgentWorld M)} {t : Certificate} {packet : Bytes}
    (h : Delivers V C line s t packet) : ∃ key, s.handler.sharedSecret = some key := by
  cases hsecret : s.handler.sharedSecret with
  | some key => exact ⟨key, rfl⟩
  | none => exact absurd h (not_delivers (by simp only [submission, hsecret]) packet)

variable (hV : V.Lawful)
include hV

/-- **How far a submission gets.** It is handed over and the response is read,
or it throws with nothing handed over, and nothing accepted. -/
theorem submit_cases (s : Session (AgentWorld M)) (t : Certificate) :
    (∃ packet, Delivers V C line s t packet ∧
        Handler.submit (agentPlatform V C M line) t s =
          (Handler.readSubmitResponse (agentPlatform V C M line) >>= fun _ => pure ())
            ⟨s.handler.afterWrite, s.world.deliver packet⟩) ∨
      (∀ packet, ¬Delivers V C line s t packet) ∧
        ∃ e s', Handler.submit (agentPlatform V C M line) t s = .error (.thrown e) s' ∧
          s'.world.accepted = s.world.accepted := by
  obtain ⟨h, w⟩ := s
  -- the points of failure in the order of the source
  cases hsecret : h.sharedSecret with
  | none =>
    exact .inr ⟨not_delivers (by simp only [submission, hsecret]), _, _,
      Effect.bind_error (Handler.requireConnected_error hsecret), rfl⟩
  | some key =>
    have hconnected : h.sharedSecret ≠ none := by
      rw [hsecret]
      exact Option.some_ne_none key
    cases hwritten : Operation.written C (.submit t) with
    | error f =>
      obtain ⟨e, rfl⟩ := (Operation.written_inBounds C (.submit t)).thrown hwritten
      exact .inr ⟨not_delivers (submission_eq_none hV hwritten), e, _,
        Handler.of_call_submit_error (Operation.call_error (P := agentPlatform V C M line)
          hwritten hconnected), rfl⟩
    | ok r =>
      obtain ⟨transactionId, artifactId, hids, rfl, hsize⟩ := Operation.of_written_submit hwritten
      let request := Request.submit transactionId artifactId t.byteArray
      have hstart := submit_eq (P := agentPlatform V C M line) (s := ⟨h, w⟩) hconnected hids hsize
      have hsubmission := submission_eq (V := V) hsecret hids
      cases hseal : encryptPayloadNative V (some key) h.outerEnvelopeWriter.iv request.encode with
      | error f =>
        obtain ⟨e, rfl⟩ := (encryptPayloadNative_inBounds hV key _ _).thrown hseal
        refine .inr ⟨not_delivers (hsubmission.trans ?_), _, _, hstart.trans (Effect.bind_error
          (Handler.sendRequest_unsealed (by rw [hsecret]; exact hseal))), rfl⟩
        rw [hseal]
        rfl
      | ok packet =>
        obtain ⟨hkey, hfits, hpacket⟩ := (encryptPayloadNative_ok_iff hV).mp hseal
        cases hline : line.sendFails w.sends with
        | false =>
          refine .inl ⟨packet, ⟨hsubmission.trans (by rw [hseal]; rfl), hline⟩, ?_⟩
          rw [hpacket]
          exact hstart.trans (Effect.bind_ok (Handler.sendRequest_ok hV hkey hsecret hfits hline))
        | true =>
          refine .inr ⟨fun packet hdel => ?_, _, _, hstart.trans (Effect.bind_error
            (Handler.sendRequest_unsent hV hkey hsecret hfits hline)), rfl⟩
          cases hdel.2.symm.trans hline

/-! ## What the two verdicts mean -/

/-- **The response is read exactly when it came and can be read.** -/
theorem Delivers.read_iff {s : Session (AgentWorld M)} {t : Certificate} {packet : Bytes}
    (h : Delivers V C line s t packet) :
    (∃ status s', Handler.readSubmitResponse (agentPlatform V C M line)
        ⟨s.handler.afterWrite, s.world.deliver packet⟩ = .ok status s') ↔
      ReadBack V C line s t := by
  obtain ⟨key, hsecret⟩ := h.secret
  have hsecret' : s.handler.afterWrite.sharedSecret = some key := hsecret
  constructor
  · rintro ⟨status, s', hread⟩
    obtain ⟨hline, p, rest, hin, hmax, hkey, hexpect, hdecode, -⟩ :=
      Handler.of_readSplitResponse_ok hV hsecret' hread
    have hlen : p.length = 12 := check_eq_ok_iff.mp hexpect
    refine ⟨p, ⟨packet, rest, h, hline, ?_⟩, (decodeSubmit_ok_iff hlen).mp ⟨status, hdecode⟩⟩
    rw [hsecret]
    exact (readPacket_ok_iff hV).mpr ⟨hkey, hmax, hin⟩
  · rintro ⟨p, ⟨packet', rest, hdel', hline, hpacket⟩, hreadable⟩
    obtain rfl := Option.some.inj (h.1.symm.trans hdel'.1)
    rw [hsecret] at hpacket
    obtain ⟨hkey, hmax, hin⟩ := (readPacket_ok_iff hV).mp hpacket
    obtain ⟨status, hdecode⟩ := (decodeSubmit_ok_iff hreadable.1).mpr hreadable
    rcases Handler.readSplitResponse_cases C line hV hkey hsecret' hin hmax
      (expectTwelve "). Expected 12 bytes.") decodeSubmit (check_pos hreadable.1) with
      hbroken | hread
    · exact hbroken.elim hline
    · rw [hdecode] at hread
      exact ⟨status, _, hread⟩

variable (C line) in
/-- **The two verdicts.** `succeeded` is a submission that a status came back
for; everything else is `failed`, also when the submission had been handed
over and the agent had accepted it. -/
theorem submit_verdict (s : Session (AgentWorld M)) (t : Certificate) :
    (ReadBack V C line s t ∧
      ∃ s', RemoteAgentConnection.submit (agentPlatform V C M line) t s = .ok .succeeded s') ∨
    (¬ReadBack V C line s t ∧
      ∃ s', RemoteAgentConnection.submit (agentPlatform V C M line) t s = .ok .failed s' ∧
        ((∃ packet, Delivers V C line s t packet ∧
            (s.world.deliver packet).accepted ≤ s'.world.accepted) ∨
          (∀ packet, ¬Delivers V C line s t packet) ∧
            s'.world.accepted = s.world.accepted)) := by
  rcases submit_cases hV s t with ⟨packet, hdel, hsubmit⟩ | ⟨hnot, e, s', hsubmit, hsame⟩
  · cases hread : Handler.readSubmitResponse (agentPlatform V C M line)
        ⟨s.handler.afterWrite, s.world.deliver packet⟩ with
    | ok status s' =>
      have hok : Handler.submit (agentPlatform V C M line) t s = .ok () s' :=
        hsubmit.trans (Effect.bind_ok hread)
      refine .inl ⟨(hdel.read_iff hV).mp ⟨status, s', hread⟩, s', ?_⟩
      rw [RemoteAgentConnection.submit, hok]
    | error f s' =>
      -- what was accepted on delivery stays accepted
      have hkeep : Respects (agentPlatform V C M line)
          (fun s' => (s.world.deliver packet).accepted ≤ s'.world.accepted)
          fun f => ∃ e, f = .thrown e :=
        .ofWorld (J := fun w : AgentWorld M => (s.world.deliver packet).accepted ≤ w.accepted) hV
          (fun e => ⟨e, rfl⟩)
          (agentChannel_send ⟨_, rfl⟩ (fun w m hw => hw.trans (w.accepted_le_deliver m))
            fun _ hw => hw)
          (agentChannel_recv ⟨_, rfl⟩ (fun _ _ _ hw => hw) fun _ hw => hw)
      obtain ⟨haccepted, e, rfl⟩ := (hkeep.readSplitResponse (fun _ => .check ..)
        decodeSubmit_inBounds).error le_rfl hread
      have herror : Handler.submit (agentPlatform V C M line) t s = .error (.thrown e) s' :=
        hsubmit.trans (Effect.bind_error hread)
      refine .inr ⟨fun hback => ?_, s', ?_, .inl ⟨packet, hdel, haccepted⟩⟩
      · obtain ⟨status, s'', hok⟩ := (hdel.read_iff hV).mpr hback
        cases hok.symm.trans hread
      · rw [RemoteAgentConnection.submit, herror]
  · refine .inr ⟨?_, s', ?_, .inr ⟨hnot, hsame⟩⟩
    · rintro ⟨p, ⟨packet, -, hdel, -⟩, -⟩
      exact hnot packet hdel
    · rw [RemoteAgentConnection.submit, hsubmit]

end

/-! ## Submissions to a conforming agent -/

section

variable {V : Vccrypt} {C : Vccert} {A : Agent V} (line : Line) {key : Bytes}
variable (hV : V.Lawful) {served : List Request} {s : Session (AgentWorld A.machine)}
  (hal : Aligned A key served s) {t : Certificate} {transactionId artifactId : UUID}
  (hids : submitIds C t = .ok (transactionId, artifactId))
  (hsize : t.byteArray.length + 77 < 2 ^ 31) (hsend : line.sendFails s.world.sends = false)
include hV hal hids hsize hsend

/-- A submission with identifiers is handed over, if its packet fits. -/
theorem Aligned.delivers : Delivers V C line s t
    (sealPacket V key s.handler.outerEnvelopeWriter.iv
      (Request.submit transactionId artifactId t.byteArray).encode) := by
  refine ⟨(submission_eq hal.secret hids).trans ?_, hsend⟩
  have hfits : FitsPacket (Request.submit transactionId artifactId t.byteArray).encode := by
    rw [FitsPacket, length_encode_submit]
    omega
  rw [encryptPayloadNative_eq hV (hV.takes hal.length_key) _ hfits]
  rfl

omit hids hsize hsend in
variable (t transactionId artifactId) in
/-- It is accepted, if the agent answers it with status zero. -/
theorem Aligned.deliver_accepted
    (hstatus : (A.answer served (.submit transactionId artifactId t.byteArray)).status = 0) :
    (s.world.deliver (sealPacket V key s.handler.outerEnvelopeWriter.iv
      (Request.submit transactionId artifactId t.byteArray).encode)).accepted =
      s.world.accepted + 1 := by
  have haccepts := A.accepts_submit hV key s.handler.outerEnvelopeWriter.iv
    s.handler.outerEnvelopeReader.iv served hstatus
  rw [← hal.agent] at haccepts
  exact if_pos haccepts

/-- **What comes back is the agent's answer**, if no `recv` throws. -/
theorem Aligned.answered (hrecv : ∀ i < 3, line.recvFails (s.world.recvs + i) = false) :
    Answered V C line s t
      (A.response served (.submit transactionId artifactId t.byteArray)) := by
  let r : Request := .submit transactionId artifactId t.byteArray
  obtain ⟨-, hin⟩ := deliver_request hV hal.agent r
  rw [hal.inbox, List.nil_append] at hin
  refine ⟨_, [], hal.delivers line hV hids hsize hsend, hrecv, ?_⟩
  have hmax : (A.response served r).length ≤ MAX_PAYLOAD_SIZE := by
    rw [Agent.response, length_payload]
    exact (A.laidOut served r).limit
  rw [hal.secret]
  refine (readPacket_ok_iff hV).mpr ⟨hV.takes hal.length_key, hmax, ?_⟩
  rw [List.append_nil]
  exact hin

end

end VjBlockchain
