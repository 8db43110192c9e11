import VjBlockchain.Agentd.Handler
import VjBlockchain.Agentd.Packet
/-!
# A channel with an agent behind it

The world a handler talks to. An agent is a machine that reacts to a
delivered message with octets of its own, which wait in the client's inbox
until they are taken. A line says which calls on the channel throw: a `send`
that throws delivers nothing, a `recv` that throws consumes nothing. A `recv`
that asks for more than there is throws as well.

The world keeps a history for the statements about it: what was delivered,
how many transactions the agent accepted, and whether a `recv` has thrown.

The sections behind it run the handler's two halves of an exchange on such a
channel: the request sealed and delivered, and a response packet that waits
in the inbox read in either of the two ways the source reads one.
-/

namespace VjBlockchain

open Common Common.Bytes Common.Throwing

/-- An agent, as far as a channel shows it. -/
structure AgentMachine where
  State : Type
  /-- The state after a message, and the octets sent back. -/
  react : State → Bytes → State × Bytes
  /-- The message submits a transaction, and it is accepted: status zero. -/
  accepts : State → Bytes → Bool

/-- Which calls on a channel throw, counted from its opening. -/
structure Line where
  sendFails : ℕ → Bool
  recvFails : ℕ → Bool

/-- No call throws. -/
def Line.reliable : Line := ⟨fun _ => false, fun _ => false⟩

theorem Line.reliable_sends (i : ℕ) : Line.reliable.sendFails i = false := rfl

/-- The world behind a channel. -/
structure AgentWorld (M : AgentMachine) where
  agent : M.State
  inbox : Bytes
  sends : ℕ
  recvs : ℕ
  delivered : List Bytes
  accepted : ℕ
  threw : Bool

namespace AgentWorld

variable {M : AgentMachine}

/-- A fresh connection to an agent. -/
def start (agent : M.State) : AgentWorld M := ⟨agent, [], 0, 0, [], 0, false⟩

/-- A message handed over: the agent reacts at once. -/
def deliver (w : AgentWorld M) (message : Bytes) : AgentWorld M :=
  { w with
    agent := (M.react w.agent message).1
    inbox := w.inbox ++ (M.react w.agent message).2
    sends := w.sends + 1
    delivered := w.delivered ++ [message]
    accepted := if M.accepts w.agent message then w.accepted + 1 else w.accepted }

/-- A delivery takes back no acceptance. -/
theorem accepted_le_deliver (w : AgentWorld M) (message : Bytes) :
    w.accepted ≤ (w.deliver message).accepted := by
  unfold deliver
  dsimp only
  split <;> omega

/-- Octets taken off the inbox in `n` calls, which leave `rest`. -/
def took (w : AgentWorld M) (n : ℕ) (rest : Bytes) : AgentWorld M :=
  { w with inbox := rest, recvs := w.recvs + n }

/-- A `recv` that threw. -/
def lost (w : AgentWorld M) : AgentWorld M := { w with recvs := w.recvs + 1, threw := true }

end AgentWorld

/-- A channel to an agent over a line. -/
def agentChannel (M : AgentMachine) (line : Line) : DataChannel (AgentWorld M) where
  send message w :=
    if line.sendFails w.sends then .error (.java .ioException "") { w with sends := w.sends + 1 }
    else .ok () (w.deliver message)
  recv n w :=
    if line.recvFails w.recvs ∨ w.inbox.length < n then .error (.java .ioException "") w.lost
    else .ok (w.inbox.take n) (w.took 1 (w.inbox.drop n))

section Preserves

variable {M : AgentMachine} {line : Line} {J : AgentWorld M → Prop} {E : Fault → Prop}

/-- What a delivery and a failed one preserve, `send` preserves. -/
theorem agentChannel_send (hE : E (.java .ioException ""))
    (hdeliver : ∀ w m, J w → J (w.deliver m))
    (hfailed : ∀ w : AgentWorld M, J w → J { w with sends := w.sends + 1 }) (message : Bytes) :
    Effect.Preserves J E ((agentChannel M line).send message) := by
  refine ⟨?_, ?_⟩ <;> intro w u w' hw h <;> unfold agentChannel at h <;> dsimp only at h <;>
    split at h <;> cases h
  · exact hdeliver w message hw
  · exact ⟨hfailed w hw, hE⟩

/-- What octets taken and a failure preserve, `recv` preserves. -/
theorem agentChannel_recv (hE : E (.java .ioException ""))
    (htook : ∀ (w : AgentWorld M) n rest, J w → J (w.took n rest))
    (hlost : ∀ w : AgentWorld M, J w → J w.lost) (n : ℕ) :
    Effect.Preserves J E ((agentChannel M line).recv n) := by
  refine ⟨?_, ?_⟩ <;> intro w u w' hw h <;> unfold agentChannel at h <;> dsimp only at h <;>
    split at h <;> cases h
  · exact htook w 1 _ hw
  · exact ⟨hlost w hw, hE⟩

end Preserves

/-- A platform with an agent behind its channel. -/
def agentPlatform (V : Vccrypt) (C : Vccert) (M : AgentMachine) (line : Line) :
    Platform (AgentWorld M) :=
  ⟨V, C, agentChannel M line⟩

/-- **A call that ends because one of its first `n` `recv`s throws.** -/
def Broken {M : AgentMachine} {α : Type} (n : ℕ) (x : Handler (AgentWorld M) α) (line : Line)
    (s : Session (AgentWorld M)) : Prop :=
  ∃ f s', x s = .error f s' ∧ s'.world.threw = true ∧
    ∃ i < n, line.recvFails (s.world.recvs + i) = true

namespace Broken

variable {M : AgentMachine} {α β : Type} {line : Line} {n : ℕ} {x : Handler (AgentWorld M) α}
  {s : Session (AgentWorld M)}

theorem mono {m : ℕ} (h : Broken n x line s) (hm : n ≤ m) : Broken m x line s := by
  obtain ⟨f, s', hx, hthrew, i, hi, hfails⟩ := h
  exact ⟨f, s', hx, hthrew, i, hi.trans_le hm, hfails⟩

theorem bind (h : Broken n x line s) (f : α → Handler (AgentWorld M) β) :
    Broken n (x >>= f) line s := by
  obtain ⟨e, s', hx, hthrew, hi⟩ := h
  exact ⟨e, s', Effect.bind_error hx, hthrew, hi⟩

/-- What comes after a part that took `m` `recv`s. -/
theorem after {m : ℕ} {s' : Session (AgentWorld M)} {a : α} (hx : x s = .ok a s')
    (hm : s'.world.recvs = s.world.recvs + m) {f : α → Handler (AgentWorld M) β}
    (h : Broken n (f a) line s') : Broken (m + n) (x >>= f) line s := by
  obtain ⟨e, s'', hf, hthrew, i, hi, hfails⟩ := h
  refine ⟨e, s'', (Effect.bind_ok hx).trans hf, hthrew, m + i, by omega, ?_⟩
  rw [← Nat.add_assoc, ← hm]
  exact hfails

/-- What a method comes down to from another state, without a `recv`. -/
theorem of_eq {y : Handler (AgentWorld M) α} {s' : Session (AgentWorld M)}
    (h : Broken n x line s') (hy : y s = x s') (hrecvs : s'.world.recvs = s.world.recvs) :
    Broken n y line s := by
  obtain ⟨e, s'', hx, hthrew, i, hi, hfails⟩ := h
  refine ⟨e, s'', hy.trans hx, hthrew, i, hi, ?_⟩
  rw [← hrecvs]
  exact hfails

/-- On a line that lets these `recv`s through nothing breaks. -/
theorem elim {p : Prop} (h : Broken n x line s)
    (hline : ∀ i < n, line.recvFails (s.world.recvs + i) = false) : p := by
  obtain ⟨f, s', -, -, i, hi, hfails⟩ := h
  rw [hline i hi] at hfails
  cases hfails

end Broken

/-- The handler with the next packet to read counted. -/
def ProtocolHandlerImpl.afterRead (h : ProtocolHandlerImpl) : ProtocolHandlerImpl :=
  { h with outerEnvelopeReader := ⟨h.outerEnvelopeReader.iv + 1⟩ }

/-- The handler with the next packet to write counted. -/
def ProtocolHandlerImpl.afterWrite (h : ProtocolHandlerImpl) : ProtocolHandlerImpl :=
  { h with outerEnvelopeWriter := ⟨h.outerEnvelopeWriter.iv + 1⟩ }

namespace Handler

/-! ## The envelope, forwards and backwards -/

section

variable {W : Type} {P : Platform W} {s s' : Session W}

/-- **Once there is a secret `encryptPayload` returns**, on any platform, for a
request whose packet fits. -/
theorem encryptPayload_eq {key : Bytes} (hV : P.crypt.Lawful) (hkey : P.crypt.Takes key)
    (hsecret : s.handler.sharedSecret = some key) {request : Bytes} (hfits : FitsPacket request) :
    encryptPayload P request s =
      .ok (sealPacket P.crypt key s.handler.outerEnvelopeWriter.iv request)
        { s with handler := s.handler.afterWrite } := by
  have hwriter : s.handler.outerEnvelopeWriter.encryptPayload P.crypt s.handler.sharedSecret
      request = .ok (sealPacket P.crypt key s.handler.outerEnvelopeWriter.iv request,
        s.handler.afterWrite.outerEnvelopeWriter) := by
    rw [hsecret, OuterEnvelopeWriter.encryptPayload, encryptPayloadNative_eq hV hkey _ hfits,
      ok_bind]
    rfl
  unfold encryptPayload
  rw [hwriter]
  rfl

/-- **What `encryptPayload` returned**, and that the counter moved with it. -/
theorem encryptPayload_eq_ok {payload packet : Bytes}
    (h : encryptPayload P payload s = .ok packet s') :
    encryptPayloadNative P.crypt s.handler.sharedSecret s.handler.outerEnvelopeWriter.iv payload =
      .ok packet ∧ s' = { s with handler := s.handler.afterWrite } := by
  unfold encryptPayload at h
  split at h
  · rename_i hwriter
    obtain ⟨q, hnative, hq⟩ := bind_eq_ok_iff.mp hwriter
    cases h
    cases hq
    exact ⟨hnative, rfl⟩
  · cases h

/-- **An `encryptPayload` that throws** changes nothing. -/
theorem encryptPayload_eq_error {payload : Bytes} {f : Fault}
    (h : encryptPayload P payload s = .error f s') : s' = s := by
  unfold encryptPayload at h
  split at h <;> cases h
  rfl

/-- A request that cannot be sealed is not sent. -/
theorem sendRequest_unsealed {request : Bytes} {f : Fault}
    (hseal : encryptPayloadNative P.crypt s.handler.sharedSecret s.handler.outerEnvelopeWriter.iv
      request = .error f) :
    sendRequest P (.ok request) s = .error f s := by
  have hwriter : s.handler.outerEnvelopeWriter.encryptPayload P.crypt s.handler.sharedSecret
      request = .error f := by
    rw [OuterEnvelopeWriter.encryptPayload, hseal, error_bind]
  have hencrypt : encryptPayload P request s = .error f s := by
    simp only [encryptPayload, hwriter]
  unfold sendRequest
  rw [Effect.bind_ok (Effect.lift_ok ..)]
  exact Effect.bind_error hencrypt

/-- **What `decryptPayload` accepted**, and that the counter moved with it. -/
theorem decryptPayload_eq_ok {header payload p : Bytes}
    (h : decryptPayload P header payload s = .ok p s') :
    decryptPayloadNative P.crypt s.handler.sharedSecret s.handler.outerEnvelopeReader.iv header
      payload = .ok p ∧ s' = { s with handler := s.handler.afterRead } := by
  unfold decryptPayload at h
  split at h
  · rename_i hreader
    obtain ⟨q, hnative, hq⟩ := bind_eq_ok_iff.mp hreader
    cases h
    cases hq
    exact ⟨hnative, rfl⟩
  · cases h

/-- **A `decryptPayload` that throws** changes nothing. -/
theorem decryptPayload_eq_error {header payload : Bytes} {f : Fault}
    (h : decryptPayload P header payload s = .error f s') : s' = s := by
  unfold decryptPayload at h
  split at h <;> cases h
  rfl

end

variable {V : Vccrypt} {C : Vccert} {M : AgentMachine} {line : Line} {α : Type}
  {h : ProtocolHandlerImpl} {w : AgentWorld M} {key : Bytes}

/-! ## Calls on the channel -/

theorem send_ok (message : Bytes) (hline : line.sendFails w.sends = false) :
    send (agentPlatform V C M line) message ⟨h, w⟩ = .ok () ⟨h, w.deliver message⟩ := by
  simp [send, onWorld, agentPlatform, agentChannel, hline]

theorem send_error (message : Bytes) (hline : line.sendFails w.sends = true) :
    send (agentPlatform V C M line) message ⟨h, w⟩ =
      .error (.java .ioException "") ⟨h, { w with sends := w.sends + 1 }⟩ := by
  simp [send, onWorld, agentPlatform, agentChannel, hline]

/-- A `recv` of what lies at the front of the inbox. -/
theorem recv_ok {part rest : Bytes} {n : ℕ} (hline : line.recvFails w.recvs = false)
    (hin : w.inbox = part ++ rest) (hn : part.length = n) :
    recv (agentPlatform V C M line) n ⟨h, w⟩ = .ok part ⟨h, w.took 1 rest⟩ := by
  have hlen : ¬w.inbox.length < n := by
    rw [hin, List.length_append]
    omega
  have htake : w.inbox.take n = part := by rw [hin, List.take_left' hn]
  have hdrop : w.inbox.drop n = rest := by rw [hin, List.drop_left' hn]
  simp [recv, onWorld, agentPlatform, agentChannel, hline, hlen, htake, hdrop]

theorem recv_error (n : ℕ) (hline : line.recvFails w.recvs = true) :
    recv (agentPlatform V C M line) n ⟨h, w⟩ = .error (.java .ioException "") ⟨h, w.lost⟩ := by
  simp [recv, onWorld, agentPlatform, agentChannel, hline]

/-- Backwards: what a `recv` that returned took. -/
theorem of_recv_ok {part : Bytes} {n : ℕ} {s' : Session (AgentWorld M)}
    (hok : recv (agentPlatform V C M line) n ⟨h, w⟩ = .ok part s') :
    line.recvFails w.recvs = false ∧ part.length = n ∧
      ∃ rest, w.inbox = part ++ rest ∧ s' = ⟨h, w.took 1 rest⟩ := by
  have hgo : ¬(line.recvFails w.recvs ∨ w.inbox.length < n) := by
    intro hstop
    simp only [recv, onWorld, agentPlatform, agentChannel, if_pos hstop] at hok
    cases hok
  simp only [recv, onWorld, agentPlatform, agentChannel, if_neg hgo] at hok
  obtain ⟨hline, hlen⟩ := not_or.mp hgo
  cases hok
  refine ⟨by simpa using hline, ?_, w.inbox.drop n, (List.take_append_drop ..).symm, rfl⟩
  rw [List.length_take]
  omega

/-! ## The envelope, on a handler -/

section Envelope

variable (hV : V.Lawful) (hkey : V.Takes key) (hsecret : h.sharedSecret = some key)
include hV hkey hsecret

theorem encryptPayload_ok {request : Bytes} (hfits : FitsPacket request) :
    encryptPayload (agentPlatform V C M line) request ⟨h, w⟩ =
      .ok (sealPacket V key h.outerEnvelopeWriter.iv request) ⟨h.afterWrite, w⟩ :=
  encryptPayload_eq (P := agentPlatform V C M line) (s := ⟨h, w⟩) hV hkey hsecret hfits

/-- **A request is sealed under the writer's counter and delivered.** -/
theorem sendRequest_ok {request : Bytes} (hfits : FitsPacket request)
    (hline : line.sendFails w.sends = false) :
    sendRequest (agentPlatform V C M line) (.ok request) ⟨h, w⟩ =
      .ok () ⟨h.afterWrite, w.deliver (sealPacket V key h.outerEnvelopeWriter.iv request)⟩ := by
  unfold sendRequest
  rw [Effect.bind_ok (Effect.lift_ok ..),
    Effect.bind_ok (encryptPayload_ok hV hkey hsecret hfits)]
  exact send_ok _ hline

/-- The counter moves although nothing is delivered. -/
theorem sendRequest_unsent {request : Bytes} (hfits : FitsPacket request)
    (hline : line.sendFails w.sends = true) :
    sendRequest (agentPlatform V C M line) (.ok request) ⟨h, w⟩ =
      .error (.java .ioException "") ⟨h.afterWrite, { w with sends := w.sends + 1 }⟩ := by
  unfold sendRequest
  rw [Effect.bind_ok (Effect.lift_ok ..),
    Effect.bind_ok (encryptPayload_ok hV hkey hsecret hfits)]
  exact send_error _ hline

theorem decryptHeader_ok {n : ℕ} (hn : n ≤ MAX_PAYLOAD_SIZE) :
    decryptHeader (agentPlatform V C M line) (sealHeader V key h.outerEnvelopeReader.iv n)
      ⟨h, w⟩ = .ok n ⟨h, w⟩ := by
  have hnative : decryptHeaderNative V (some key) h.outerEnvelopeReader.iv
      (sealHeader V key h.outerEnvelopeReader.iv n) = .ok n :=
    (decryptHeaderNative_ok_iff hV).mpr ⟨hkey.1, rfl, hn⟩
  simp only [decryptHeader, OuterEnvelopeReader.decryptHeader, agentPlatform, hsecret, hnative,
    Effect.lift_ok]

theorem decryptPayload_ok (p : Bytes) :
    decryptPayload (agentPlatform V C M line)
      (sealHeader V key h.outerEnvelopeReader.iv p.length)
      (sealRest V key h.outerEnvelopeReader.iv p) ⟨h, w⟩ = .ok p ⟨h.afterRead, w⟩ := by
  have hreader : h.outerEnvelopeReader.decryptPayload V h.sharedSecret
      (sealHeader V key h.outerEnvelopeReader.iv p.length)
      (sealRest V key h.outerEnvelopeReader.iv p) = .ok (p, h.afterRead.outerEnvelopeReader) := by
    rw [hsecret, OuterEnvelopeReader.decryptPayload, decryptPayloadNative_sealRest hV hkey, ok_bind]
    rfl
  simp only [decryptPayload, agentPlatform, hreader]
  rfl

end Envelope

/-! ## A response that waits in the inbox -/

/-- The two pieces of a packet's rest, joined again. -/
theorem joinPayload_eq (responseHMAC encryptedPayloadTail : Bytes) :
    joinPayload responseHMAC encryptedPayloadTail = .ok (responseHMAC ++ encryptedPayloadTail) := by
  have hroom : responseHMAC.length + encryptedPayloadTail.length - responseHMAC.length =
      encryptedPayloadTail.length := Nat.add_sub_cancel_left ..
  rw [joinPayload, arraycopy_first rfl (Nat.le_add_right ..), ok_bind, hroom,
    arraycopy_last rfl rfl]

section Responses

variable (C line)
variable (hV : V.Lawful) (hkey : V.Takes key) (hsecret : h.sharedSecret = some key)
  {p rest : Bytes} (hin : w.inbox = sealPacket V key h.outerEnvelopeReader.iv p ++ rest)
  (hmax : p.length ≤ MAX_PAYLOAD_SIZE)
include hV hkey hsecret hin hmax

/-- **Most responses**: a `recv` throws, or the packet is taken off the inbox
and its payload decoded. -/
theorem readResponse_cases (expect : ℕ → Except Fault Unit) (decode : ℕ → Bytes → Except Fault α)
    (hexpect : expect p.length = .ok ()) :
    Broken 2 (readResponse (agentPlatform V C M line) expect decode) line ⟨h, w⟩ ∨
      readResponse (agentPlatform V C M line) expect decode ⟨h, w⟩ =
        Effect.lift (decode p.length p) ⟨h.afterRead, w.took 2 rest⟩ := by
  rw [sealPacket, List.append_assoc] at hin
  cases h₀ : line.recvFails w.recvs with
  | true => exact .inl ⟨_, _, Effect.bind_error (recv_error 5 h₀), rfl, 0, by omega, h₀⟩
  | false =>
    have hheader : readResponse (agentPlatform V C M line) expect decode ⟨h, w⟩ = (do
        let encryptedPayload ← recv (agentPlatform V C M line) (p.length + 32)
        let decryptedPayload ← decryptPayload (agentPlatform V C M line)
          (sealHeader V key h.outerEnvelopeReader.iv p.length) encryptedPayload
        Effect.lift (decode p.length decryptedPayload) : Handler (AgentWorld M) α)
        ⟨h, w.took 1 (sealRest V key h.outerEnvelopeReader.iv p ++ rest)⟩ := by
      unfold readResponse
      rw [Effect.bind_ok (recv_ok h₀ hin (length_sealHeader ..)),
        Effect.bind_ok (decryptHeader_ok hV hkey hsecret hmax), hexpect,
        Effect.bind_ok (Effect.lift_ok ..)]
    cases h₁ : line.recvFails (w.recvs + 1) with
    | true =>
      exact .inl ⟨_, _, hheader.trans (Effect.bind_error (recv_error _ h₁)), rfl, 1, by omega, h₁⟩
    | false =>
      right
      rw [hheader, Effect.bind_ok (recv_ok h₁ rfl (length_sealRest hV ..)),
        Effect.bind_ok (decryptPayload_ok hV hkey hsecret p)]
      rfl

/-- **The two oldest responses**, read in three pieces. -/
theorem readSplitResponse_cases (expect : ℕ → Except Fault Unit) (decode : Bytes → Except Fault α)
    (hexpect : expect p.length = .ok ()) :
    Broken 3 (readSplitResponse (agentPlatform V C M line) expect decode) line ⟨h, w⟩ ∨
      readSplitResponse (agentPlatform V C M line) expect decode ⟨h, w⟩ =
        Effect.lift (decode p) ⟨h.afterRead, w.took 3 rest⟩ := by
  rw [sealPacket, List.append_assoc] at hin
  cases h₀ : line.recvFails w.recvs with
  | true => exact .inl ⟨_, _, Effect.bind_error (recv_error 5 h₀), rfl, 0, by omega, h₀⟩
  | false =>
    have hheader : readSplitResponse (agentPlatform V C M line) expect decode ⟨h, w⟩ = (do
        let responseHMAC ← recv (agentPlatform V C M line) 32
        let encryptedPayloadTail ← recv (agentPlatform V C M line) p.length
        let encryptedPayload ← Effect.lift (joinPayload responseHMAC encryptedPayloadTail)
        let decryptedPayload ← decryptPayload (agentPlatform V C M line)
          (sealHeader V key h.outerEnvelopeReader.iv p.length) encryptedPayload
        Effect.lift (decode decryptedPayload) : Handler (AgentWorld M) α)
        ⟨h, w.took 1 (sealRest V key h.outerEnvelopeReader.iv p ++ rest)⟩ := by
      unfold readSplitResponse
      rw [Effect.bind_ok (recv_ok h₀ hin (length_sealHeader ..)),
        Effect.bind_ok (decryptHeader_ok hV hkey hsecret hmax), hexpect,
        Effect.bind_ok (Effect.lift_ok ..)]
    cases h₁ : line.recvFails (w.recvs + 1) with
    | true =>
      exact .inl ⟨_, _, hheader.trans (Effect.bind_error (recv_error _ h₁)), rfl, 1, by omega, h₁⟩
    | false =>
      have hmac := recv_ok (V := V) (C := C) (h := h)
        (w := w.took 1 (sealRest V key h.outerEnvelopeReader.iv p ++ rest)) h₁
        (List.append_assoc ..) (length_sealMac hV key h.outerEnvelopeReader.iv p)
      cases h₂ : line.recvFails (w.recvs + 2) with
      | true =>
        exact .inl ⟨_, _, hheader.trans ((Effect.bind_ok hmac).trans
          (Effect.bind_error (recv_error _ h₂))), rfl, 2, by omega, h₂⟩
      | false =>
        right
        rw [hheader, Effect.bind_ok hmac, Effect.bind_ok (recv_ok h₂ rfl (length_sealBody ..)),
          joinPayload_eq, Effect.bind_ok (Effect.lift_ok ..), ← sealRest,
          Effect.bind_ok (decryptPayload_ok hV hkey hsecret p)]
        rfl

end Responses

/-- **What a response that was read was**: an authentic packet at the front of
the inbox, expected and decoded, off a line that let its pieces through. -/
theorem of_readSplitResponse_ok (hV : V.Lawful) (hsecret : h.sharedSecret = some key)
    {expect : ℕ → Except Fault Unit} {decode : Bytes → Except Fault α} {a : α}
    {s' : Session (AgentWorld M)}
    (hok : readSplitResponse (agentPlatform V C M line) expect decode ⟨h, w⟩ = .ok a s') :
    (∀ i < 3, line.recvFails (w.recvs + i) = false) ∧
      ∃ p rest, w.inbox = sealPacket V key h.outerEnvelopeReader.iv p ++ rest ∧
        p.length ≤ MAX_PAYLOAD_SIZE ∧ V.Takes key ∧ expect p.length = .ok () ∧
        decode p = .ok a ∧ s' = ⟨h.afterRead, w.took 3 rest⟩ := by
  obtain ⟨header, s₁, hheader, hok⟩ := Effect.bind_eq_ok hok
  obtain ⟨h₀, -, rest₁, hin, rfl⟩ := of_recv_ok hheader
  obtain ⟨n, s₂, hsize, hok⟩ := Effect.bind_eq_ok hok
  obtain ⟨hnative, rfl⟩ := Effect.lift_eq_ok_iff.mp hsize
  obtain ⟨_, s₃, hchecked, hok⟩ := Effect.bind_eq_ok hok
  obtain ⟨hexpect, rfl⟩ := Effect.lift_eq_ok_iff.mp hchecked
  obtain ⟨mac, s₄, hmac, hok⟩ := Effect.bind_eq_ok hok
  obtain ⟨h₁, hmaclen, rest₂, hin₂, rfl⟩ := of_recv_ok hmac
  obtain ⟨tail, s₅, htail, hok⟩ := Effect.bind_eq_ok hok
  obtain ⟨h₂, htaillen, rest₃, hin₃, rfl⟩ := of_recv_ok htail
  rw [joinPayload_eq, Effect.bind_ok (Effect.lift_ok ..)] at hok
  obtain ⟨p, s₆, hpayload, hok⟩ := Effect.bind_eq_ok hok
  obtain ⟨hdecode, rfl⟩ := Effect.lift_eq_ok_iff.mp hok
  obtain ⟨hopened, rfl⟩ := decryptPayload_eq_ok hpayload
  have hheaderNative : decryptHeaderNative V (some key) h.outerEnvelopeReader.iv header =
      .ok n := by
    rw [← hsecret]
    exact hnative
  have hopened : decryptPayloadNative V (some key) h.outerEnvelopeReader.iv header
      (mac ++ tail) = .ok p := by
    rw [← hsecret]
    exact hopened
  -- the header tells the size, and the code covers the two other pieces
  obtain ⟨-, rfl, hmax⟩ := (decryptHeaderNative_ok_iff hV).mp hheaderNative
  obtain ⟨hkey, hrest⟩ := (decryptPayloadNative_ok_iff hV).mp hopened
  have hlen : p.length = n := by
    have hboth := congrArg List.length hrest
    simp only [List.length_append, hmaclen, htaillen, length_sealBody, hV.macShort.length_mac,
      hV.macSize] at hboth
    omega
  subst hlen
  have hrest' : mac ++ tail = sealRest V key h.outerEnvelopeReader.iv p := hrest
  refine ⟨?_, p, rest₃, ?_, hmax, hkey, hexpect, hdecode, rfl⟩
  · intro i hi
    obtain rfl | rfl | rfl : i = 0 ∨ i = 1 ∨ i = 2 := by omega
    · exact h₀
    · exact h₁
    · exact h₂
  · have hin₁ : rest₁ = mac ++ rest₂ := hin₂
    have hin₂ : rest₂ = tail ++ rest₃ := hin₃
    rw [hin, hin₁, hin₂, ← List.append_assoc mac, hrest', sealPacket, List.append_assoc]

end Handler

end VjBlockchain
