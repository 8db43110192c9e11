import VjBlockchain.Agentd.Exchange
import VjBlockchain.Agentd.Receives
import VjBlockchain.Common.Simulation
/-!
# The handler over two channels

The handler touches the world behind its channel only through `send` and
`recv`. So if one channel simulates another, every operation and every
handshake over the one simulates it over the other, and so does any run.
-/

namespace VjBlockchain

open Common Common.Bytes Common.Throwing ByteUtil

variable {W W' α : Type}

/-- Two channels alike: the calls of the one simulate those of the other. -/
structure DataChannel.Simulates (R : W → W' → Prop) (L : W → Prop) (L' : W' → Prop)
    (ch : DataChannel W) (ch' : DataChannel W') : Prop where
  send : ∀ message, Effect.Simulates R L L' (ch.send message) (ch'.send message)
  recv : ∀ n, Effect.Simulates R L L' (ch.recv n) (ch'.recv n)

/-- One handler, over worlds that are related. -/
def Session.Related (R : W → W' → Prop) (s : Session W) (t : Session W') : Prop :=
  s.handler = t.handler ∧ R s.world t.world

/-- A handler's methods, over worlds that are related. -/
abbrev Handler.Simulates (R : W → W' → Prop) (L : W → Prop) (L' : W' → Prop) (x : Handler W α)
    (y : Handler W' α) : Prop :=
  Effect.Simulates (Session.Related R) (fun s => L s.world) (fun t => L' t.world) x y

namespace Handler

variable {R : W → W' → Prop} {L : W → Prop} {L' : W' → Prop}

/-! ## Parts that stay with the handler -/

/-- A method that runs on the handler alone. -/
def onHandler (f : ProtocolHandlerImpl → Except Fault (α × ProtocolHandlerImpl)) : Handler W α :=
  fun s =>
    match f s.handler with
    | .ok (a, h) => .ok a { s with handler := h }
    | .error e => .error e s

theorem outcome_onHandler (f : ProtocolHandlerImpl → Except Fault (α × ProtocolHandlerImpl))
    (s : Session W) : Effect.outcome (onHandler f) s =
      ((f s.handler).map Prod.fst,
        { s with handler := ((f s.handler).toOption.map Prod.snd).getD s.handler }) := by
  unfold Effect.outcome onHandler
  cases f s.handler <;> rfl

theorem simulates_onHandler (f : ProtocolHandlerImpl → Except Fault (α × ProtocolHandlerImpl)) :
    Simulates R L L' (onHandler f : Handler W α) (onHandler f : Handler W' α) where
  step := by
    rintro s t ⟨hhandler, hworld⟩
    rw [outcome_onHandler, outcome_onHandler, hhandler]
    exact .inr (.inr ⟨rfl, rfl, hworld⟩)
  lost := .of_outcome fun s hs => by rw [outcome_onHandler]; exact hs
  lost' := .of_outcome fun s hs => by rw [outcome_onHandler]; exact hs

theorem encryptPayload_onHandler (P : Platform W) (payload : Bytes) :
    encryptPayload P payload = onHandler fun h =>
      (h.outerEnvelopeWriter.encryptPayload P.crypt h.sharedSecret payload).map fun r =>
        (r.1, { h with outerEnvelopeWriter := r.2 }) := by
  funext s
  unfold encryptPayload onHandler
  dsimp only
  cases s.handler.outerEnvelopeWriter.encryptPayload P.crypt s.handler.sharedSecret payload <;> rfl

theorem decryptHeader_onHandler (P : Platform W) (header : Bytes) :
    decryptHeader P header = onHandler fun h =>
      (h.outerEnvelopeReader.decryptHeader P.crypt h.sharedSecret header).map fun n => (n, h) := by
  funext s
  unfold decryptHeader onHandler
  dsimp only
  cases s.handler.outerEnvelopeReader.decryptHeader P.crypt s.handler.sharedSecret header <;> rfl

theorem decryptPayload_onHandler (P : Platform W) (header payload : Bytes) :
    decryptPayload P header payload = onHandler fun h =>
      (h.outerEnvelopeReader.decryptPayload P.crypt h.sharedSecret header payload).map fun r =>
        (r.1, { h with outerEnvelopeReader := r.2 }) := by
  funext s
  unfold decryptPayload onHandler
  dsimp only
  cases s.handler.outerEnvelopeReader.decryptPayload P.crypt s.handler.sharedSecret header payload
  · rfl
  · rfl

theorem requireConnected_onHandler : (requireConnected : Handler W Unit) = onHandler fun h =>
    if h.sharedSecret = none then
      .error (.java .connectException "Not connected. Call connect() first.")
    else .ok ((), h) := by
  funext s
  unfold requireConnected onHandler
  dsimp only
  by_cases h : s.handler.sharedSecret = none
  · rw [if_pos h, if_pos h]
  · rw [if_neg h, if_neg h]

theorem setSharedSecret_onHandler (secret : Bytes) :
    (setSharedSecret secret : Handler W Unit) = onHandler fun h =>
      .ok ((), { h with sharedSecret := some secret }) := rfl

/-! ## Calls on the channel -/

theorem simulates_onWorld {x : EStateM Fault W α} {y : EStateM Fault W' α}
    (h : Effect.Simulates R L L' x y) : Simulates R L L' (onWorld x) (onWorld y) where
  step := by
    rintro s t ⟨hhandler, hworld⟩
    rw [outcome_onWorld, outcome_onWorld]
    rcases h.step hworld with hL | hL' | ⟨hresult, hR⟩
    · exact .inl hL
    · exact .inr (.inl hL')
    · exact .inr (.inr ⟨hresult, hhandler, hR⟩)
  lost := .of_outcome fun s hs => by rw [outcome_onWorld]; exact h.lost.outcome hs
  lost' := .of_outcome fun s hs => by rw [outcome_onWorld]; exact h.lost'.outcome hs

/-! ## Requests, responses and the handshake -/

section

variable {ch : DataChannel W} {ch' : DataChannel W'} (V : Vccrypt) (C : Vccert)
  (hch : ch.Simulates R L L' ch')
include hch

theorem simulates_send (message : Bytes) :
    Simulates R L L' (send ⟨V, C, ch⟩ message) (send ⟨V, C, ch'⟩ message) :=
  simulates_onWorld (hch.send message)

theorem simulates_recv (n : ℕ) : Simulates R L L' (recv ⟨V, C, ch⟩ n) (recv ⟨V, C, ch'⟩ n) :=
  simulates_onWorld (hch.recv n)

omit hch in
theorem simulates_encryptPayload (payload : Bytes) :
    Simulates R L L' (encryptPayload ⟨V, C, ch⟩ payload) (encryptPayload ⟨V, C, ch'⟩ payload) := by
  rw [encryptPayload_onHandler, encryptPayload_onHandler]
  exact simulates_onHandler _

omit hch in
theorem simulates_decryptHeader (header : Bytes) :
    Simulates R L L' (decryptHeader ⟨V, C, ch⟩ header) (decryptHeader ⟨V, C, ch'⟩ header) := by
  rw [decryptHeader_onHandler, decryptHeader_onHandler]
  exact simulates_onHandler _

omit hch in
theorem simulates_decryptPayload (header payload : Bytes) :
    Simulates R L L' (decryptPayload ⟨V, C, ch⟩ header payload)
      (decryptPayload ⟨V, C, ch'⟩ header payload) := by
  rw [decryptPayload_onHandler, decryptPayload_onHandler]
  exact simulates_onHandler _

omit hch in
theorem simulates_requireConnected :
    Simulates R L L' (requireConnected : Handler W Unit) (requireConnected : Handler W' Unit) := by
  rw [requireConnected_onHandler, requireConnected_onHandler]
  exact simulates_onHandler _

omit hch in
theorem simulates_setSharedSecret (secret : Bytes) :
    Simulates R L L' (setSharedSecret secret : Handler W Unit)
      (setSharedSecret secret : Handler W' Unit) := by
  rw [setSharedSecret_onHandler, setSharedSecret_onHandler]
  exact simulates_onHandler _

omit hch in
/-- Two methods that go on with the fields of the handler. -/
theorem simulates_get_bind [Nonempty W] [Nonempty W'] {f : Session W → Handler W α}
    {g : Session W' → Handler W' α} (h : ∀ handler w w', Simulates R L L' (f ⟨handler, w⟩)
      (g ⟨handler, w'⟩)) : Simulates R L L' (get >>= f) (get >>= g) := by
  obtain ⟨w⟩ := ‹Nonempty W›
  obtain ⟨w'⟩ := ‹Nonempty W'›
  refine .get_bind ?_ (fun s => (h s.handler s.world w').lost)
    fun t => (h t.handler w t.world).lost'
  rintro ⟨_, w⟩ ⟨_, w'⟩ ⟨rfl, -⟩
  exact h _ w w'

theorem simulates_sendRequest (request : Except Fault Bytes) :
    Simulates R L L' (sendRequest ⟨V, C, ch⟩ request) (sendRequest ⟨V, C, ch'⟩ request) :=
  .bind (.lift _) fun _ => .bind (simulates_encryptPayload V C _) fun _ => simulates_send V C hch _

theorem simulates_readResponse (expect : ℕ → Except Fault Unit)
    (decode : ℕ → Bytes → Except Fault α) :
    Simulates R L L' (readResponse ⟨V, C, ch⟩ expect decode)
      (readResponse ⟨V, C, ch'⟩ expect decode) :=
  .bind (simulates_recv V C hch _) fun _ => .bind (simulates_decryptHeader V C _) fun _ =>
    .bind (.lift _) fun _ => .bind (simulates_recv V C hch _) fun _ =>
      .bind (simulates_decryptPayload V C _ _) fun _ => .lift _

theorem simulates_readSplitResponse (expect : ℕ → Except Fault Unit)
    (decode : Bytes → Except Fault α) :
    Simulates R L L' (readSplitResponse ⟨V, C, ch⟩ expect decode)
      (readSplitResponse ⟨V, C, ch'⟩ expect decode) :=
  .bind (simulates_recv V C hch _) fun _ => .bind (simulates_decryptHeader V C _) fun _ =>
    .bind (.lift _) fun _ => .bind (simulates_recv V C hch _) fun _ =>
      .bind (simulates_recv V C hch _) fun _ => .bind (.lift _) fun _ =>
        .bind (simulates_decryptPayload V C _ _) fun _ => .lift _

theorem simulates_recvServerHello :
    Simulates R L L' (recvServerHello ⟨V, C, ch⟩) (recvServerHello ⟨V, C, ch'⟩) := by
  have herror : ∀ n, Simulates R L L' (handleHandshakeInitiateError ⟨V, C, ch⟩ n)
      (handleHandshakeInitiateError ⟨V, C, ch'⟩ n) := by
    intro n
    unfold handleHandshakeInitiateError
    split
    · exact .throw _
    · exact .bind (simulates_recv V C hch _) fun _ => .lift _
  refine .bind (simulates_recv V C hch _) fun _ => .bind (.lift _) fun _ =>
    .bind (.lift _) fun _ => ?_
  dsimp only
  split
  · exact .bind (herror _) fun _ => simulates_recv V C hch _
  · exact simulates_recv V C hch _

section

variable [Nonempty W] [Nonempty W']

theorem simulates_exchangeHello (nonces : Nonces) :
    Simulates R L L' (exchangeHello ⟨V, C, ch⟩ nonces) (exchangeHello ⟨V, C, ch'⟩ nonces) := by
  refine simulates_get_bind fun h w w' => ?_
  exact .bind (.lift _) fun _ => .bind (simulates_send V C hch _) fun _ =>
    .bind (simulates_recvServerHello V C hch) fun _ => .bind (.lift _) fun _ => .pure _

theorem simulates_initiateHandshake (nonces : Nonces) :
    Simulates R L L' (initiateHandshake ⟨V, C, ch⟩ nonces)
      (initiateHandshake ⟨V, C, ch'⟩ nonces) := by
  refine .bind (simulates_exchangeHello V C hch nonces) fun _ => ?_
  refine simulates_get_bind fun h w w' => ?_
  exact .bind (.lift _) fun _ => .bind (simulates_setSharedSecret _) fun _ =>
    .bind (.lift _) fun _ => .pure _

theorem simulates_acknowledgeHandshake (serverChallengeNonce : Bytes) :
    Simulates R L L' (acknowledgeHandshake ⟨V, C, ch⟩ serverChallengeNonce)
      (acknowledgeHandshake ⟨V, C, ch'⟩ serverChallengeNonce) := by
  refine simulates_get_bind fun h w w' => ?_
  exact .bind (simulates_sendRequest V C hch _) fun _ => simulates_readSplitResponse V C hch _ _

/-- **A handshake** over one channel simulates it over the other. -/
theorem simulates_handshake (nonces : Nonces) :
    Simulates R L L' (handshake ⟨V, C, ch⟩ nonces) (handshake ⟨V, C, ch'⟩ nonces) :=
  .bind (simulates_initiateHandshake V C hch nonces) fun _ =>
    simulates_acknowledgeHandshake V C hch _

end

/-- The shape of the guarded queries. -/
theorem simulates_query (request : Except Fault Bytes) (expect : ℕ → Except Fault Unit)
    (decode : ℕ → Bytes → Except Fault α) (f : α → Value) :
    Simulates R L L'
      ((do
        requireConnected
        sendRequest ⟨V, C, ch⟩ request
        readResponse ⟨V, C, ch⟩ expect decode) >>= fun a => pure (f a))
      ((do
        requireConnected
        sendRequest ⟨V, C, ch'⟩ request
        readResponse ⟨V, C, ch'⟩ expect decode) >>= fun a => pure (f a)) :=
  .bind (.bind simulates_requireConnected fun _ => .bind (simulates_sendRequest V C hch _) fun _ =>
    simulates_readResponse V C hch _ _) fun _ => .pure _

/-- **So does every operation.** -/
theorem simulates_call (op : Operation) :
    Simulates R L L' (op.call ⟨V, C, ch⟩) (op.call ⟨V, C, ch'⟩) := by
  cases op with
  | submit t =>
    refine .bind (.bind simulates_requireConnected fun _ => .bind (.lift _) fun _ =>
      .bind (simulates_sendRequest V C hch _) fun _ => .bind ?_ fun _ => .pure _) fun _ => .pure _
    exact simulates_readSplitResponse V C hch _ _
  | getConnectionStatus =>
    exact .bind (.bind (simulates_sendRequest V C hch _) fun _ =>
      simulates_readResponse V C hch _ _) fun _ => .pure _
  | getLatestBlockId => exact simulates_query V C hch _ _ _ _
  | getBlockIdByBlockHeight _ => exact simulates_query V C hch _ _ _ _
  | _ _ => exact simulates_query V C hch _ _ _ _

end

end Handler

end VjBlockchain
