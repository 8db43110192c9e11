import VjBlockchain.Client.Connection
import VjBlockchain.Agentd.Counters
/-!
# Opening a connection again

`RemoteAgentConnection.connect` opens the channel, a new socket each time,
and runs a handshake on it that negotiates a new secret. The two packet
counters are older: they belong to a reader and a writer made once, with the
connection, and nothing takes them back. An agent starts a session with
counters of its own.

So a connection can be opened again exactly as long as nothing has moved its
counters: before the first packet is encrypted. A handler that has been
through one handshake, or through half of one, is never let in again.
-/

namespace VjBlockchain

open Common Common.Bytes Common.Throwing

/-- `RemoteAgentConnection.connect`, with the channel's own `connect`. -/
def RemoteAgentConnection.connect {W : Type} (P : Platform W) (dial : EStateM Fault W Unit)
    (nonces : Nonces) : Handler W Unit := do
  Handler.onWorld dial
  Handler.handshake P nonces

section

variable {V : Vccrypt} {A : Agent V} {C : Vccert} {privateKey : Bytes} {h : ProtocolHandlerImpl}

/-- The agent takes a call and starts a session. -/
def Agent.dial (A : Agent V) : EStateM Fault (AgentWorld A.machine) Unit := fun _ =>
  .ok () (.start (M := A.machine) AgentState.start)

/-- **Lock step**: client and agent hold one secret and the same counters. -/
def InStep (s : Session (AgentWorld A.machine)) : Prop :=
  ∃ key served, s.handler.sharedSecret = some key ∧
    s.world.agent = AgentState.mk (.serving key) s.handler.outerEnvelopeWriter.iv
      s.handler.outerEnvelopeReader.iv served

/-- **The connection can be opened** to an agent that starts a session: the
handshake returns, and both ends are in lock step. -/
def Reconnects (A : Agent V) (C : Vccert) (nonces : Nonces)
    (s : Session (AgentWorld A.machine)) : Prop :=
  ∃ s', RemoteAgentConnection.connect (A.platform C .reliable) A.dial nonces s = .ok () s' ∧
    InStep s'

/-! ## The second round, from any counters -/

/-- An agent that serves after the client's proof has moved both counters. -/
theorem Agent.react_serving {key key' message : Bytes} {c v c' v' : BitVec 64}
    {served served' : List Request}
    (hserving : (A.react ⟨.awaitingAcknowledge key, c, v, served⟩ message).1 =
      ⟨.serving key', c', v', served'⟩) : c' = c + 1 ∧ v' = v + 1 := by
  have hreact : A.react ⟨.awaitingAcknowledge key, c, v, served⟩ message =
      A.acknowledge ⟨.awaitingAcknowledge key, c, v, served⟩ key message := rfl
  rw [hreact, acknowledge] at hserving
  split at hserving
  · cases hserving
  · split at hserving
    · cases hserving
      exact ⟨rfl, rfl⟩
    · cases hserving

/-- The first round on a fresh connection does not look at the counters. -/
theorem firstRound_ok (hV : V.Lawful) (nonces : Nonces) (hh : A.Configures privateKey h)
    (hclient : V.IsKeyPair privateKey A.entityPublicKey) :
    ∃ (key : Bytes) (w : AgentWorld A.machine), key.length = 32 ∧
      w.agent = AgentState.mk (.awaitingAcknowledge key) OuterEnvelopeWriter.new.iv
        OuterEnvelopeReader.new.iv [] ∧ w.inbox = [] ∧ w.sends = 1 ∧
      Handler.handshake (A.platform C .reliable) nonces (A.dialed h) =
        Handler.acknowledgeHandshake (A.platform C .reliable) A.serverChallengeNonce
          ⟨{ h with sharedSecret := some key }, w⟩ := by
  obtain ⟨key, hkc, hka, hlen⟩ := hV.shortTerm_agree hclient A.isKeyPair A.length_serverKeyNonce
    nonces.length_clientKeyNonce
  rcases Handler.initiateHandshake_cases (C := C) hV nonces Line.reliable_sends hh hlen hkc hka with
    hbroken | ⟨w, hfirst, hagent, hinbox, hsends, -, -⟩
  · exact hbroken.elim fun _ _ => rfl
  · exact ⟨key, w, hlen, hagent, hinbox, hsends, Effect.bind_ok hfirst⟩

/-- **A connection opens exactly with both counters at their start**, whatever
came before and whatever secret is left over. -/
theorem reconnects_iff_counters (hV : V.Lawful) (nonces : Nonces)
    (hh : A.Configures privateKey h) (hclient : V.IsKeyPair privateKey A.entityPublicKey)
    (w : AgentWorld A.machine) :
    Reconnects A C nonces ⟨h, w⟩ ↔
      h.outerEnvelopeWriter = .new ∧ h.outerEnvelopeReader = .new := by
  obtain ⟨key, w₁, hlen, hagent, hinbox, hsends, hshake⟩ :=
    firstRound_ok (C := C) hV nonces hh hclient
  have hconnect : RemoteAgentConnection.connect (A.platform C .reliable) A.dial nonces ⟨h, w⟩ =
      Handler.acknowledgeHandshake (A.platform C .reliable) A.serverChallengeNonce
        ⟨{ h with sharedSecret := some key }, w₁⟩ := hshake
  constructor
  · rintro ⟨s', hok, key', served, -, hstep⟩
    rw [hconnect] at hok
    -- the client's own counters have moved by one, so the agent's moved from the same
    have hsent := Handler.acknowledgeHandshake_sent (C := C) (w := w₁)
      (h := { h with sharedSecret := some key }) hV hlen rfl A.serverChallengeNonce
      (Line.reliable_sends w₁.sends)
    have hread := hsent.symm.trans hok
    obtain ⟨-, p, rest, -, -, -, -, -, rfl⟩ := Handler.of_readSplitResponse_ok hV rfl hread
    have hserving : (A.react w₁.agent (sealPacket V key h.outerEnvelopeWriter.iv
        (V.macShort.mac key A.serverChallengeNonce))).1 =
        ⟨.serving key', h.outerEnvelopeWriter.iv + 1, h.outerEnvelopeReader.iv + 1, served⟩ :=
      hstep
    rw [hagent] at hserving
    obtain ⟨hwriter, hreader⟩ := Agent.react_serving hserving
    exact ⟨congrArg OuterEnvelopeWriter.mk ((BitVec.add_left_inj 1).mp hwriter),
      congrArg OuterEnvelopeReader.mk ((BitVec.add_left_inj 1).mp hreader)⟩
  · rintro ⟨hwriter, hreader⟩
    rcases Handler.acknowledgeHandshake_cases (C := C)
      (h := { h with sharedSecret := some key }) hV Line.reliable_sends hlen rfl
      (by rw [hagent, hwriter, hreader]) hinbox hsends with hbroken | ⟨s', hsecond, hal, -⟩
    · exact hbroken.elim fun _ _ => rfl
    · exact ⟨s', hconnect.trans hsecond, key, [], hal.secret, hal.agent⟩

/-! ## Earlier histories -/

/-- What neither the counters nor the secret have to do with, no step of a
run changes. -/
theorem Step.run_handler {W : Type} {P : Platform W} {J : ProtocolHandlerImpl → Prop}
    (hwriter : ∀ h w, J h → J { h with outerEnvelopeWriter := w })
    (hreader : ∀ h r, J h → J { h with outerEnvelopeReader := r })
    (hsecret : ∀ h k, J h → J { h with sharedSecret := k }) (step : Step) :
    Effect.Preserves (fun s : Session W => J s.handler) (fun _ => True) (step.run P) := by
  have hrespects : Respects P (fun s => J s.handler) fun _ => True := .ofHandler hwriter hreader
  have hset : ∀ secret, Effect.Preserves (fun s : Session W => J s.handler) (fun _ => True)
      (Handler.setSharedSecret secret) := by
    intro secret
    refine ⟨?_, ?_⟩
    · rintro s u s' hs ⟨⟩
      exact hsecret _ _ hs
    · rintro s f s' hs ⟨⟩
  cases step with
  | call op => exact .bind (hrespects.call op) fun _ => .pure _
  | handshake nonces => exact .bind (hrespects.handshake hset nonces) fun _ => .pure _

/-- A handler keeps its configuration over any run. -/
theorem configures_run {W : Type} (P : Platform W) (steps : List Step) {s : Session W}
    (hs : A.Configures privateKey s.handler) :
    A.Configures privateKey (Effect.trace (Step.run P) steps s).2.handler := by
  refine Effect.trace_induction (P := fun _ (s : Session W) => A.Configures privateKey s.handler) hs
    ?_ steps (List.prefix_refl steps)
  intro done step _ ih
  have hstep : Effect.Preserves (fun s : Session W => A.Configures privateKey s.handler)
      (fun _ => True) (step.run P) :=
    Step.run_handler (fun _ _ h => ⟨h.1, h.2, h.3, h.4⟩) (fun _ _ h => ⟨h.1, h.2, h.3, h.4⟩)
      (fun _ _ h => ⟨h.1, h.2, h.3, h.4⟩) step
  exact hstep.outcome ih

/-- A counter is back at its start after a multiple of `2 ^ 64` packets. -/
theorem add_ofNat_eq_self_iff {x : BitVec 64} {n : ℕ} :
    x + BitVec.ofNat 64 n = x ↔ 2 ^ 64 ∣ n := by
  rw [BitVec.add_right_eq_self, ← BitVec.toNat_inj, BitVec.toNat_ofNat, BitVec.toNat_ofNat,
    Nat.zero_mod, Nat.dvd_iff_mod_eq_zero]

/-- **A connection can be opened again exactly if its counters are unused.**
After any earlier history of a connection, over any channels: opening it to a
conforming agent that starts a session returns with both ends in lock step if
and only if the history encrypted no packet and accepted none, up to
multiples of `2 ^ 64`. -/
theorem reconnects_iff (hV : V.Lawful) (C : Vccert) (A : Agent V) {privateKey : Bytes}
    (hclient : V.IsKeyPair privateKey A.entityPublicKey) (nonces : Nonces) {W : Type}
    (P : Platform W) (w₀ : W) (steps : List Step) {results : List (Except Fault (Option Value))}
    {s : Session W} {log : List Event}
    (hrun : Effect.trace (Watched.step P) steps (⟨A.client privateKey, w₀⟩, []) =
      (results, (s, log))) (w : AgentWorld A.machine) :
    Reconnects A C nonces ⟨s.handler, w⟩ ↔
      2 ^ 64 ∣ (encryptedIvs log).length ∧ 2 ^ 64 ∣ (decryptedIvs log).length := by
  have herase := Effect.Erases.trace (Watched.erases_step P) steps ⟨A.client privateKey, w₀⟩ []
  have hconfigures : A.Configures privateKey
      (Effect.trace (Step.run P) steps ⟨A.client privateKey, w₀⟩).2.handler :=
    configures_run P steps (A.configures_client privateKey)
  have hsound : Watched.Sound P A.entityId
      (Effect.trace (Watched.step P) steps (⟨A.client privateKey, w₀⟩, [])).2 :=
    Watched.sound_run steps ⟨rfl, rfl, rfl, .nil⟩
  rw [← herase, hrun] at hconfigures
  rw [hrun] at hsound
  rw [reconnects_iff_counters hV nonces hconfigures hclient, ← add_ofNat_eq_self_iff,
    ← add_ofNat_eq_self_iff]
  -- the counters are those the history accounts for
  constructor
  · rintro ⟨hwriter, hreader⟩
    exact ⟨hsound.writer.symm.trans (congrArg OuterEnvelopeWriter.iv hwriter),
      hsound.reader.symm.trans (congrArg OuterEnvelopeReader.iv hreader)⟩
  · rintro ⟨hwriter, hreader⟩
    exact ⟨congrArg OuterEnvelopeWriter.mk (hsound.writer.trans hwriter),
      congrArg OuterEnvelopeReader.mk (hsound.reader.trans hreader)⟩

end

/-- A line on which the first `recv` throws. -/
def deafLine : Line := ⟨fun _ => false, fun i => i == 0⟩

/-- A handshake that gets no answer, and a call that is refused. -/
def futileSteps : List Step := [.handshake openNonces, .call .getLatestBlockId]

/-- What they do, and what they account for. -/
def futileRun : List (Except Fault (Option Value)) ×
    Session (AgentWorld refusingAgent.machine) × List Event :=
  Effect.trace (Watched.step (refusingAgent.platform BufferCert.lib deafLine)) futileSteps
    (refusingAgent.fresh (zeros 32), [])

/-- A handler that got nowhere is let in. -/
theorem reconnects_iff_futile :
    XorSuite.suite.IsKeyPair (zeros 32) refusingAgent.entityPublicKey ∧
      futileRun.1 = [.error (.java .ioException ""),
        .error (.java .connectException "Not connected. Call connect() first.")] ∧
      futileRun.2.2.length = 1 ∧
      Reconnects refusingAgent BufferCert.lib openNonces futileRun.2.1 := by
  have hclient : XorSuite.suite.IsKeyPair (zeros 32) refusingAgent.entityPublicKey :=
    openAgent_client ..
  have hlog : encryptedIvs futileRun.2.2 = [] ∧ decryptedIvs futileRun.2.2 = [] := by
    decide +kernel
  refine ⟨hclient, by decide +kernel, by decide +kernel, ?_⟩
  refine (reconnects_iff XorSuite.suite_lawful BufferCert.lib refusingAgent hclient openNonces
    (refusingAgent.platform BufferCert.lib deafLine)
    (.start (M := refusingAgent.machine) AgentState.start) futileSteps rfl _).mpr ?_
  show 2 ^ 64 ∣ (encryptedIvs futileRun.2.2).length ∧ 2 ^ 64 ∣ (decryptedIvs futileRun.2.2).length
  rw [hlog.1, hlog.2]
  exact ⟨dvd_zero _, dvd_zero _⟩

/-- **A closed connection stays closed.** After a handshake that returned, a
new session with the same agent is refused: it cannot read the client's
proof, and its answer never comes. -/
theorem not_reconnects :
    (Effect.outcome (Handler.handshake (refusingAgent.platform BufferCert.lib .reliable) openNonces)
        (refusingAgent.fresh (zeros 32))).1 = .ok () ∧
      (Effect.outcome (RemoteAgentConnection.connect
        (refusingAgent.platform BufferCert.lib .reliable) refusingAgent.dial openNonces)
        (Effect.outcome (Handler.handshake (refusingAgent.platform BufferCert.lib .reliable)
          openNonces) (refusingAgent.fresh (zeros 32))).2).1 = .error (.java .ioException "") ∧
      ¬Reconnects refusingAgent BufferCert.lib openNonces
        (Effect.outcome (Handler.handshake (refusingAgent.platform BufferCert.lib .reliable)
          openNonces) (refusingAgent.fresh (zeros 32))).2 := by
  have hsecond : (Effect.outcome (RemoteAgentConnection.connect
      (refusingAgent.platform BufferCert.lib .reliable) refusingAgent.dial openNonces)
      (Effect.outcome (Handler.handshake (refusingAgent.platform BufferCert.lib .reliable)
        openNonces) (refusingAgent.fresh (zeros 32))).2).1 = .error (.java .ioException "") := by
    decide +kernel
  refine ⟨by decide +kernel, hsecond, ?_⟩
  rintro ⟨s', hok, -⟩
  rw [Effect.outcome_ok hok] at hsecond
  cases hsecond

end VjBlockchain
