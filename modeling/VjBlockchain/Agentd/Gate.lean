import VjBlockchain.Agentd.Hello
import VjBlockchain.Agentd.Correctness
/-!
# The gate before the handshake

The guard of the operations looks at the shared secret, and the handshake
assigns it halfway: before the code that proves the agent knows it has been
verified, and before the second round. A handshake that fails after the
assignment leaves the gate open. A handshake that fails before it leaves the
handler as it was, and `getConnectionStatus` has no guard at all.

`Gated` is the promise that nothing gets through before a handshake has
returned, over runs of handshake attempts and calls on any channel; `Clean`
says that neither of the two ways around the gate is taken. They are the
same.
-/

namespace VjBlockchain

open Common Common.Bytes Common.Throwing

/-- A step of a run: an attempt to shake hands, or a call. -/
inductive Step
  | handshake (nonces : Nonces)
  | call (op : Operation)

section

variable {W : Type} {P : Platform W}

/-- Take the step; a handshake that returns gives `none`. -/
def Step.run (P : Platform W) : Step → Handler W (Option Value)
  | handshake nonces => do
    Handler.handshake P nonces
    pure none
  | call op => do pure (some (← op.call P))

/-- No handshake of the run has returned. -/
def Pending (P : Platform W) (s : Session W) (steps : List Step) : Prop :=
  Except.ok none ∉ (Effect.trace (Step.run P) steps s).1

/-- **Nothing gets through** while no handshake has returned: the secret is
`null`, and a call throws a `ConnectException` and changes nothing, neither
on the handler nor behind the channel. -/
def Gated (P : Platform W) (s : Session W) (steps : List Step) : Prop :=
  ∀ done, done <+: steps → Pending P s done →
    (Effect.trace (Step.run P) done s).2.handler.sharedSecret = none ∧
      ∀ op, done ++ [.call op] <+: steps →
        Effect.outcome (op.call P) (Effect.trace (Step.run P) done s).2 =
          (.error (.java .connectException "Not connected. Call connect() first."),
            (Effect.trace (Step.run P) done s).2)

/-- **The attempt gets as far as a secret**: its first answer arrives with the
right fields, and the short-term agreement accepts the key it brings. A
channel that gives the octets it is asked for gives more than 132. -/
def ReachesSecret (P : Platform W) (nonces : Nonces) (s : Session W) : Prop :=
  ∃ body w secret, FirstAnswer P nonces s body w ∧ 132 ≤ body.length ∧
    HelloFields s.handler.agentId s.handler.agentPublicEncKey body ∧
    P.crypt.shortTermSecret s.handler.entityPrivateEncKey (slice body 36 68)
      (slice body 68 100) nonces.clientKeyNonce = some secret

/-- The step does not go around the gate. -/
def Step.Clean (P : Platform W) (s : Session W) : Step → Prop
  | handshake nonces => ¬ReachesSecret P nonces s
  | call op => op ≠ .getConnectionStatus

/-- No step up to the first handshake that returns goes around the gate. -/
def Clean (P : Platform W) (s : Session W) (steps : List Step) : Prop :=
  ∀ done step, done ++ [step] <+: steps → Pending P s (done ++ [step]) →
    step.Clean P (Effect.trace (Step.run P) done s).2

/-! ## What a handshake does to the secret -/

namespace Handler

/-- The first answer of a handshake is taken off the channel. -/
theorem recvServerHello_handler (J : ProtocolHandlerImpl → Prop) :
    Effect.Preserves (fun s : Session W => J s.handler) (fun _ => True) (recvServerHello P) := by
  refine .bind (onWorld_handler J _) fun _ => .bind (.lift_any _) fun _ =>
    .bind (.lift_any _) fun _ => ?_
  dsimp only
  split
  · exact .bind (handleHandshakeInitiateError_handler J _) fun _ => onWorld_handler J _
  · exact onWorld_handler J _

/-- **The first round up to the key agreement leaves the handler alone.** -/
theorem exchangeHello_handler (J : ProtocolHandlerImpl → Prop) (nonces : Nonces) :
    Effect.Preserves (fun s : Session W => J s.handler) (fun _ => True)
      (exchangeHello P nonces) :=
  .bind .get fun _ => .bind (.lift_any _) fun _ => .bind (onWorld_handler J _) fun _ =>
    .bind (recvServerHello_handler J) fun _ => .bind (.lift_any _) fun _ => .pure _

end Handler

/-- A property of the handler that does not look at the counters is kept by
everything that happens once there is a secret. -/
theorem Respects.ofHandler {J : ProtocolHandlerImpl → Prop}
    (hwriter : ∀ h w, J h → J { h with outerEnvelopeWriter := w })
    (hreader : ∀ h r, J h → J { h with outerEnvelopeReader := r }) :
    Respects P (fun s => J s.handler) fun _ => True where
  send _ := Handler.onWorld_handler J _
  recv _ := Handler.onWorld_handler J _
  encryptPayload _ := Handler.encryptPayload_preserves (hwriter _) fun _ => trivial
  decryptHeader _ := Handler.decryptHeader_preserves fun _ => trivial
  decryptPayload _ _ := Handler.decryptPayload_preserves (hreader _) fun _ => trivial
  thrown _ := trivial

/-- **A secret is reached** where the first round gets through the key
agreement. -/
theorem reachesSecret_iff {nonces : Nonces} {s : Session W} :
    ReachesSecret P nonces s ↔ ∃ response hello s' secret,
      Handler.exchangeHello P nonces s = .ok (response, hello) s' ∧
        computeSharedSecret P.crypt s'.handler.entityPrivateEncKey hello.serverPublicKey
          hello.serverKeyNonce nonces.clientKeyNonce = .ok secret := by
  constructor
  · rintro ⟨body, w, secret, hanswer, hlen, hfields, hagree⟩
    obtain ⟨code, hcode, -⟩ := exists_copyOfRange (by omega : 132 ≤ 164) hlen
    have hverify := verifyServerHello_eq_ok_iff.mpr ⟨hlen, hfields, code, hcode, rfl⟩
    exact ⟨body, _, _, secret, Handler.exchangeHello_ok_iff.mpr ⟨w, hanswer, rfl, hverify⟩,
      orThrow_eq_ok_iff.mpr hagree⟩
  · rintro ⟨body, hello, s', secret, hx, hsecret⟩
    obtain ⟨w, hanswer, rfl, hverify⟩ := Handler.exchangeHello_ok_iff.mp hx
    obtain ⟨hlen, hfields, code, -, rfl⟩ := verifyServerHello_eq_ok_iff.mp hverify
    exact ⟨body, w, secret, hanswer, hlen, hfields, orThrow_eq_ok_iff.mp hsecret⟩

/-- An attempt that reaches no secret leaves it `null`, and fails. -/
theorem handshake_secretless {s : Session W} {nonces : Nonces}
    (hnone : s.handler.sharedSecret = none) (hnot : ¬ReachesSecret P nonces s) :
    ∃ f s', Handler.handshake P nonces s = .error f s' ∧ s'.handler.sharedSecret = none := by
  have hkeep := Handler.exchangeHello_handler (P := P) (fun h => h.sharedSecret = none) nonces
  cases hx : Handler.exchangeHello P nonces s with
  | error f s' =>
    exact ⟨f, s', Effect.bind_error (Effect.bind_error hx), (hkeep.error hnone hx).1⟩
  | ok x s' =>
    obtain ⟨response, hello⟩ := x
    cases hsecret : computeSharedSecret P.crypt s'.handler.entityPrivateEncKey
        hello.serverPublicKey hello.serverKeyNonce nonces.clientKeyNonce with
    | ok secret => exact absurd (reachesSecret_iff.mpr ⟨_, _, _, _, hx, hsecret⟩) hnot
    | error f =>
      have hlift : (Effect.lift (computeSharedSecret P.crypt s'.handler.entityPrivateEncKey
          hello.serverPublicKey hello.serverKeyNonce nonces.clientKeyNonce) : Handler W Bytes) s' =
          .error f s' := by
        rw [hsecret, Effect.lift_error]
      exact ⟨f, s', Effect.bind_error ((Effect.bind_ok hx).trans
        ((Effect.bind_ok (Effect.get_apply _)).trans (Effect.bind_error hlift))), hkeep.ok hnone hx⟩

/-- **An attempt that reaches a secret leaves it**, whether it fails or
returns. -/
theorem handshake_secret {s : Session W} {nonces : Nonces} (hreaches : ReachesSecret P nonces s) :
    (Effect.outcome (Handler.handshake P nonces) s).2.handler.sharedSecret ≠ none := by
  have hkeep : Respects P (fun s : Session W => s.handler.sharedSecret ≠ none) fun _ => True :=
    .ofHandler (J := fun h => h.sharedSecret ≠ none) (fun _ _ h => h) fun _ _ h => h
  obtain ⟨response, hello, s', secret, hx, hsecret⟩ := reachesSecret_iff.mp hreaches
  let s'' : Session W := { s' with handler := { s'.handler with sharedSecret := some secret } }
  have hs'' : s''.handler.sharedSecret ≠ none := Option.some_ne_none secret
  have hlift : (Effect.lift (computeSharedSecret P.crypt s'.handler.entityPrivateEncKey
      hello.serverPublicKey hello.serverKeyNonce nonces.clientKeyNonce) : Handler W Bytes) s' =
      .ok secret s' := by
    rw [hsecret, Effect.lift_ok]
  have hfirst : Handler.initiateHandshake P nonces s =
      (Effect.lift (Handler.verifyServerCode P nonces secret response hello) >>= fun _ =>
        pure hello.serverChallengeNonce : Handler W Bytes) s'' :=
    (Effect.bind_ok hx).trans <| (Effect.bind_ok (Effect.get_apply _)).trans <|
      (Effect.bind_ok hlift).trans (Effect.bind_ok rfl)
  -- the secret is there now, and nothing that may follow takes it away
  cases hcode : Handler.verifyServerCode P nonces secret response hello with
  | error f =>
    have hfailed : Handler.initiateHandshake P nonces s = .error f s'' := by
      rw [hfirst, hcode]
      exact Effect.bind_error (Effect.lift_error ..)
    have herror : Handler.handshake P nonces s = .error f s'' := Effect.bind_error hfailed
    rw [Effect.outcome_error herror]
    exact hs''
  | ok u =>
    have hpassed : Handler.initiateHandshake P nonces s = .ok hello.serverChallengeNonce s'' := by
      rw [hfirst, hcode]
      exact Effect.bind_ok (Effect.lift_ok ..)
    have hrest : Effect.outcome (Handler.handshake P nonces) s =
        Effect.outcome (Handler.acknowledgeHandshake P hello.serverChallengeNonce) s'' := by
      rw [Effect.outcome, Handler.handshake, Effect.bind_ok hpassed, Effect.outcome]
    rw [hrest]
    exact (hkeep.acknowledgeHandshake _).outcome hs''

/-! ## Runs -/

theorem Pending.of_append {s : Session W} {done rest : List Step}
    (h : Pending P s (done ++ rest)) : Pending P s done := by
  intro hmem
  refine h ?_
  rw [Effect.trace_append]
  exact List.mem_append_left _ hmem

/-- A call is no handshake. -/
theorem Pending.call {s : Session W} {done : List Step} (h : Pending P s done) (op : Operation) :
    Pending P s (done ++ [.call op]) := by
  intro hmem
  rw [Effect.trace_concat, List.mem_append, List.mem_singleton] at hmem
  rcases hmem with hmem | hmem
  · exact h hmem
  · rw [Step.run, Effect.outcome_bind_pure] at hmem
    cases hcall : (Effect.outcome (op.call P) (Effect.trace (Step.run P) done s).2).1 with
    | ok v =>
      rw [hcall] at hmem
      cases hmem
    | error f =>
      rw [hcall] at hmem
      cases hmem

/-- **A clean step keeps the gate shut.** -/
theorem Step.Clean.secret {s : Session W} {step : Step} (hnone : s.handler.sharedSecret = none)
    (hclean : step.Clean P s) :
    (Effect.outcome (step.run P) s).2.handler.sharedSecret = none := by
  cases step with
  | handshake nonces =>
    obtain ⟨f, s', hfailed, hnone'⟩ := handshake_secretless hnone hclean
    have hrun : (Step.handshake nonces).run P s = .error f s' := Effect.bind_error hfailed
    rw [Effect.outcome_error hrun]
    exact hnone'
  | call op =>
    have hrun := Effect.bind_error (f := fun v => (pure (some v) : Handler W (Option Value)))
      (Operation.call_unconnected (P := P) hclean hnone)
    rw [Effect.outcome_error (x := (Step.call op).run P) hrun]
    exact hnone

/-- Without a secret the unguarded operation gets as far as the envelope. -/
theorem getConnectionStatus_unconnected {s : Session W} (hnone : s.handler.sharedSecret = none) :
    Operation.call P .getConnectionStatus s =
      .error (.java .nullPointerException "shared_secret") s := by
  have hseal : Handler.encryptPayload P Request.getConnectionStatus.encode s =
      .error (.java .nullPointerException "shared_secret") s := by
    simp only [Handler.encryptPayload, hnone]
    rfl
  rw [Operation.call_getConnectionStatus]
  refine Effect.bind_error ?_
  unfold Handler.sendRequest
  rw [Effect.bind_ok (Effect.lift_ok ..)]
  exact Effect.bind_error hseal

/-- **The gate holds exactly in the clean runs.** From a handler without a
secret, nothing gets through before a handshake has returned if and only if
until then no attempt reaches a secret and `getConnectionStatus` is not
called. -/
theorem gated_iff_clean {s : Session W} (hnone : s.handler.sharedSecret = none)
    (steps : List Step) : Gated P s steps ↔ Clean P s steps := by
  constructor
  · intro hgated done step hprefix hpending
    obtain ⟨hsecret, hcalls⟩ := hgated done ((List.prefix_append ..).trans hprefix)
      hpending.of_append
    cases step with
    | call op =>
      rintro rfl
      have hrefused := hcalls _ hprefix
      rw [Effect.outcome_error (getConnectionStatus_unconnected hsecret)] at hrefused
      cases hrefused
    | handshake nonces =>
      intro hreaches
      obtain ⟨hsecret', -⟩ := hgated _ hprefix hpending
      have hrun := Effect.outcome_bind_pure (Handler.handshake P nonces)
        (fun _ => (none : Option Value)) (Effect.trace (Step.run P) done s).2
      rw [Effect.trace_concat, Step.run, hrun] at hsecret'
      exact handshake_secret hreaches hsecret'
  · intro hclean
    -- the secret stays `null` step by step, and with it the guard stays shut
    have hsecret : ∀ done, done <+: steps → Pending P s done →
        (Effect.trace (Step.run P) done s).2.handler.sharedSecret = none := by
      refine Effect.trace_induction (P := fun done (s' : Session W) =>
        Pending P s done → s'.handler.sharedSecret = none) (fun _ => hnone) ?_
      intro done step hprefix ih hpending
      exact (hclean done step hprefix hpending).secret (ih hpending.of_append)
    intro done hprefix hpending
    refine ⟨hsecret done hprefix hpending, fun op hop => Effect.outcome_error ?_⟩
    exact Operation.call_unconnected (hclean done (.call op) hop (hpending.call op))
      (hsecret done hprefix hpending)

end

/-- A client of the agent that has another public key for it. -/
def misledClient : ProtocolHandlerImpl :=
  { refusingAgent.client (zeros 32) with agentPublicEncKey := zeros 31 ++ [1] }

/-- A handshake of that client, which ends with the check of the key, and a
call. -/
theorem gated_iff_clean_misled :
    misledClient.sharedSecret = none ∧
      (Effect.trace (Step.run (refusingAgent.platform BufferCert.lib .reliable))
        [.handshake openNonces, .call .getLatestBlockId] (refusingAgent.dialed misledClient)).1 =
        [.error (.java .agentVerificationException
            "Server public key does not match expected public key. Possible MITM attack!"),
          .error (.java .connectException "Not connected. Call connect() first.")] ∧
      Gated (refusingAgent.platform BufferCert.lib .reliable) (refusingAgent.dialed misledClient)
        [.handshake openNonces, .call .getLatestBlockId] := by
  have hrefused : (Effect.outcome (Handler.exchangeHello
      (refusingAgent.platform BufferCert.lib .reliable) openNonces)
      (refusingAgent.dialed misledClient)).1 = .error (.java .agentVerificationException
        "Server public key does not match expected public key. Possible MITM attack!") := by
    decide +kernel
  refine ⟨rfl, by decide +kernel, (gated_iff_clean rfl _).mpr fun done step hprefix _ => ?_⟩
  -- only the handshake reaches for a secret, and it is the first step
  cases done with
  | nil =>
    obtain ⟨rfl, -⟩ := List.cons_prefix_cons.mp hprefix
    intro hreaches
    obtain ⟨response, hello, s', secret, hx, -⟩ := reachesSecret_iff.mp hreaches
    have hrefused := (congrArg Prod.fst (Effect.outcome_ok hx)).symm.trans hrefused
    cases hrefused
  | cons first rest =>
    obtain ⟨-, hrest⟩ := List.cons_prefix_cons.mp hprefix
    have hmem := hrest.subset (List.mem_append_right rest (List.mem_singleton_self step))
    obtain rfl := List.mem_singleton.mp hmem
    exact fun h => by cases h

/-! ## Around the gate -/

/-- A line that goes dead after the first round of a handshake. -/
def dyingLine : Line := ⟨fun _ => false, fun i => 2 ≤ i⟩

theorem dyingLine_recvs {i : ℕ} (h : 2 ≤ i) : dyingLine.recvFails i = true := decide_eq_true h

/-- A handshake over that line dies in its second round, with the secret
assigned. -/
theorem dyingLine_handshake :
    ∃ key s, key.length = 32 ∧ s.handler.sharedSecret = some key ∧ 2 ≤ s.world.recvs ∧
      Handler.handshake (refusingAgent.platform BufferCert.lib dyingLine) openNonces
        (refusingAgent.fresh (zeros 32)) = .error (.java .ioException "") s := by
  have hV := XorSuite.suite_lawful
  have hclient : XorSuite.suite.IsKeyPair (zeros 32) refusingAgent.entityPublicKey :=
    openAgent_client ..
  have hsend : ∀ i, dyingLine.sendFails i = false := fun _ => rfl
  obtain ⟨key, hkc, hka, hlen⟩ := hV.shortTerm_agree hclient refusingAgent.isKeyPair
    refusingAgent.length_serverKeyNonce openNonces.length_clientKeyNonce
  rcases Handler.initiateHandshake_cases (C := BufferCert.lib) hV openNonces hsend
    (refusingAgent.configures_client (zeros 32)) hlen hkc hka with
    hbroken | ⟨w, hfirst, -, -, -, hrecvs, -⟩
  · refine hbroken.elim fun i hi => decide_eq_false ?_
    show ¬2 ≤ 0 + i
    omega
  let h : ProtocolHandlerImpl := { refusingAgent.client (zeros 32) with sharedSecret := some key }
  let w₁ : AgentWorld refusingAgent.machine := w.deliver
    (sealPacket XorSuite.suite key h.outerEnvelopeWriter.iv
      (XorSuite.suite.macShort.mac key refusingAgent.serverChallengeNonce))
  have hsecond : Handler.acknowledgeHandshake (refusingAgent.platform BufferCert.lib dyingLine)
      refusingAgent.serverChallengeNonce ⟨h, w⟩ =
      .error (.java .ioException "") ⟨h.afterWrite, w₁.lost⟩ :=
    (Handler.acknowledgeHandshake_sent hV hlen rfl _ (hsend _)).trans
      (Effect.bind_error (Handler.recv_error 5 (dyingLine_recvs hrecvs.ge)))
  refine ⟨key, ⟨h.afterWrite, w₁.lost⟩, hlen, rfl, ?_, (Effect.bind_ok hfirst).trans hsecond⟩
  show 2 ≤ w.recvs + 1
  omega

/-- With a secret, a request is sealed and delivered before the line is
noticed to be dead. -/
theorem dyingLine_call {key : Bytes} {s : Session (AgentWorld refusingAgent.machine)}
    (hlen : key.length = 32) (hsecret : s.handler.sharedSecret = some key)
    (hrecvs : 2 ≤ s.world.recvs) :
    ∃ s', Operation.call (refusingAgent.platform BufferCert.lib dyingLine) .getLatestBlockId s =
        .error (.java .ioException "") s' ∧
      s'.world.delivered.length = s.world.delivered.length + 1 := by
  obtain ⟨h, w⟩ := s
  have hV := XorSuite.suite_lawful
  have hconnected : h.sharedSecret ≠ none := by
    rw [hsecret]
    exact Option.some_ne_none key
  have hsent := Handler.sendRequest_ok (C := BufferCert.lib) (M := refusingAgent.machine) (w := w)
    hV (hV.takes hlen) hsecret (by decide : FitsPacket Request.getLatestBlockId.encode)
    (show dyingLine.sendFails w.sends = false from rfl)
  refine ⟨_, (Operation.call_eq (r := .getLatestBlockId) rfl hconnected).trans <|
    (Effect.bind_ok hsent).trans
      (Request.read_error _ (Handler.recv_error 5 (dyingLine_recvs hrecvs))), ?_⟩
  show (w.delivered ++ [_]).length = w.delivered.length + 1
  rw [List.length_append, List.length_singleton]

/-- **Two ways around the gate.** The line goes dead in the second round of a
handshake, which throws, and the next call is not refused: it seals a request
under the secret and hands it to the channel. And a first call of
`getConnectionStatus` does not throw a `ConnectException`. -/
theorem gate_open :
    (∃ s₁ s₂, Effect.outcome (Handler.handshake (refusingAgent.platform BufferCert.lib dyingLine)
          openNonces) (refusingAgent.fresh (zeros 32)) = (.error (.java .ioException ""), s₁) ∧
        Effect.outcome (Operation.call (refusingAgent.platform BufferCert.lib dyingLine)
          .getLatestBlockId) s₁ = (.error (.java .ioException ""), s₂) ∧
        s₂.world.delivered.length = s₁.world.delivered.length + 1) ∧
      ¬Gated (refusingAgent.platform BufferCert.lib dyingLine) (refusingAgent.fresh (zeros 32))
        [.handshake openNonces, .call .getLatestBlockId] ∧
      ¬Gated (refusingAgent.platform BufferCert.lib dyingLine) (refusingAgent.fresh (zeros 32))
        [.call .getConnectionStatus] := by
  obtain ⟨key, s₁, hlen, hsecret, hrecvs, hshake⟩ := dyingLine_handshake
  obtain ⟨s₂, hcall, hdelivered⟩ := dyingLine_call hlen hsecret hrecvs
  refine ⟨⟨s₁, s₂, Effect.outcome_error hshake, Effect.outcome_error hcall, hdelivered⟩, ?_, ?_⟩
  · intro hgated
    have hrun : Effect.trace (Step.run (refusingAgent.platform BufferCert.lib dyingLine))
        [.handshake openNonces] (refusingAgent.fresh (zeros 32)) =
        ([.error (.java .ioException "")], s₁) := by
      rw [Effect.trace_cons, Effect.trace_nil, Step.run,
        Effect.outcome_bind_pure _ (fun _ => (none : Option Value)), Effect.outcome_error hshake]
      rfl
    have hpending : Pending (refusingAgent.platform BufferCert.lib dyingLine)
        (refusingAgent.fresh (zeros 32)) [.handshake openNonces] := by
      rw [Pending, hrun]
      intro hmem
      cases List.mem_singleton.mp hmem
    -- the secret is there although no handshake has returned
    obtain ⟨hnone, -⟩ := hgated [.handshake openNonces] (List.prefix_append _ _) hpending
    rw [hrun, hsecret] at hnone
    cases hnone
  · intro hgated
    obtain ⟨-, hcalls⟩ := hgated [] List.nil_prefix fun hmem => by cases hmem
    have hrefused := hcalls .getConnectionStatus (List.prefix_refl _)
    rw [Effect.outcome_error (getConnectionStatus_unconnected rfl)] at hrefused
    cases hrefused

end VjBlockchain
