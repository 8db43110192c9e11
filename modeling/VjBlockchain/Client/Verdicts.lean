import VjBlockchain.Client.Connection
/-!
# What the verdicts are worth

A caller takes `succeeded` to say that the agent accepted the transaction,
and `failed` that it did not. The first is right unless the agent refuses:
the status of a refusal is read and dropped on its way to the verdict. The
second is right when nothing was handed over; once the submission is with the
agent and no status comes back, whether it was accepted is not known, and the
verdict made for that case is never given.
-/

namespace VjBlockchain

open Common Common.Bytes Common.Throwing ByteUtil

/-! ## Succeeded -/

variable {V : Vccrypt} {C : Vccert} {M : AgentMachine} {line : Line}

/-- **Reported as succeeded, so accepted**: the verdict `succeeded` is given
only over a response to this request whose status is zero, and never over one
whose status is not. -/
def SucceededIsAccepted (V : Vccrypt) (C : Vccert) (line : Line) (s : Session (AgentWorld M))
    (t : Certificate) : Prop :=
  ∀ x s', Effect.outcome (RemoteAgentConnection.submit (agentPlatform V C M line) t) s = (x, s') →
    (x = .ok .succeeded → ∃ p, Answered V C line s t p ∧
      slice p 0 4 = htonl UNAUTH_PROTOCOL_REQ_ID_TRANSACTION_SUBMIT ∧ StatusZero p) ∧
    ∀ p, Answered V C line s t p → ¬StatusZero p → x ≠ .ok .succeeded

/-- **`succeeded` can be trusted unless a refusal comes back**: a response
that can be read, with a status that is not zero. -/
theorem succeededIsAccepted_iff (hV : V.Lawful) (s : Session (AgentWorld M)) (t : Certificate) :
    SucceededIsAccepted V C line s t ↔
      ¬∃ p, Answered V C line s t p ∧ Readable p ∧ ¬StatusZero p := by
  rcases submit_verdict C line hV s t with
    ⟨⟨p, hanswered, hreadable⟩, s', hsubmit⟩ | ⟨hback, s', hsubmit, -⟩
  · have hout := Effect.outcome_ok hsubmit
    constructor
    · rintro h ⟨q, hq, -, hstatus⟩
      exact (h _ _ hout).2 q hq hstatus rfl
    · intro hrefused x s'' hx
      obtain ⟨rfl, rfl⟩ := Prod.mk.inj (hout.symm.trans hx)
      have hstatus : StatusZero p := by
        by_contra hne
        exact hrefused ⟨p, hanswered, hreadable, hne⟩
      refine ⟨fun _ => ⟨p, hanswered, hreadable.2, hstatus⟩, fun q hq hne => ?_⟩
      rw [hq.unique hanswered] at hne
      exact absurd hstatus hne
  · have hout := Effect.outcome_ok hsubmit
    constructor
    · rintro - ⟨q, hq, hreadable, -⟩
      exact hback ⟨q, hq, hreadable⟩
    · intro _ x s'' hx
      obtain ⟨rfl, rfl⟩ := Prod.mk.inj (hout.symm.trans hx)
      exact ⟨fun hx => (by cases hx), fun _ _ _ hx => by cases hx⟩

/-- The agent in the open that accepts every submission, and refuses
everything else. -/
def acceptingAgent : Agent XorSuite.suite :=
  openAgent
    (fun _ r =>
      match r with
      | .submit .. => ⟨0, 0, []⟩
      | _ => ⟨1, 0, []⟩)
    (by
      intro served r
      cases r with
      | submit _ _ _ => exact ⟨.inl rfl, (by decide : 12 + 0 ≤ MAX_PAYLOAD_SIZE)⟩
      | _ => exact Request.laidOut_refusal _ 0)

/-- A submission to that agent, over a reliable line. -/
theorem succeededIsAccepted_accepting :
    ∃ s, Handler.handshake (acceptingAgent.platform BufferCert.lib .reliable) openNonces
        (acceptingAgent.fresh (zeros 32)) = .ok () s ∧
      SucceededIsAccepted XorSuite.suite BufferCert.lib .reliable s
        (smallestTransaction ⟨0, 1⟩ ⟨0, 2⟩) := by
  obtain ⟨key, s, hshake, hal, -⟩ := Handler.handshake_ok (C := BufferCert.lib)
    (A := acceptingAgent) XorSuite.suite_lawful openNonces Line.reliable_sends (openAgent_client ..)
    fun _ _ => rfl
  refine ⟨s, hshake, (succeededIsAccepted_iff XorSuite.suite_lawful s _).mpr ?_⟩
  rintro ⟨p, hp, -, hstatus⟩
  have hanswered := hal.answered .reliable XorSuite.suite_lawful
    (submitIds_smallestTransaction BufferCert.lib_lawful ⟨0, 1⟩ ⟨0, 2⟩)
    (by rw [length_smallestTransaction]; omega) rfl fun _ _ => rfl
  rw [hp.unique hanswered] at hstatus
  exact hstatus (slice_payload_status ..)

/-- **A refused transaction is reported as succeeded.** -/
theorem refused_is_succeeded :
    ∃ s s' p, Handler.handshake (refusingAgent.platform BufferCert.lib .reliable) openNonces
        (refusingAgent.fresh (zeros 32)) = .ok () s ∧
      RemoteAgentConnection.submit (refusingAgent.platform BufferCert.lib .reliable)
        (smallestTransaction ⟨0, 1⟩ ⟨0, 2⟩) s = .ok .succeeded s' ∧
      Answered XorSuite.suite BufferCert.lib .reliable s (smallestTransaction ⟨0, 1⟩ ⟨0, 2⟩) p ∧
      slice p 4 8 = htonl 1 ∧
      ¬SucceededIsAccepted XorSuite.suite BufferCert.lib .reliable s
        (smallestTransaction ⟨0, 1⟩ ⟨0, 2⟩) := by
  obtain ⟨key, s, hshake, hal, -⟩ := Handler.handshake_ok (C := BufferCert.lib)
    (A := refusingAgent) XorSuite.suite_lawful openNonces Line.reliable_sends (openAgent_client ..)
    fun _ _ => rfl
  have hanswered := hal.answered .reliable XorSuite.suite_lawful
    (submitIds_smallestTransaction BufferCert.lib_lawful ⟨0, 1⟩ ⟨0, 2⟩)
    (by rw [length_smallestTransaction]; omega) rfl fun _ _ => rfl
  have hstatus := slice_payload_status ⟨1, 0, []⟩ UNAUTH_PROTOCOL_REQ_ID_TRANSACTION_SUBMIT
  have hreadable : Readable (Answer.payload UNAUTH_PROTOCOL_REQ_ID_TRANSACTION_SUBMIT ⟨1, 0, []⟩) :=
    ⟨length_payload .., slice_payload_id ..⟩
  rcases submit_verdict BufferCert.lib .reliable XorSuite.suite_lawful s
    (smallestTransaction ⟨0, 1⟩ ⟨0, 2⟩) with ⟨-, s', hsubmit⟩ | ⟨hback, -⟩
  · refine ⟨s, s', _, hshake, hsubmit, hanswered, hstatus, fun h => ?_⟩
    have hnonzero : ¬StatusZero
        (Answer.payload UNAUTH_PROTOCOL_REQ_ID_TRANSACTION_SUBMIT ⟨1, 0, []⟩) := by
      unfold StatusZero
      rw [hstatus]
      decide
    exact (h _ _ (Effect.outcome_ok hsubmit)).2 _ hanswered hnonzero rfl
  · exact absurd ⟨_, hanswered, hreadable⟩ hback

/-! ## Failed -/

/-- **Reported as failed, so not accepted**: the verdict `failed` is given
only if the agent has accepted nothing, and a submission that was handed over
and that no status comes back for ends as `unknownDisconnected` or in an
exception. -/
def FailedIsNotAccepted (V : Vccrypt) (C : Vccert) (line : Line) (s : Session (AgentWorld M))
    (t : Certificate) : Prop :=
  ∀ x s', Effect.outcome (RemoteAgentConnection.submit (agentPlatform V C M line) t) s = (x, s') →
    (x = .ok .failed → s'.world.accepted = s.world.accepted) ∧
    ((∃ packet, Delivers V C line s t packet) → ¬ReadBack V C line s t →
      x = .ok .unknownDisconnected ∨ ∃ f, x = .error f)

/-- **`failed` can be trusted exactly** when the submission is not handed over
or a status comes back for it. -/
theorem failedIsNotAccepted_iff (hV : V.Lawful) (s : Session (AgentWorld M)) (t : Certificate) :
    FailedIsNotAccepted V C line s t ↔
      (∀ packet, ¬Delivers V C line s t packet) ∨ ReadBack V C line s t := by
  rcases submit_verdict C line hV s t with
    ⟨hback, s', hsubmit⟩ | ⟨hback, s', hsubmit, hworld⟩
  · have hout := Effect.outcome_ok hsubmit
    refine ⟨fun _ => .inr hback, fun _ x s'' hx => ?_⟩
    obtain ⟨rfl, rfl⟩ := Prod.mk.inj (hout.symm.trans hx)
    exact ⟨fun hx => (by cases hx), fun _ hnot => absurd hback hnot⟩
  · have hout := Effect.outcome_ok hsubmit
    constructor
    · intro h
      left
      intro packet hdel
      rcases (h _ _ hout).2 ⟨packet, hdel⟩ hback with hx | ⟨f, hx⟩
      · cases hx
      · cases hx
    · rintro (hnot | hback')
      · intro x s'' hx
        obtain ⟨rfl, rfl⟩ := Prod.mk.inj (hout.symm.trans hx)
        refine ⟨fun _ => ?_, fun ⟨packet, hdel⟩ => absurd hdel (hnot packet)⟩
        rcases hworld with ⟨packet, hdel, -⟩ | ⟨-, hsame⟩
        · exact absurd hdel (hnot packet)
        · exact hsame
      · exact absurd hback' hback

/-- A submission to the agent that accepts it, over a reliable line. -/
theorem failedIsNotAccepted_accepting :
    ∃ s, Handler.handshake (acceptingAgent.platform BufferCert.lib .reliable) openNonces
        (acceptingAgent.fresh (zeros 32)) = .ok () s ∧
      FailedIsNotAccepted XorSuite.suite BufferCert.lib .reliable s
        (smallestTransaction ⟨0, 1⟩ ⟨0, 2⟩) := by
  obtain ⟨key, s, hshake, hal, -⟩ := Handler.handshake_ok (C := BufferCert.lib)
    (A := acceptingAgent) XorSuite.suite_lawful openNonces Line.reliable_sends (openAgent_client ..)
    fun _ _ => rfl
  have hanswered := hal.answered .reliable XorSuite.suite_lawful
    (submitIds_smallestTransaction BufferCert.lib_lawful ⟨0, 1⟩ ⟨0, 2⟩)
    (by rw [length_smallestTransaction]; omega) rfl fun _ _ => rfl
  exact ⟨s, hshake, (failedIsNotAccepted_iff XorSuite.suite_lawful s _).mpr
    (.inr ⟨_, hanswered, length_payload .., slice_payload_id ..⟩)⟩

/-- **An accepted transaction is reported as failed.** The agent accepts the
submission, and the first `recv` of the response throws. -/
theorem accepted_is_failed :
    ∃ s s', Handler.handshake (acceptingAgent.platform BufferCert.lib stallingLine) openNonces
        (acceptingAgent.fresh (zeros 32)) = .ok () s ∧
      RemoteAgentConnection.submit (acceptingAgent.platform BufferCert.lib stallingLine)
        (smallestTransaction ⟨0, 1⟩ ⟨0, 2⟩) s = .ok .failed s' ∧
      s.world.accepted < s'.world.accepted ∧
      ¬FailedIsNotAccepted XorSuite.suite BufferCert.lib stallingLine s
        (smallestTransaction ⟨0, 1⟩ ⟨0, 2⟩) := by
  obtain ⟨key, s, hshake, hal, hrecvs, -⟩ := Handler.handshake_ok (C := BufferCert.lib)
    (A := acceptingAgent) XorSuite.suite_lawful openNonces stallingLine_sends (openAgent_client ..)
    fun i hi => stallingLine_recvs (by omega)
  have hids := submitIds_smallestTransaction BufferCert.lib_lawful ⟨0, 1⟩ ⟨0, 2⟩
  have hdel := hal.delivers stallingLine XorSuite.suite_lawful hids
    (by rw [length_smallestTransaction]; omega) (stallingLine_sends _)
  -- no status comes back, since the first `recv` after the handshake throws
  rcases submit_verdict BufferCert.lib stallingLine XorSuite.suite_lawful s
    (smallestTransaction ⟨0, 1⟩ ⟨0, 2⟩) with
    ⟨⟨p, ⟨_, _, _, hline, _⟩, _⟩, _⟩ | ⟨-, s', hsubmit, hworld⟩
  · have hstalled := hline 0 (by omega)
    rw [hrecvs] at hstalled
    cases hstalled
  have haccepted : s.world.accepted < s'.world.accepted := by
    rcases hworld with ⟨packet, hdel', hle⟩ | ⟨hnot, -⟩
    · obtain rfl := Option.some.inj (hdel.1.symm.trans hdel'.1)
      have hplus := hal.deliver_accepted XorSuite.suite_lawful
        (smallestTransaction ⟨0, 1⟩ ⟨0, 2⟩) ⟨0, 1⟩ ⟨0, 2⟩ rfl
      omega
    · exact absurd hdel (hnot _)
  refine ⟨s, s', hshake, hsubmit, haccepted, fun h => ?_⟩
  have hsame := (h _ _ (Effect.outcome_ok hsubmit)).1 rfl
  omega

end VjBlockchain
