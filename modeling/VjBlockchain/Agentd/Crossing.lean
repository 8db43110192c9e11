import VjBlockchain.Agentd.Correctness
import VjBlockchain.Agentd.Invariants
/-!
# Whose answer is it

Responses carry nothing a reader compares with its request but the request
id. What ties an answer to its request is the order of the packets alone, and
a `recv` that throws breaks it: the answer it should have taken stays in the
channel, and the next call finds it there. If that call is of the same kind
it returns the answer, and leaves its own behind for the call after it.

Until then nothing can cross. As long as no `recv` has thrown, both ends are
in step at the start of every call, and a value a call returns is the
agent's answer to the request the call itself sent.
-/

namespace VjBlockchain

open Common Common.Bytes Common.Throwing

variable {V : Vccrypt} {C : Vccert} {A : Agent V} {line : Line} {key : Bytes}

/-- A value the `n`-th call of a run returns is the meaning of the agent's
answer to the request the call sent. -/
def OwnAnswer (A : Agent V) (C : Vccert) (line : Line) (s : Session (AgentWorld A.machine))
    (ops : List Operation) (n : ℕ) : Prop :=
  ∀ (op : Operation) (v : Value), ops[n]? = some op →
    (Effect.trace (Operation.call (A.platform C line)) ops s).1[n]? = some (.ok v) →
    ∃ r, op.request C = .ok r ∧
      r.result (A.answer (servedBy
        (Effect.trace (Operation.call (A.platform C line)) (ops.take n) s).2) r) = .ok v

/-! ## While no `recv` has thrown -/

/-- That a `recv` has thrown is never forgotten. -/
theorem threw_call (hV : V.Lawful) (op : Operation) {s : Session (AgentWorld A.machine)}
    (h : s.world.threw = true) :
    (Effect.outcome (op.call (A.platform C line)) s).2.world.threw = true := by
  have hrespects : Respects (A.platform C line) (fun s => s.world.threw = true) fun _ => True :=
    .ofWorld (J := fun w : AgentWorld A.machine => w.threw = true) hV (fun _ => trivial)
      (agentChannel_send trivial (fun _ _ hw => hw) fun _ hw => hw)
      (agentChannel_recv trivial (fun _ _ _ hw => hw) fun _ _ => rfl)
  exact (hrespects.call op).outcome h

section

variable (hV : V.Lawful) (hsend : ∀ i, line.sendFails i = false)
include hV hsend

/-- One call: a `recv` has thrown, or it got what it is owed and both ends
are in step. -/
theorem Aligned.call_step {served : List Request} {s : Session (AgentWorld A.machine)}
    (hal : Aligned A key served s) (op : Operation) :
    (∃ f s', Effect.outcome (op.call (A.platform C line)) s = (.error f, s') ∧
        s'.world.threw = true) ∨
      (∃ f, op.request C = .error f ∧
        Effect.outcome (op.call (A.platform C line)) s = (.error f, s)) ∨
      ∃ r s', op.request C = .ok r ∧
        Effect.outcome (op.call (A.platform C line)) s = (r.result (A.answer served r), s') ∧
        Aligned A key (served ++ [r]) s' := by
  cases hr : op.request C with
  | error f =>
    exact .inr (.inl ⟨f, rfl, Effect.outcome_error (hal.call_refused hV hr)⟩)
  | ok r =>
    rcases hal.call_cases hV hsend hr with ⟨f, s', hcall, hthrew, -⟩ | ⟨s', hcall, hal'⟩
    · exact .inl ⟨f, s', Effect.outcome_error hcall, hthrew⟩
    · exact .inr (.inr ⟨r, s', rfl, hcall, hal'⟩)

/-- **After any run** a `recv` has thrown, or both ends are in step. -/
theorem Aligned.run_step {s : Session (AgentWorld A.machine)} (hal : Aligned A key [] s)
    (ops : List Operation) :
    (Effect.trace (Operation.call (A.platform C line)) ops s).2.world.threw = true ∨
      Aligned A key (requests C ops)
        (Effect.trace (Operation.call (A.platform C line)) ops s).2 := by
  refine Effect.trace_induction (P := fun ops s => s.world.threw = true ∨
    Aligned A key (requests C ops) s) (.inr hal) ?_ ops (List.prefix_refl ops)
  intro done op _ ih
  rw [requests_append]
  rcases ih with hthrew | hal'
  · exact .inl (threw_call hV op hthrew)
  · rcases hal'.call_step (C := C) hV hsend op with
      ⟨f, s', hcall, hthrew⟩ | ⟨f, hf, hcall⟩ | ⟨r, s', hr, hcall, hal''⟩
    · left
      rw [hcall]
      exact hthrew
    · right
      rw [hcall, requests_singleton_error hf, List.append_nil]
      exact hal'
    · right
      rw [hcall, requests_singleton_ok hr]
      exact hal''

end

/-- **No answer is taken for another call's** in a call before which no `recv`
has thrown, in any run after a handshake, whatever the line does later. -/
theorem ownAnswer_of_unbroken (hV : V.Lawful) (C : Vccert) (A : Agent V) {privateKey : Bytes}
    (hclient : V.IsKeyPair privateKey A.entityPublicKey) (nonces : Nonces) {line : Line}
    (hsend : ∀ i, line.sendFails i = false) {s : Session (AgentWorld A.machine)}
    (hshake : Handler.handshake (A.platform C line) nonces (A.fresh privateKey) = .ok () s)
    (ops : List Operation) (n : ℕ)
    (hunbroken : (Effect.trace (Operation.call (A.platform C line)) (ops.take n) s).2.world.threw =
      false) :
    OwnAnswer A C line s ops n := by
  rcases Handler.handshake_cases (C := C) hV nonces hsend hclient with
    ⟨f, s', herror, -⟩ | ⟨key, s', hok, hal, -⟩
  · cases herror.symm.trans hshake
  cases hok.symm.trans hshake
  intro op v hop hv
  set s' := (Effect.trace (Operation.call (A.platform C line)) (ops.take n) s).2 with hs'
  have hal' : Aligned A key (requests C (ops.take n)) s' := by
    rcases hal.run_step (C := C) hV hsend (ops.take n) with hthrew | hal'
    · rw [← hs', hunbroken] at hthrew
      cases hthrew
    · exact hal'
  have hresult : (Effect.outcome (op.call (A.platform C line)) s').1 = .ok v :=
    Option.some.inj ((Effect.trace_getElem? hop s).symm.trans hv)
  -- of the three ways a call can end only the last returns a value
  rcases hal'.call_step (C := C) hV hsend op with
    ⟨f, s'', hcall, -⟩ | ⟨f, -, hcall⟩ | ⟨r, s'', hr, hcall, -⟩
  · rw [hcall] at hresult
    cases hresult
  · rw [hcall] at hresult
    cases hresult
  · rw [hcall] at hresult
    exact ⟨r, hr, by rw [hal'.servedBy_eq]; exact hresult⟩

/-! ## Once a `recv` has thrown

The `recv` of the header is the first of a call. When it throws, the answer
stays in the channel. -/

/-- The answer to `r` lies unread, and the reader is about to take it. -/
structure Stale (A : Agent V) (key : Bytes) (served : List Request) (r : Request)
    (s : Session (AgentWorld A.machine)) : Prop where
  length_key : key.length = 32
  secret : s.handler.sharedSecret = some key
  agent : s.world.agent = AgentState.mk (.serving key) s.handler.outerEnvelopeWriter.iv
    (s.handler.outerEnvelopeReader.iv + 1) (served ++ [r])
  inbox : s.world.inbox =
    sealPacket V key s.handler.outerEnvelopeReader.iv (A.response served r)

section

variable (hV : V.Lawful) (hsend : ∀ i, line.sendFails i = false)
include hV hsend

/-- **A call whose first `recv` throws** leaves its answer behind. -/
theorem Aligned.call_stalled {served : List Request} {s : Session (AgentWorld A.machine)}
    (hal : Aligned A key served s) (op : Operation) {r : Request} (hr : op.request C = .ok r)
    (hline : line.recvFails s.world.recvs = true) :
    ∃ s', Effect.outcome (op.call (A.platform C line)) s = (.error (.java .ioException ""), s') ∧
      Stale A key served r s' ∧ s'.world.recvs = s.world.recvs + 1 := by
  obtain ⟨h, w⟩ := s
  obtain ⟨hlen, hsecret, hagent, hinbox, -⟩ := hal
  obtain ⟨w', hcall, hagent', hin, -, hrecvs⟩ :=
    Operation.call_served hV hlen hsecret hagent (hsend w.sends) hr
  rw [hinbox, List.nil_append] at hin
  have hline' : line.recvFails w'.recvs = true := by
    rw [hrecvs]
    exact hline
  have hread := r.read_error (Handler.recv_error (V := V) (C := C) (h := h.afterWrite) 5 hline')
  exact ⟨_, Effect.outcome_error (hcall.trans hread), ⟨hlen, hsecret, hagent', hin⟩,
    congrArg (· + 1) hrecvs⟩

/-- **A call that finds an answer waiting takes it for its own**, if it can
read it, and leaves its own answer behind in turn. -/
theorem Stale.call_cases {served : List Request} {r r' : Request}
    {s : Session (AgentWorld A.machine)} (hst : Stale A key served r s) (op : Operation)
    (hr : op.request C = .ok r') (hid : r'.id = r.id) (hlaid : r'.LaidOut (A.answer served r)) :
    Broken 3 (op.call (A.platform C line)) line s ∨
      ∃ s', Effect.outcome (op.call (A.platform C line)) s =
        (r'.result (A.answer served r), s') ∧ Stale A key (served ++ [r]) r' s' := by
  obtain ⟨h, w⟩ := s
  obtain ⟨hlen, hsecret, hagent, hinbox⟩ := hst
  have hsecret' : h.afterWrite.sharedSecret = some key := hsecret
  obtain ⟨w', hcall, hagent', hin, -, hrecvs⟩ :=
    Operation.call_served hV hlen hsecret hagent (hsend w.sends) hr
  -- the older answer lies in front, under the counter the reader expects
  rw [hinbox, Agent.response, ← hid] at hin
  rcases Request.read_cases C line hV (hV.takes hlen) hsecret' hlaid hin with
    hbroken | ⟨n, hread⟩
  · exact .inl (hbroken.of_eq hcall hrecvs)
  · refine .inr ⟨⟨h.afterWrite.afterRead, w'.took n (sealPacket V key
      (h.outerEnvelopeReader.iv + 1) (A.response (served ++ [r]) r'))⟩, ?_,
      ⟨hlen, hsecret, hagent', rfl⟩⟩
    rw [Effect.outcome, hcall.trans hread]
    exact Effect.outcome_lift ..

end

/-- The agent in the open that numbers its answers to one query, and refuses
the others. -/
def numberingAgent : Agent XorSuite.suite :=
  openAgent
    (fun served r =>
      match r with
      | .getNextBlockId _ => ⟨0, 0, toBE 16 served.length⟩
      | _ => ⟨1, 0, []⟩)
    (by
      intro served r
      cases r with
      | getNextBlockId _ =>
        refine ⟨.inl (length_toBE ..), ?_⟩
        show 12 + (toBE 16 served.length).length ≤ MAX_PAYLOAD_SIZE
        rw [length_toBE]
        decide
      | _ => exact Request.laidOut_refusal _ 0)

/-- A line on which the first `recv` after the handshake throws, and no
other. -/
def stallingLine : Line := ⟨fun _ => false, fun i => i == 5⟩

theorem stallingLine_sends (i : ℕ) : stallingLine.sendFails i = false := rfl

theorem stallingLine_recvs {i : ℕ} (h : i ≠ 5) : stallingLine.recvFails i = false := by
  simpa [stallingLine] using h

/-- A line on which the first `recv` of the third call after the handshake throws. -/
def lateStallingLine : Line := ⟨fun _ => false, fun i => i == 9⟩

/-- Three calls of one kind on that line. Until the third the answers are
numbered as the calls are, and the second call returns its own. -/
theorem ownAnswer_second :
    XorSuite.suite.IsKeyPair (zeros 32) numberingAgent.entityPublicKey ∧
      ∃ s, Handler.handshake (numberingAgent.platform BufferCert.lib lateStallingLine) openNonces
          (numberingAgent.fresh (zeros 32)) = .ok () s ∧
        (Effect.trace (Operation.call (numberingAgent.platform BufferCert.lib lateStallingLine))
          [.getNextBlockId ⟨0, 1⟩, .getNextBlockId ⟨0, 2⟩, .getNextBlockId ⟨0, 3⟩] s).1 =
          [.ok (.optUuid (some ⟨0, 0⟩)), .ok (.optUuid (some ⟨0, 1⟩)),
            .error (.java .ioException "")] ∧
        OwnAnswer numberingAgent BufferCert.lib lateStallingLine s
          [.getNextBlockId ⟨0, 1⟩, .getNextBlockId ⟨0, 2⟩, .getNextBlockId ⟨0, 3⟩] 1 := by
  have hclient : XorSuite.suite.IsKeyPair (zeros 32) numberingAgent.entityPublicKey :=
    openAgent_client ..
  have hshake := Effect.ok_of_outcome (x := Handler.handshake
    (numberingAgent.platform BufferCert.lib lateStallingLine) openNonces)
    (s := numberingAgent.fresh (zeros 32)) (a := ()) (by decide +kernel)
  refine ⟨hclient, _, hshake, by decide +kernel, ?_⟩
  exact ownAnswer_of_unbroken XorSuite.suite_lawful BufferCert.lib numberingAgent hclient
    openNonces (fun _ => rfl) hshake _ 1 (by decide +kernel)

/-- **An answer crosses.** Two calls ask for the blocks after two others; the
first `recv` of the first call throws, and the second call returns the answer
to the first. -/
theorem answer_crosses :
    ∃ s, Handler.handshake (numberingAgent.platform BufferCert.lib stallingLine) openNonces
        (numberingAgent.fresh (zeros 32)) = .ok () s ∧
      ¬OwnAnswer numberingAgent BufferCert.lib stallingLine s
        [.getNextBlockId ⟨0, 1⟩, .getNextBlockId ⟨0, 2⟩] 1 := by
  have hclient : XorSuite.suite.IsKeyPair (zeros 32) numberingAgent.entityPublicKey :=
    openAgent_client ..
  obtain ⟨key, s, hshake, hal, hrecvs, -⟩ := Handler.handshake_ok (C := BufferCert.lib)
    XorSuite.suite_lawful openNonces stallingLine_sends hclient
    fun i hi => stallingLine_recvs (by omega)
  refine ⟨s, hshake, fun hown => ?_⟩
  -- the first call leaves its answer behind, and the second takes it
  obtain ⟨s₁, hcall₁, hstale, hrecvs₁⟩ := hal.call_stalled (C := BufferCert.lib)
    XorSuite.suite_lawful stallingLine_sends (.getNextBlockId ⟨0, 1⟩) rfl (by rw [hrecvs]; rfl)
  have hfirst : (Effect.trace (Operation.call (numberingAgent.platform BufferCert.lib stallingLine))
      [.getNextBlockId ⟨0, 1⟩] s).2 = s₁ := by
    rw [Effect.trace_cons, hcall₁]
    rfl
  rcases hstale.call_cases (C := BufferCert.lib) XorSuite.suite_lawful stallingLine_sends
    (.getNextBlockId ⟨0, 2⟩) rfl rfl (numberingAgent.laidOut [] (.getNextBlockId ⟨0, 2⟩)) with
    hbroken | ⟨s₂, hcall₂, -⟩
  · exact hbroken.elim fun i _ => stallingLine_recvs (by rw [hrecvs₁, hrecvs]; omega)
  have hsecond : (Effect.trace
      (Operation.call (numberingAgent.platform BufferCert.lib stallingLine))
      [.getNextBlockId ⟨0, 1⟩, .getNextBlockId ⟨0, 2⟩] s).1[1]? =
      some (.ok (.optUuid (some (UuidUtil.halves (toBE 16 0))))) := by
    rw [Effect.trace_getElem? rfl, List.take_succ_cons, List.take_zero, hfirst, hcall₂]
    rfl
  -- its own answer would have had the number one
  obtain ⟨r, hr, hresult⟩ := hown _ _ rfl hsecond
  obtain rfl := Except.ok.inj hr
  have hserved : servedBy s₁ = [.getNextBlockId ⟨0, 1⟩] := by
    rw [servedBy, hstale.agent]
    rfl
  rw [List.take_succ_cons, List.take_zero, hfirst, hserved] at hresult
  have hids : UuidUtil.halves (toBE 16 1) = UuidUtil.halves (toBE 16 0) :=
    Option.some.inj (Value.optUuid.inj (Except.ok.inj hresult))
  exact absurd hids (by decide)

end VjBlockchain
