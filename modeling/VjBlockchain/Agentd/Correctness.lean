import VjBlockchain.Agentd.Conversation
import VjBlockchain.Cert.Parse
/-!
# The protocol is correct end to end

A fresh handler, a reliable line and a conforming agent: after the handshake
every run of operations has the agent read exactly the requests the
operations stand for, in order, and gives every call the meaning of the
agent's answer to it. The two counters of either end move in lock step, and
after each call nothing is left unread, so the runs may be of any length.

A submission whose transaction has no readable identifiers, or is too long for
a packet, stands for no request. It throws and sends nothing, and the packet
the agent reads next is that of a later operation.
-/

namespace VjBlockchain

open Common Common.Bytes Common.Throwing

variable {V : Vccrypt} {C : Vccert} {A : Agent V} {line : Line} {key : Bytes}

/-- The requests a list of operations stands for. -/
def requests (C : Vccert) (ops : List Operation) : List Request :=
  ops.filterMap fun op => (op.request C).toOption

/-- What a caller is owed for an answer. Nothing is owed for a submission
that the agent answered with a bad status. -/
def Request.Gives (a : Answer) (x : Except Fault Value) : Request → Prop
  | submit .. => a.status = 0 → x = .ok .void
  | r => x = r.result a

theorem Request.gives_result (a : Answer) (r : Request) : r.Gives a (r.result a) := by
  cases r with
  | submit _ _ _ => exact fun _ => rfl
  | _ => rfl

/-- What a call is owed when `served` has been served before it. A call that
stands for no request is a submission, and throws. -/
def Agent.Owes (A : Agent V) (C : Vccert) (served : List Request) (op : Operation)
    (x : Except Fault Value) : Prop :=
  match op.request C with
  | .error f => (∃ t, op = .submit t) ∧ x = .error f
  | .ok r => r.Gives (A.answer served r) x

theorem requests_append (ops ops' : List Operation) :
    requests C (ops ++ ops') = requests C ops ++ requests C ops' :=
  List.filterMap_append

theorem requests_singleton_ok {op : Operation} {r : Request} (h : op.request C = .ok r) :
    requests C [op] = [r] := by
  simp [requests, h, Except.toOption]

theorem requests_singleton_error {op : Operation} {f : Fault} (h : op.request C = .error f) :
    requests C [op] = [] := by
  simp [requests, h, Except.toOption]

/-- One call on a line whose `recv`s do not throw. -/
theorem Aligned.call_reliable (hV : V.Lawful) {served : List Request}
    {s : Session (AgentWorld A.machine)} (hal : Aligned A key served s) (op : Operation) :
    ∃ x s', Effect.outcome (op.call (A.platform C .reliable)) s = (x, s') ∧ A.Owes C served op x ∧
      Aligned A key (served ++ requests C [op]) s' := by
  cases hr : op.request C with
  | error f =>
    refine ⟨_, s, Effect.outcome_error (hal.call_refused hV hr), ?_, ?_⟩
    · rw [Agent.Owes, hr]
      exact ⟨Operation.submit_of_request_error hr, rfl⟩
    · rw [requests_singleton_error hr, List.append_nil]
      exact hal
  | ok r =>
    rcases hal.call_cases hV Line.reliable_sends hr with
      hbroken | ⟨s', hcall, hal'⟩
    · exact hbroken.elim fun _ _ => rfl
    · refine ⟨_, s', hcall, ?_, ?_⟩
      · rw [Agent.Owes, hr]
        exact r.gives_result _
      · rw [requests_singleton_ok hr]
        exact hal'

/-- **After any run** of calls the ends are in step. -/
theorem Aligned.run_reliable (hV : V.Lawful) {s : Session (AgentWorld A.machine)}
    (hal : Aligned A key [] s) (ops : List Operation) :
    Aligned A key (requests C ops)
      (Effect.trace (Operation.call (A.platform C .reliable)) ops s).2 := by
  refine Effect.trace_induction (P := fun ops s => Aligned A key (requests C ops) s) hal ?_ ops
    (List.prefix_refl ops)
  intro done op _ ih
  obtain ⟨x, s', hcall, -, hal'⟩ := ih.call_reliable (C := C) hV op
  rw [requests_append, hcall]
  exact hal'

/-- **Every call of a run** gets what it is owed. -/
theorem Aligned.run_owes (hV : V.Lawful) {s : Session (AgentWorld A.machine)}
    (hal : Aligned A key [] s) {ops : List Operation} {n : ℕ} {op : Operation}
    (hop : ops[n]? = some op) :
    ∃ x, (Effect.trace (Operation.call (A.platform C .reliable)) ops s).1[n]? = some x ∧
      A.Owes C (requests C (ops.take n)) op x := by
  obtain ⟨x, s', hcall, howes, -⟩ := (hal.run_reliable (C := C) hV (ops.take n)).call_reliable hV op
  refine ⟨x, ?_, howes⟩
  rw [Effect.trace_getElem? hop, hcall]

/-- **End-to-end correctness.** From a fresh handler, over a reliable line,
the handshake with a conforming agent returns, and then in every run of
operations the agent reads exactly the requests the operations stand for, in
order, both ends agree on both counters, no octet is left unread, and the
`n`-th call gives what is owed for the agent's answer to its own request. -/
theorem protocol_correct (hV : V.Lawful) (C : Vccert) (A : Agent V) {privateKey : Bytes}
    (hclient : V.IsKeyPair privateKey A.entityPublicKey) (nonces : Nonces) :
    ∃ s, Handler.handshake (A.platform C .reliable) nonces (A.fresh privateKey) = .ok () s ∧
      ∀ ops : List Operation, ∃ results s',
        Effect.trace (Operation.call (A.platform C .reliable)) ops s = (results, s') ∧
        (∃ key, Aligned A key (requests C ops) s') ∧
        ∀ n op, ops[n]? = some op →
          ∃ x, results[n]? = some x ∧ A.Owes C (requests C (ops.take n)) op x := by
  obtain ⟨key, s, hshake, hal, -⟩ := Handler.handshake_ok (C := C) hV nonces
    Line.reliable_sends hclient fun _ _ => rfl
  exact ⟨s, hshake, fun ops => ⟨_, _, rfl, ⟨key, hal.run_reliable hV ops⟩,
    fun n op hop => hal.run_owes hV hop⟩⟩

/-- The agent in the open that refuses everything. -/
def refusingAgent : Agent XorSuite.suite :=
  openAgent (fun _ _ => ⟨1, 0, []⟩) fun _ r => r.laidOut_refusal 0

/-- It reports no connection. -/
theorem protocol_correct_refusing :
    XorSuite.suite.IsKeyPair (zeros 32) refusingAgent.entityPublicKey ∧
      ∃ s results s', Handler.handshake (refusingAgent.platform BufferCert.lib .reliable) openNonces
          (refusingAgent.fresh (zeros 32)) = .ok () s ∧
        Effect.trace (Operation.call (refusingAgent.platform BufferCert.lib .reliable))
          [.getNextBlockId ⟨0, 1⟩, .getConnectionStatus] s = (results, s') ∧
        servedBy s' = [.getNextBlockId ⟨0, 1⟩, .getConnectionStatus] ∧
        results[1]? = some (.ok (.int 1)) := by
  have hclient : XorSuite.suite.IsKeyPair (zeros 32) refusingAgent.entityPublicKey :=
    openAgent_client ..
  obtain ⟨s, hshake, hruns⟩ := protocol_correct XorSuite.suite_lawful BufferCert.lib refusingAgent
    hclient openNonces
  obtain ⟨results, s', hrun, ⟨key, hal⟩, howed⟩ :=
    hruns [.getNextBlockId ⟨0, 1⟩, .getConnectionStatus]
  obtain ⟨x, hx, howes⟩ := howed 1 .getConnectionStatus rfl
  have hint : x = .ok (.int 1) := howes
  rw [hint] at hx
  exact ⟨hclient, s, results, s', hshake, hrun, hal.servedBy_eq, hx⟩

/-- A transaction without fields has no identifiers to read. -/
theorem submitIds_empty : submitIds BufferCert.lib ⟨[]⟩ =
    .error (.java .illegalArgumentException "certificate has no valid fields.") := by
  have hnext : Record.next [] = none := by decide
  have hparse := CertificateParser.parse_error (p := .new ⟨[]⟩) BufferCert.lib_lawful hnext
  rw [submitIds, CertificateReader.new, hparse]
  rfl

/-- **Not every call has a packet.** A submission without identifiers throws
and sends nothing, so the first packet the agent reads is the second call's,
and there is no second packet. -/
theorem not_every_call_sends :
    ∃ s results s', Handler.handshake (refusingAgent.platform BufferCert.lib .reliable) openNonces
        (refusingAgent.fresh (zeros 32)) = .ok () s ∧
      Effect.trace (Operation.call (refusingAgent.platform BufferCert.lib .reliable))
        [.submit ⟨[]⟩, .getLatestBlockId] s = (results, s') ∧
      servedBy s' = [.getLatestBlockId] ∧
      ¬∀ (n : ℕ) (op : Operation), [Operation.submit ⟨[]⟩, .getLatestBlockId][n]? = some op →
        ∃ r, op.request BufferCert.lib = .ok r ∧ (servedBy s')[n]? = some r := by
  have hclient : XorSuite.suite.IsKeyPair (zeros 32) refusingAgent.entityPublicKey :=
    openAgent_client ..
  have hrequests : requests BufferCert.lib [.submit ⟨[]⟩, .getLatestBlockId] =
      [.getLatestBlockId] := by
    have herror : Operation.request BufferCert.lib (.submit ⟨[]⟩) =
        .error (.java .illegalArgumentException "certificate has no valid fields.") :=
      Operation.request_submit_error submitIds_empty
    rw [requests, List.filterMap_cons, herror]
    rfl
  obtain ⟨key, s, hshake, hal, -⟩ := Handler.handshake_ok (C := BufferCert.lib)
    XorSuite.suite_lawful openNonces Line.reliable_sends hclient fun _ _ => rfl
  have hend := hal.run_reliable (C := BufferCert.lib) XorSuite.suite_lawful
    [.submit ⟨[]⟩, .getLatestBlockId]
  obtain ⟨results, s', hrun⟩ : ∃ results s', Effect.trace
      (Operation.call (refusingAgent.platform BufferCert.lib .reliable))
      [.submit ⟨[]⟩, .getLatestBlockId] s = (results, s') := ⟨_, _, rfl⟩
  have hserved := hend.servedBy_eq
  rw [hrequests, hrun] at hserved
  refine ⟨s, results, s', hshake, hrun, hserved, fun h => ?_⟩
  obtain ⟨r, -, hr⟩ := h 1 .getLatestBlockId rfl
  rw [hserved] at hr
  cases hr

end VjBlockchain
