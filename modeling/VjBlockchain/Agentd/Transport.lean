import VjBlockchain.Agentd.Socket
import VjBlockchain.Agentd.Parametric
import VjBlockchain.Agentd.Correctness
import VjBlockchain.Agentd.Gate
/-!
# From messages to sockets

A socket's channel simulates the plain channel to its peer. A `recv` over the
plain channel takes its octets at once or throws; `readFully` collects them
read by read, however the stream is split. The two part only where a read
throws, or where the peer has sent less than was asked for.

So what is known of a handler over the plain channel is known of it over a
socket, up to the first read that throws; with a conforming agent behind the
socket the peer never sends too little.
-/

namespace VjBlockchain

open Common Common.Bytes Common.Throwing

variable {M : AgentMachine} {α : Type}

/-- The line of a wire: its writes may throw, and no `recv` does by itself. -/
def Wire.line (wire : Wire) : Line := ⟨wire.writeFails, fun _ => false⟩

/-- A socket with the world of a plain channel behind it. -/
structure Socket.Shows (s : Socket M) (w : AgentWorld M) : Prop where
  agent : s.agent = w.agent
  input : s.input.remaining = w.inbox
  writes : s.writes = w.sends
  delivered : s.delivered = w.delivered
  closed : s.closed = false

namespace SocketWorld

/-- The channel is on a socket, which has the world of a plain channel behind
it. -/
structure Carries (k : ℕ) (w : SocketWorld M) (a : AgentWorld M) : Prop where
  output : w.channel.output = some k
  input : w.channel.input = some k
  socket : ∃ s, w.sockets[k]? = some s ∧ s.Shows a

/-- A read of this socket has thrown. -/
def Threw (N : Network M) (k : ℕ) (w : SocketWorld M) : Prop :=
  ∃ s, w.sockets[k]? = some s ∧ s.Threw (N.wire k)

end SocketWorld

/-! ## Calls on a socket -/

theorem Socket.Threw.mono {wire : Wire} {s s' : Socket M} (h : s.Threw wire)
    (hreads : s.reads ≤ s'.reads) : s'.Threw wire := by
  obtain ⟨j, hj, hfails⟩ := h
  exact ⟨j, hj.trans_le hreads, hfails⟩

/-- A write reads nothing and closes nothing. -/
theorem Socket.write_same (wire : Wire) (message : Bytes) (s : Socket M) :
    (Effect.outcome (Socket.write wire message) s).2.reads = s.reads ∧
      (Effect.outcome (Socket.write wire message) s).2.closed = s.closed := by
  by_cases hclosed : s.closed = true
  · have hwrite : Socket.write wire message s =
        .error (.java .ioException "Socket closed") s := if_pos hclosed
    rw [Effect.outcome_error hwrite]
    exact ⟨rfl, rfl⟩
  by_cases hfails : wire.writeFails s.writes = true
  · have hwrite : Socket.write wire message s =
        .error (.java .ioException "") { s with writes := s.writes + 1 } := by
      rw [Socket.write, if_neg hclosed, if_pos hfails]
    rw [Effect.outcome_error hwrite]
    exact ⟨rfl, rfl⟩
  · have hwrite : Socket.write wire message s = .ok () (s.deliver message) := by
      rw [Socket.write, if_neg hclosed, if_neg hfails]
    rw [Effect.outcome_ok hwrite]
    exact ⟨rfl, rfl⟩

namespace SocketDataChannelImpl

variable {N : Network M} {w : SocketWorld M} {k : ℕ} {s : Socket M}

theorem outcome_onSocket (h : w.sockets[k]? = some s) (x : EStateM Fault (Socket M) α) :
    Effect.outcome (onSocket k x) w =
      ((Effect.outcome x s).1, { w with sockets := w.sockets.set k (Effect.outcome x s).2 }) := by
  unfold Effect.outcome onSocket
  rw [h]
  dsimp only
  cases x s <;> rfl

/-- A call on a socket assigns no field. -/
theorem onSocket_channel (j : ℕ) (x : EStateM Fault (Socket M) α) (w : SocketWorld M) :
    (Effect.outcome (onSocket j x) w).2.channel = w.channel := by
  cases hj : w.sockets[j]? with
  | none =>
    have hmissing : onSocket j x w = .error (.java .nullPointerException "") w := by
      rw [onSocket, hj]
    rw [Effect.outcome_error hmissing]
  | some t => rw [outcome_onSocket hj]

/-- What a call on one socket does to another, or to itself. -/
theorem onSocket_getElem? (j : ℕ) (x : EStateM Fault (Socket M) α) (h : w.sockets[k]? = some s) :
    (Effect.outcome (onSocket j x) w).2.sockets[k]? =
      some (if j = k then (Effect.outcome x s).2 else s) := by
  by_cases hjk : j = k
  · subst hjk
    rw [outcome_onSocket h, if_pos rfl]
    exact List.getElem?_set_self (List.getElem?_eq_some_iff.mp h).1
  · rw [if_neg hjk]
    cases hj : w.sockets[j]? with
    | none =>
      have hmissing : onSocket j x w = .error (.java .nullPointerException "") w := by
        rw [onSocket, hj]
      rw [Effect.outcome_error hmissing, h]
    | some t =>
      rw [outcome_onSocket hj]
      exact (List.getElem?_set_ne hjk).trans h

theorem onSocket_threw {x : EStateM Fault (Socket M) α} (j : ℕ)
    (hx : ∀ s, s.reads ≤ (Effect.outcome x s).2.reads) :
    Effect.Preserves (SocketWorld.Threw N k) (fun _ => True) (onSocket j x) := by
  refine .of_outcome fun w => ?_
  rintro ⟨s, hs, hthrew⟩
  refine ⟨_, onSocket_getElem? j x hs, ?_⟩
  split
  · exact hthrew.mono (hx s)
  · exact hthrew

theorem onField_some {field : SocketDataChannelImpl → Option ℕ} (h : field w.channel = some k)
    (x : ℕ → EStateM Fault (Socket M) α) : onField field x w = onSocket k (x k) w := by
  rw [onField, h]

/-- What the call preserves on any socket, it preserves on the field's. -/
theorem onField_preserves {J : SocketWorld M → Prop} (field : SocketDataChannelImpl → Option ℕ)
    {x : ℕ → EStateM Fault (Socket M) α}
    (hx : ∀ w j, J w → field w.channel = some j → J (Effect.outcome (onSocket j (x j)) w).2) :
    Effect.Preserves J (fun _ => True) (onField field x) := by
  refine .of_outcome fun w hw => ?_
  cases hfield : field w.channel with
  | none =>
    have hnull : onField field x w = .error (.java .nullPointerException "") w := by
      rw [onField, hfield]
    rw [Effect.outcome_error hnull]
    exact hw
  | some j =>
    rw [Effect.outcome_congr (onField_some hfield x)]
    exact hx w j hw hfield

end SocketDataChannelImpl

/-! ## The simulation -/

namespace Socket

variable {wire : Wire} {s : Socket M} {a : AgentWorld M}

/-- **A write** throws when the plain channel's `send` does, and hands the
message over when that one does. -/
theorem Shows.write (h : s.Shows a) (wire : Wire) (message : Bytes) :
    (Effect.outcome (Socket.write wire message) s).1 =
        (Effect.outcome ((agentChannel M wire.line).send message) a).1 ∧
      (Effect.outcome (Socket.write wire message) s).2.Shows
        (Effect.outcome ((agentChannel M wire.line).send message) a).2 := by
  obtain ⟨hagent, hinput, hwrites, hdelivered, hclosed⟩ := h
  have hopen : ¬s.closed = true := by
    rw [hclosed]
    exact Bool.false_ne_true
  by_cases hfails : wire.writeFails s.writes = true
  · have hwrite : Socket.write wire message s =
        .error (.java .ioException "") { s with writes := s.writes + 1 } := by
      rw [Socket.write, if_neg hopen, if_pos hfails]
    have hsend : (agentChannel M wire.line).send message a =
        .error (.java .ioException "") { a with sends := a.sends + 1 } := by
      rw [hwrites] at hfails
      exact if_pos hfails
    rw [Effect.outcome_error hwrite, Effect.outcome_error hsend]
    exact ⟨rfl, hagent, hinput, congrArg (· + 1) hwrites, hdelivered, hclosed⟩
  · have hwrite : Socket.write wire message s = .ok () (s.deliver message) := by
      rw [Socket.write, if_neg hopen, if_neg hfails]
    have hsend : (agentChannel M wire.line).send message a = .ok () (a.deliver message) := by
      rw [hwrites] at hfails
      exact if_neg hfails
    rw [Effect.outcome_ok hwrite, Effect.outcome_ok hsend]
    refine ⟨rfl, ?_, ?_, congrArg (· + 1) hwrites, congrArg (· ++ [message]) hdelivered, hclosed⟩
    · show (M.react s.agent message).1 = (M.react a.agent message).1
      rw [hagent]
    · show s.input.remaining ++ (M.react s.agent message).2 =
        a.inbox ++ (M.react a.agent message).2
      rw [hinput, hagent]

/-- **`readFully`** returns what the plain channel's `recv` takes at once,
unless a read throws or there is too little to take. -/
theorem Shows.readFully (h : s.Shows a) (wire : Wire) (n : ℕ) :
    (Effect.outcome (Socket.readFully wire n) s).2.Threw wire ∨
    (Effect.outcome ((agentChannel M wire.line).recv n) a).2.threw = true ∨
    ((Effect.outcome (Socket.readFully wire n) s).1 =
        (Effect.outcome ((agentChannel M wire.line).recv n) a).1 ∧
      (Effect.outcome (Socket.readFully wire n) s).2.Shows
        (Effect.outcome ((agentChannel M wire.line).recv n) a).2) := by
  obtain ⟨hagent, hinput, hwrites, hdelivered, hclosed⟩ := h
  rcases readFully_cases wire n hclosed with ⟨f, s', hread, hthrew⟩ | ⟨hshort, -⟩ |
    ⟨henough, s', hread, hfrom, hleft⟩
  · left
    rw [Effect.outcome_error hread]
    exact hthrew
  · right
    left
    have hrecv : (agentChannel M wire.line).recv n a = .error (.java .ioException "") a.lost := by
      rw [hinput] at hshort
      exact if_pos (.inr hshort)
    rw [Effect.outcome_error hrecv]
    rfl
  · right
    right
    have hrecv : (agentChannel M wire.line).recv n a =
        .ok (a.inbox.take n) (a.took 1 (a.inbox.drop n)) := by
      rw [hinput] at henough
      refine if_neg ?_
      rintro (hfails | hshort)
      · cases hfails
      · exact absurd hshort henough.not_gt
    rw [Effect.outcome_ok hread, Effect.outcome_ok hrecv, hinput]
    refine ⟨rfl, hfrom.agent.trans hagent, hleft.trans ?_, hfrom.writes.trans hwrites,
      hfrom.delivered.trans hdelivered, hfrom.closed.trans hclosed⟩
    rw [hinput]
    rfl

end Socket

namespace SocketWorld

variable (N : Network M) (k : ℕ) {w : SocketWorld M} {a : AgentWorld M}

/-- What a call does to the socket the channel is on, it does to the channel. -/
theorem Carries.onSocket (h : Carries k w a) {x : EStateM Fault (Socket M) α}
    {y : EStateM Fault (AgentWorld M) α}
    (hxy : ∀ s, s.Shows a → (Effect.outcome x s).2.Threw (N.wire k) ∨
      (Effect.outcome y a).2.threw = true ∨
      ((Effect.outcome x s).1 = (Effect.outcome y a).1 ∧
        (Effect.outcome x s).2.Shows (Effect.outcome y a).2)) :
    Threw N k (Effect.outcome (SocketDataChannelImpl.onSocket k x) w).2 ∨
      (Effect.outcome y a).2.threw = true ∨
      ((Effect.outcome (SocketDataChannelImpl.onSocket k x) w).1 = (Effect.outcome y a).1 ∧
        Carries k (Effect.outcome (SocketDataChannelImpl.onSocket k x) w).2
          (Effect.outcome y a).2) := by
  obtain ⟨s, hs, hshows⟩ := h.socket
  have hself : (w.sockets.set k (Effect.outcome x s).2)[k]? = some (Effect.outcome x s).2 :=
    List.getElem?_set_self (List.getElem?_eq_some_iff.mp hs).1
  rw [SocketDataChannelImpl.outcome_onSocket hs]
  rcases hxy s hshows with hthrew | hlost | ⟨hresult, hshows'⟩
  · exact .inl ⟨_, hself, hthrew⟩
  · exact .inr (.inl hlost)
  · exact .inr (.inr ⟨hresult, h.output, h.input, _, hself, hshows'⟩)

/-- **The socket's channel simulates the plain channel to its peer**, until a
read throws or the plain channel's does. -/
theorem socketChannel_simulates : (socketChannel N).Simulates (Carries k) (Threw N k)
    (fun a => a.threw = true) (agentChannel M (N.wire k).line) where
  send message :=
    { step := by
        intro w a h
        have hsend : Effect.outcome ((socketChannel N).send message) w = Effect.outcome
            (SocketDataChannelImpl.onSocket k (Socket.write (N.wire k) message)) w :=
          Effect.outcome_congr (SocketDataChannelImpl.onField_some h.output _)
        rw [hsend]
        exact h.onSocket N k fun s hs => .inr (.inr (hs.write (N.wire k) message))
      lost := SocketDataChannelImpl.onField_preserves _ fun w j hw _ =>
        (SocketDataChannelImpl.onSocket_threw j fun s => (Socket.write_same ..).1.ge).outcome hw
      lost' := (agentChannel_send trivial (fun _ _ h => h) (fun _ h => h) message) }
  recv n :=
    { step := by
        intro w a h
        have hrecv : Effect.outcome ((socketChannel N).recv n) w = Effect.outcome
            (SocketDataChannelImpl.onSocket k (Socket.readFully (N.wire k) n)) w :=
          Effect.outcome_congr (SocketDataChannelImpl.onField_some h.input _)
        rw [hrecv]
        exact h.onSocket N k fun s hs => hs.readFully (N.wire k) n
      lost := SocketDataChannelImpl.onField_preserves _ fun w j hw _ =>
        (SocketDataChannelImpl.onSocket_threw j fun s =>
          (Socket.readFully_readFrom ..).reads).outcome hw
      lost' := (agentChannel_recv trivial (fun _ _ _ h => h) (fun _ _ => rfl) n) }

end SocketWorld

/-! ## Runs -/

section

variable (V : Vccrypt) (C : Vccert) (N : Network M) {k : ℕ} {w : SocketWorld M} {a : AgentWorld M}

theorem simulates_handshake_socket [Nonempty (SocketWorld M)] [Nonempty (AgentWorld M)]
    (nonces : Nonces) :
    Handler.Simulates (SocketWorld.Carries k) (SocketWorld.Threw N k) (fun a => a.threw = true)
      (Handler.handshake (socketPlatform V C N) nonces)
      (Handler.handshake (agentPlatform V C M (N.wire k).line) nonces) :=
  Handler.simulates_handshake V C (SocketWorld.socketChannel_simulates N k) nonces

theorem simulates_call_socket (op : Operation) :
    Handler.Simulates (SocketWorld.Carries k) (SocketWorld.Threw N k) (fun a => a.threw = true)
      (op.call (socketPlatform V C N)) (op.call (agentPlatform V C M (N.wire k).line)) :=
  Handler.simulates_call V C (SocketWorld.socketChannel_simulates N k) op

theorem Step.simulates_run [Nonempty (SocketWorld M)] [Nonempty (AgentWorld M)] (step : Step) :
    Handler.Simulates (SocketWorld.Carries k) (SocketWorld.Threw N k) (fun a => a.threw = true)
      (step.run (socketPlatform V C N)) (step.run (agentPlatform V C M (N.wire k).line)) := by
  cases step with
  | handshake nonces => exact .bind (simulates_handshake_socket V C N nonces) fun _ => .pure _
  | call op => exact .bind (simulates_call_socket V C N op) fun _ => .pure _

/-- **A handler over a socket is a handler over the plain channel to the
socket's peer.** Whoever the peer is, however the stream is split, and
whatever the writes do: in any run of handshakes and operations either a read
of the socket has thrown, or the plain run has asked for more than the peer
had sent, or the two runs have the same results and the same counters and
secret, and the peer has been handed the same messages. -/
theorem socket_refines (h : w.Carries k a) (handler : ProtocolHandlerImpl) (steps : List Step)
    {results results' : List (Except Fault (Option Value))} {s : Session (SocketWorld M)}
    {s' : Session (AgentWorld M)}
    (hrun : Effect.trace (Step.run (socketPlatform V C N)) steps ⟨handler, w⟩ = (results, s))
    (hplain : Effect.trace (Step.run (agentPlatform V C M (N.wire k).line)) steps ⟨handler, a⟩ =
      (results', s')) :
    s.world.Threw N k ∨ s'.world.threw = true ∨
      (results = results' ∧ s.handler = s'.handler ∧ s.world.Carries k s'.world) := by
  have : Nonempty (SocketWorld M) := ⟨w⟩
  have : Nonempty (AgentWorld M) := ⟨a⟩
  have hrelated : Session.Related (SocketWorld.Carries k) ⟨handler, w⟩ ⟨handler, a⟩ := ⟨rfl, h⟩
  have hsim := Effect.Simulates.trace steps
    (fun step _ => Step.simulates_run V C N (k := k) step) hrelated
  rw [hrun, hplain] at hsim
  exact hsim

end

/-- A network that hands the octets over one by one. -/
def trickle (agent : M.State) : Network M :=
  ⟨fun _ _ _ => some agent, fun _ => ⟨fun _ => 1, fun _ => false, fun _ => false, false⟩,
    fun _ => false, fun _ => false⟩

theorem not_threw_trickle (agent : M.State) (k : ℕ) (w : SocketWorld M) :
    ¬w.Threw (trickle agent) k := by
  rintro ⟨s, -, j, -, hfails⟩
  cases hfails

/-- A connected channel of that network. -/
def trickling (agent : M.State) : SocketWorld M :=
  ⟨⟨"", 0, some 0, some 0, some 0⟩, [.opened agent ((trickle agent).wire 0)], 1⟩

theorem trickling_carries (agent : M.State) : (trickling agent).Carries 0 (.start agent) :=
  ⟨rfl, rfl, _, rfl, rfl, rfl, rfl, rfl, rfl⟩

/-- **A handshake octet by octet.** -/
theorem socket_refines_trickle :
    (Effect.trace (Step.run (socketPlatform XorSuite.suite BufferCert.lib
      (trickle (M := refusingAgent.machine) AgentState.start))) [.handshake openNonces]
      ⟨refusingAgent.client (zeros 32), trickling AgentState.start⟩).1 = [.ok none] := by
  have hclient : XorSuite.suite.IsKeyPair (zeros 32) refusingAgent.entityPublicKey :=
    openAgent_client ..
  obtain ⟨key, t, hshake, -, -, hthrew⟩ := Handler.handshake_ok (C := BufferCert.lib)
    (A := refusingAgent) XorSuite.suite_lawful openNonces Line.reliable_sends hclient fun _ _ => rfl
  have hstep : Step.run (refusingAgent.platform BufferCert.lib .reliable) (.handshake openNonces)
      (refusingAgent.fresh (zeros 32)) = .ok none t := Effect.bind_ok hshake
  have hplain : Effect.trace (Step.run (refusingAgent.platform BufferCert.lib .reliable))
      [.handshake openNonces] (refusingAgent.fresh (zeros 32)) = ([.ok none], t) := by
    rw [Effect.trace_cons, Effect.outcome_ok hstep, Effect.trace_nil]
  obtain ⟨results, s, hrun⟩ : ∃ results s, Effect.trace (Step.run (socketPlatform XorSuite.suite
      BufferCert.lib (trickle (M := refusingAgent.machine) AgentState.start)))
      [.handshake openNonces] ⟨refusingAgent.client (zeros 32), trickling AgentState.start⟩ =
      (results, s) := ⟨_, _, rfl⟩
  rw [hrun]
  have hcarries := trickling_carries (M := refusingAgent.machine) AgentState.start
  rcases socket_refines XorSuite.suite BufferCert.lib _ hcarries (refusingAgent.client (zeros 32))
    [.handshake openNonces] hrun hplain with hlost | hlost | ⟨hresults, -⟩
  · exact (not_threw_trickle _ _ _ hlost).elim
  · cases hthrew.symm.trans hlost
  · exact hresults

/-! ## With a conforming agent behind the socket -/

section

variable {V : Vccrypt} {C : Vccert} {A : Agent V} {key : Bytes}

/-- A call on a reliable line does not lose anything. -/
theorem Aligned.call_threw (hV : V.Lawful) {served : List Request}
    {s : Session (AgentWorld A.machine)} (hal : Aligned A key served s) (op : Operation) :
    (Effect.outcome (op.call (A.platform C .reliable)) s).2.world.threw = s.world.threw := by
  cases hr : op.request C with
  | error f => rw [Effect.outcome_error (hal.call_refused hV hr)]
  | ok r =>
    have hconnected := hal.connected
    obtain ⟨h, w⟩ := s
    obtain ⟨hlen, hsecret, hagent, hinbox, hsends⟩ := hal
    have hsecret' : h.afterWrite.sharedSecret = some key := hsecret
    obtain ⟨hwritten, hfits⟩ := Operation.request_eq_ok_iff.mp hr
    have hsent := Handler.sendRequest_ok (C := C) hV (hV.takes hlen) hsecret hfits
      (Line.reliable_sends w.sends)
    obtain ⟨-, hin⟩ := deliver_request hV hagent r
    rw [hinbox, List.nil_append] at hin
    rcases Request.read_cases C .reliable hV (hV.takes hlen) hsecret' (A.laidOut served r)
        (hin.trans (List.append_nil _).symm) with hbroken | ⟨n, hread⟩
    · exact hbroken.elim fun _ _ => rfl
    · have hcall := (Operation.call_eq (P := A.platform C .reliable) (s := ⟨h, w⟩) hwritten
        hconnected).trans ((Effect.bind_ok hsent).trans hread)
      rw [Effect.outcome_congr hcall, Effect.outcome_lift]
      rfl

/-- Nor does any run. -/
theorem Aligned.run_threw (hV : V.Lawful) {s : Session (AgentWorld A.machine)}
    (hal : Aligned A key [] s) (ops : List Operation) :
    (Effect.trace (Operation.call (A.platform C .reliable)) ops s).2.world.threw =
      s.world.threw := by
  refine Effect.trace_induction
    (P := fun _ (t : Session (AgentWorld A.machine)) => t.world.threw = s.world.threw) rfl ?_ ops
    (List.prefix_refl ops)
  intro done op _ ih
  rw [(hal.run_reliable (C := C) hV done).call_threw hV op]
  exact ih

end

end VjBlockchain
