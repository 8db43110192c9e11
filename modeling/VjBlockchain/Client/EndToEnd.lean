import VjBlockchain.Agentd.Transport
import VjBlockchain.Client.Reconnect
/-!
# A client and an agent, over a socket

`RemoteAgentConnection` from its constructor on: the channel is a socket's,
`connect` asks the factory for the socket and shakes hands over it, and the
operations are the handler's.

With a conforming agent at the other end every call gets what it is owed, as
over the plain channel. How the octets are split on their way back plays no
part; only a read that throws ends it.
-/

namespace VjBlockchain

open Common Common.Bytes Common.Throwing

/-- The data of a connection. -/
structure RemoteAgentConfiguration where
  host : String
  port : JInt
  agentId : UUID
  agentPublicKey : Bytes

namespace RemoteAgentConnection

variable {M : AgentMachine}

/-- The constructor: nothing is opened. -/
def new (config : RemoteAgentConfiguration) (entityId : UUID) (entityPrivateEncKey : Bytes) :
    Session (SocketWorld M) :=
  ⟨.new config.agentId entityId config.agentPublicKey entityPrivateEncKey,
    ⟨.new config.host config.port, [], 0⟩⟩

/-- `connect`, with the channel's own. -/
def connectSocket (V : Vccrypt) (C : Vccert) (N : Network M) (nonces : Nonces) :
    Handler (SocketWorld M) Unit :=
  connect (socketPlatform V C N) (SocketDataChannelImpl.connect N) nonces

/-- `close`. -/
def close (N : Network M) : Handler (SocketWorld M) Unit :=
  Handler.onWorld (SocketDataChannelImpl.close N)

end RemoteAgentConnection

/-- The factory's first socket is connected to a peer in this state, and no
call on it throws but reads. -/
structure Network.Reaches {M : AgentMachine} (N : Network M) (config : RemoteAgentConfiguration)
    (agent : M.State) : Prop where
  peer : N.peer config.host config.port 0 = some agent
  output : N.outputFails 0 = false
  input : N.inputFails 0 = false
  write : ∀ i, (N.wire 0).writeFails i = false

theorem Network.Reaches.line {M : AgentMachine} {N : Network M}
    {config : RemoteAgentConfiguration} {agent : M.State} (h : N.Reaches config agent) :
    (N.wire 0).line = .reliable :=
  congrArg (Line.mk · fun _ => false) (funext h.write)

/-- The first `connect` of a channel. -/
theorem Network.Reaches.connect {M : AgentMachine} {N : Network M}
    {config : RemoteAgentConfiguration} {agent : M.State} (h : N.Reaches config agent) :
    ∃ w : SocketWorld M, SocketDataChannelImpl.connect N ⟨.new config.host config.port, [], 0⟩ =
      .ok () w ∧ w.Carries 0 (.start agent) := by
  have hcreate : SocketDataChannelImpl.createSocket N
      ⟨.new config.host config.port, [], 0⟩ = .ok 0
        ⟨⟨config.host, config.port, some 0, none, none⟩, [.opened agent (N.wire 0)], 1⟩ := by
    simp only [SocketDataChannelImpl.createSocket, SocketDataChannelImpl.new, h.peer]
    rfl
  refine ⟨⟨⟨config.host, config.port, some 0, some 0, some 0⟩, [.opened agent (N.wire 0)], 1⟩,
    (Effect.bind_ok hcreate).trans ?_, rfl, rfl, _, rfl, rfl, rfl, rfl, rfl, rfl⟩
  have houtput : SocketDataChannelImpl.openOutput N 0
      ⟨⟨config.host, config.port, some 0, none, none⟩, [.opened agent (N.wire 0)], 1⟩ = .ok ()
        ⟨⟨config.host, config.port, some 0, some 0, none⟩, [.opened agent (N.wire 0)], 1⟩ := by
    rw [SocketDataChannelImpl.openOutput, h.output]
    rfl
  refine (Effect.bind_ok houtput).trans ?_
  rw [SocketDataChannelImpl.openInput, h.input]
  rfl

section

variable {V : Vccrypt} {C : Vccert} {A : Agent V} {privateKey : Bytes}
  {config : RemoteAgentConfiguration} {N : Network A.machine} {s : Session (SocketWorld A.machine)}

/-- A connection and a handler over the plain channel to the same agent, in
step. -/
structure Mirrors (N : Network A.machine) (served : List Request)
    (s : Session (SocketWorld A.machine)) : Prop where
  exists_plain : ∃ key t, Session.Related (SocketWorld.Carries 0) s t ∧ Aligned A key served t ∧
    t.world.threw = false

/-- What a mirrored connection looks like from the agent's side. -/
theorem Mirrors.socket {served : List Request} (h : Mirrors N served s) :
    ∃ socket, s.world.sockets[0]? = some socket ∧ socket.input.remaining = [] ∧
      AgentState.served socket.agent = served := by
  obtain ⟨key, t, ⟨-, hcarries⟩, hal, -⟩ := h
  obtain ⟨socket, hsocket, hshows⟩ := hcarries.socket
  refine ⟨socket, hsocket, hshows.input.trans hal.inbox, ?_⟩
  rw [hshows.agent]
  exact hal.servedBy_eq

/-- **Opening the connection**: a read throws, or `connect` returns with both
ends in step. -/
theorem Network.Reaches.connectSocket (hV : V.Lawful) (C : Vccert)
    (hclient : V.IsKeyPair privateKey A.entityPublicKey) (nonces : Nonces)
    (hagentId : config.agentId = A.agentId) (hpublicKey : config.agentPublicKey = A.publicKey)
    (hN : N.Reaches config AgentState.start) {r : Except Fault Unit}
    (hconnect : Effect.outcome (RemoteAgentConnection.connectSocket V C N nonces)
      (RemoteAgentConnection.new config A.entityId privateKey) = (r, s)) :
    s.world.Threw N 0 ∨ (r = .ok () ∧ Mirrors N [] s) := by
  obtain ⟨w, hdial, hcarries⟩ := hN.connect
  have hnew : ProtocolHandlerImpl.new config.agentId A.entityId config.agentPublicKey
      privateKey = A.client privateKey := by
    rw [hagentId, hpublicKey]
    rfl
  have hopened : Handler.onWorld (SocketDataChannelImpl.connect N)
      (RemoteAgentConnection.new config A.entityId privateKey) =
      .ok () ⟨A.client privateKey, w⟩ := by
    rw [RemoteAgentConnection.new, Handler.onWorld, hdial, hnew]
  have hstart : RemoteAgentConnection.connectSocket V C N nonces
      (RemoteAgentConnection.new config A.entityId privateKey) =
      Handler.handshake (socketPlatform V C N) nonces ⟨A.client privateKey, w⟩ :=
    Effect.bind_ok hopened
  -- the handshake over the socket beside the one over the plain channel
  have : Nonempty (SocketWorld A.machine) := ⟨w⟩
  have : Nonempty (AgentWorld A.machine) := ⟨.start AgentState.start⟩
  have hsend : ∀ i, (N.wire 0).line.sendFails i = false := hN.write
  obtain ⟨key, t, hshake, hal, -, hthrew⟩ := Handler.handshake_ok (C := C) hV nonces hsend hclient
    fun _ _ => rfl
  have hrelated : Session.Related (SocketWorld.Carries 0) ⟨A.client privateKey, w⟩
      (A.fresh privateKey) := ⟨rfl, hcarries⟩
  have hfirst := (simulates_handshake_socket V C N nonces).step hrelated
  rw [← Effect.outcome_congr hstart, hconnect, Effect.outcome_ok hshake] at hfirst
  rcases hfirst with hlost | hlost | ⟨hr, hend⟩
  · exact .inl hlost
  · cases hthrew.symm.trans hlost
  · exact .inr ⟨hr, key, t, hend, hal, hthrew⟩

/-- **A run of calls**: a read throws, or every call gets what it is owed and
the ends are in step again. -/
theorem Mirrors.run (hV : V.Lawful) (C : Vccert) (h : Mirrors N [] s)
    (hline : (N.wire 0).line = .reliable) (ops : List Operation)
    {results : List (Except Fault Value)} {s' : Session (SocketWorld A.machine)}
    (hrun : Effect.trace (Operation.call (socketPlatform V C N)) ops s = (results, s')) :
    s'.world.Threw N 0 ∨
      ((∀ n op, ops[n]? = some op →
          ∃ x, results[n]? = some x ∧ A.Owes C (requests C (ops.take n)) op x) ∧
        Mirrors N (requests C ops) s') := by
  obtain ⟨key, t, hrelated, hal, hthrew⟩ := h
  have hruns := Effect.Simulates.trace ops
    (fun op _ => simulates_call_socket V C N (k := 0) op) hrelated
  rw [hrun, hline] at hruns
  rcases hruns with hlost | hlost | ⟨hresults, hend⟩
  · exact .inl hlost
  · cases hlost.symm.trans ((hal.run_threw (C := C) hV ops).trans hthrew)
  · refine .inr ⟨fun n op hop => ?_, key, _, hend, hal.run_reliable hV ops,
      (hal.run_threw (C := C) hV ops).trans hthrew⟩
    obtain ⟨x, hx, howes⟩ := hal.run_owes (C := C) hV hop
    exact ⟨x, by rw [show results = _ from hresults]; exact hx, howes⟩

end

/-- **End to end, over a socket.** A client connects to a conforming agent and
makes any number of calls. However the stream from the agent is split, unless
a read of the socket throws: `connect` returns, the agent reads exactly the
requests the calls stand for, in order, every octet it sends is read, and each
call gives what is owed for the agent's answer to its own request. -/
theorem client_correct {V : Vccrypt} (hV : V.Lawful) (C : Vccert) (A : Agent V)
    {privateKey : Bytes} (hclient : V.IsKeyPair privateKey A.entityPublicKey) (nonces : Nonces)
    {config : RemoteAgentConfiguration} (hagentId : config.agentId = A.agentId)
    (hpublicKey : config.agentPublicKey = A.publicKey) (N : Network A.machine)
    (hN : N.Reaches config AgentState.start) {r : Except Fault Unit}
    {s : Session (SocketWorld A.machine)}
    (hconnect : Effect.outcome (RemoteAgentConnection.connectSocket V C N nonces)
      (RemoteAgentConnection.new config A.entityId privateKey) = (r, s)) :
    s.world.Threw N 0 ∨ (r = .ok () ∧ ∀ (ops : List Operation)
      (results : List (Except Fault Value)) (s' : Session (SocketWorld A.machine)),
      Effect.trace (Operation.call (socketPlatform V C N)) ops s = (results, s') →
      s'.world.Threw N 0 ∨
        ((∀ n op, ops[n]? = some op →
            ∃ x, results[n]? = some x ∧ A.Owes C (requests C (ops.take n)) op x) ∧
          ∃ socket, s'.world.sockets[0]? = some socket ∧ socket.input.remaining = [] ∧
            AgentState.served socket.agent = requests C ops)) := by
  rcases hN.connectSocket hV C hclient nonces hagentId hpublicKey hconnect with
    hlost | ⟨hr, hmirrors⟩
  · exact .inl hlost
  · refine .inr ⟨hr, fun ops results s' hrun => ?_⟩
    rcases hmirrors.run hV C hN.line ops hrun with hlost | ⟨howed, hend⟩
    · exact .inl hlost
    · exact .inr ⟨howed, hend.socket⟩

/-- A client that has to collect every answer octet by octet. -/
theorem client_correct_trickle :
    ∃ s results s', Effect.outcome (RemoteAgentConnection.connectSocket XorSuite.suite
        BufferCert.lib (trickle (M := refusingAgent.machine) AgentState.start) openNonces)
        (RemoteAgentConnection.new ⟨"localhost", 4000, ⟨1, 1⟩, zeros 32⟩ refusingAgent.entityId
          (zeros 32)) = (.ok (), s) ∧
      Effect.trace (Operation.call (socketPlatform XorSuite.suite BufferCert.lib
        (trickle (M := refusingAgent.machine) AgentState.start)))
        [.getNextBlockId ⟨0, 1⟩, .getConnectionStatus] s = (results, s') ∧
      results[1]? = some (.ok (.int 1)) := by
  have hclient : XorSuite.suite.IsKeyPair (zeros 32) refusingAgent.entityPublicKey :=
    openAgent_client ..
  have hreaches : (trickle (M := refusingAgent.machine) AgentState.start).Reaches
      ⟨"localhost", 4000, ⟨1, 1⟩, zeros 32⟩ AgentState.start := ⟨rfl, rfl, rfl, fun _ => rfl⟩
  obtain ⟨r, s, hconnect⟩ : ∃ r s, Effect.outcome (RemoteAgentConnection.connectSocket
      XorSuite.suite BufferCert.lib (trickle (M := refusingAgent.machine) AgentState.start)
      openNonces) (RemoteAgentConnection.new ⟨"localhost", 4000, ⟨1, 1⟩, zeros 32⟩
        refusingAgent.entityId (zeros 32)) = (r, s) := ⟨_, _, rfl⟩
  rcases client_correct XorSuite.suite_lawful BufferCert.lib refusingAgent hclient openNonces rfl
    rfl _ hreaches hconnect with hlost | ⟨rfl, hruns⟩
  · exact (not_threw_trickle _ _ _ hlost).elim
  obtain ⟨results, s', hrun⟩ : ∃ results s', Effect.trace (Operation.call (socketPlatform
      XorSuite.suite BufferCert.lib (trickle (M := refusingAgent.machine) AgentState.start)))
      [.getNextBlockId ⟨0, 1⟩, .getConnectionStatus] s = (results, s') := ⟨_, _, rfl⟩
  rcases hruns _ results s' hrun with hlost | ⟨howed, -⟩
  · exact (not_threw_trickle _ _ _ hlost).elim
  obtain ⟨x, hx, howes⟩ := howed 1 .getConnectionStatus rfl
  have hint : x = .ok (.int 1) := howes
  rw [hint] at hx
  exact ⟨s, results, s', hconnect, hrun, hx⟩

end VjBlockchain
