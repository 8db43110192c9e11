import VjBlockchain.Client.Consumer
import VjBlockchain.Client.EndToEnd
/-!
# Reading a chain from an agent

The consumer over a `RemoteAgentConnection`, whose two queries the handler asks
an agent over a socket. If the agent answers them out of a chain, then as long
as no read of the socket throws the connection does what a ledger of that chain
does, and the consumer on top of it does what the consumer of the ledger does.
-/

namespace VjBlockchain

open Common Common.Bytes Common.Throwing

/-- A connection that passes the consumer's queries on to its handler. -/
def RemoteAgentConnection.queries {W : Type} (P : Platform W) :
    VelochainConnection (Session W) where
  getNextBlockId := Handler.getNextBlockId P
  getBlockById := Handler.getBlockById P

/-! ## The consumer over two connections -/

section

variable {σ τ : Type} {R : σ → τ → Prop} {L : σ → Prop} {L' : τ → Prop}

/-- Two connections alike. -/
structure VelochainConnection.Simulates (R : σ → τ → Prop) (L : σ → Prop) (L' : τ → Prop)
    (conn : VelochainConnection σ) (conn' : VelochainConnection τ) : Prop where
  getNextBlockId : ∀ u, Effect.Simulates R L L' (conn.getNextBlockId u) (conn'.getNextBlockId u)
  getBlockById : ∀ u, Effect.Simulates R L L' (conn.getBlockById u) (conn'.getBlockById u)

/-- Methods of consumers with alike connections, and one output. -/
abbrev Consumer.Simulates {α : Type} (R : σ → τ → Prop) (L : σ → Prop) (L' : τ → Prop)
    (x : Consumer σ α) (y : Consumer τ α) : Prop :=
  Effect.Simulates (fun s t => R s.1 t.1 ∧ s.2 = t.2) (fun s => L s.1) (fun t => L' t.1) x y

namespace Consumer

variable {conn : VelochainConnection σ} {conn' : VelochainConnection τ} (C : Vccert)

/-- Printing the transactions asks the connection for nothing. -/
theorem simulates_readTransactions (reader : CertificateReader) :
    Simulates R L L'
      (readTransactions C reader 0 (reader.count Field.WRAPPED_TRANSACTION_TUPLE))
      (readTransactions C reader 0 (reader.count Field.WRAPPED_TRANSACTION_TUPLE)) where
  step := by
    rintro s t ⟨hR, hout⟩
    rw [Effect.outcome_ok (readTransactions_all reader s),
      Effect.outcome_ok (readTransactions_all reader t), hout]
    exact .inr (.inr ⟨rfl, hR, rfl⟩)
  lost := .of_outcome fun s hs => by rwa [Effect.outcome_ok (readTransactions_all reader s)]
  lost' := .of_outcome fun t ht => by rwa [Effect.outcome_ok (readTransactions_all reader t)]

variable (hconn : conn.Simulates R L L' conn')
include hconn

theorem simulates_readBlock (u : UUID) :
    Simulates R L L' (readBlock conn C u) (readBlock conn' C u) := by
  refine .bind (.unwatched (hconn.getBlockById u)) fun cert => ?_
  cases cert with
  | none => exact .throw _
  | some cert => exact .bind (.lift _) fun reader => simulates_readTransactions C reader

theorem simulates_poll (u : UUID) : Simulates R L L' (poll conn C u) (poll conn' C u) := by
  refine .bind (.unwatched (hconn.getNextBlockId u)) fun next => ?_
  cases next with
  | none => exact .pure _
  | some next => exact .bind (simulates_readBlock C hconn next) fun _ => .pure _

/-- **Turn by turn**, for any number of turns. -/
theorem simulates_readCerts (n : ℕ) (u : UUID) :
    Simulates R L L' (readCerts conn C n u) (readCerts conn' C n u) := by
  induction n generalizing u with
  | zero => exact .pure _
  | succ n ih => exact .bind (simulates_poll C hconn u) ih

end Consumer

end

/-! ## An agent with a chain -/

/-- The agent answers the two queries out of a chain that grows. -/
structure Agent.Serves {V : Vccrypt} (A : Agent V) (chain : List Request → Chain) : Prop where
  next : ∀ served u, Request.optUuid (A.answer served (.getNextBlockId u)) =
    (chain served).nextId u
  block : ∀ served u, Request.optCertificate 80 (A.answer served (.getBlockById u)) =
    (chain served).certificate u
  grows : Grows chain

section

variable {V : Vccrypt} {A : Agent V} {chain : List Request → Chain} {N : Network A.machine}

/-- What a call would give and leave behind if the agent answered it on the
spot. -/
def Agent.respond (A : Agent V) (C : Vccert) (op : Operation) :
    EStateM Fault (List Request) Value := fun served =>
  match op.request C with
  | .error f => .error f served
  | .ok r => Effect.lift (r.result (A.answer served r)) (served ++ [r])

theorem Agent.outcome_respond {C : Vccert} {op : Operation} {r : Request}
    (hr : op.request C = .ok r) (served : List Request) :
    Effect.outcome (A.respond C op) served = (r.result (A.answer served r), served ++ [r]) := by
  have hrespond : A.respond C op served =
      Effect.lift (r.result (A.answer served r)) (served ++ [r]) := by
    rw [Agent.respond, hr]
  rw [Effect.outcome_congr hrespond, Effect.outcome_lift]

/-- **A call over the socket is answered on the spot**, or a read throws. -/
theorem simulates_respond (hV : V.Lawful) (C : Vccert) (hline : (N.wire 0).line = .reliable)
    (op : Operation) :
    Effect.Simulates (fun s served => Mirrors N served s) (fun s => s.world.Threw N 0)
      (fun _ => False) (op.call (socketPlatform V C N)) (A.respond C op) where
  step := by
    rintro s served ⟨key, t, hrelated, hal, hthrew⟩
    have hthrew' := (hal.call_threw (C := C) hV op).trans hthrew
    have hstep := (simulates_call_socket V C N (k := 0) op).step hrelated
    rw [hline] at hstep
    rcases hstep with hlost | hlost | ⟨hresult, hend⟩
    · exact .inl hlost
    · cases hthrew'.symm.trans hlost
    · cases hr : op.request C with
      | error f =>
        have hrefused : op.call (A.platform C .reliable) t = .error f t :=
          hal.call_refused hV hr
        have hcall := Effect.outcome_error hrefused
        have hrespond : A.respond C op served = .error f served := by rw [Agent.respond, hr]
        rw [hcall] at hresult hend
        rw [Effect.outcome_error hrespond]
        exact .inr (.inr ⟨hresult, key, t, hend, hal, hthrew⟩)
      | ok r =>
        rcases hal.call_cases (C := C) hV Line.reliable_sends hr with
          hbroken | ⟨t', hcall, hal'⟩
        · exact hbroken.elim fun _ _ => rfl
        rw [hcall] at hresult hend hthrew'
        rw [Agent.outcome_respond hr]
        exact .inr (.inr ⟨hresult, key, t', hend, hal', hthrew'⟩)
  lost := (simulates_call_socket V C N (k := 0) op).lost
  lost' := .of_outcome fun _ h => h.elim

/-- **The connection is a ledger**, until a read throws. -/
theorem simulates_queries (hV : V.Lawful) (C : Vccert) (hline : (N.wire 0).line = .reliable)
    (hserves : A.Serves chain) :
    VelochainConnection.Simulates (fun s served => Mirrors N served s)
      (fun s => s.world.Threw N 0) (fun _ => False)
      (RemoteAgentConnection.queries (socketPlatform V C N)) (ledger chain) where
  getNextBlockId u := by
    refine .of_wrapped (w := Value.optUuid) (fun _ _ h => Value.optUuid.inj h) ?_
    have hrespond : A.respond C (.getNextBlockId u) =
        (ledger chain).getNextBlockId u >>= fun next => pure (.optUuid next) := by
      funext served
      exact congrArg (fun next => EStateM.Result.ok (Value.optUuid next)
        (served ++ [.getNextBlockId u])) (hserves.next served u)
    rw [← hrespond]
    exact simulates_respond hV C hline (.getNextBlockId u)
  getBlockById u := by
    refine .of_wrapped (w := Value.optCertificate) (fun _ _ h => Value.optCertificate.inj h) ?_
    have hrespond : A.respond C (.getBlockById u) =
        (ledger chain).getBlockById u >>= fun cert => pure (.optCertificate cert) := by
      funext served
      exact congrArg (fun cert => EStateM.Result.ok (Value.optCertificate cert)
        (served ++ [.getBlockById u])) (hserves.block served u)
    rw [← hrespond]
    exact simulates_respond hV C hline (.getBlockById u)

end

/-! ## An agent that has a chain -/

namespace Chain

variable (c : Chain)

/-- Its blocks fit the answers that carry them. -/
structure Carried : Prop where
  ne_nil : ∀ b ∈ c.blocks, b.certificate.byteArray ≠ []
  limit : ∀ b ∈ c.blocks, 92 + b.certificate.byteArray.length ≤ MAX_PAYLOAD_SIZE

/-- The answer that gives what there is, or refuses. -/
def answer : Request → Answer
  | .getNextBlockId u =>
    match c.nextId u with
    | some next => ⟨0, 0, UuidUtil.getBytesFromUUID next⟩
    | none => ⟨1, 0, []⟩
  | .getBlockById u =>
    match c.certificate u with
    | some cert => ⟨0, 0, zeros 80 ++ cert.byteArray⟩
    | none => ⟨1, 0, []⟩
  | _ => ⟨1, 0, []⟩

variable {c}

theorem mem_of_certificate {u : UUID} {cert : Certificate} (h : c.certificate u = some cert) :
    ∃ b ∈ c.blocks, b.certificate = cert := by
  obtain ⟨b, hb, hcert⟩ := Option.map_eq_some_iff.mp h
  exact ⟨b, List.mem_of_find?_eq_some hb, hcert⟩

theorem laidOut_answer (hc : c.Carried) (r : Request) : r.LaidOut (c.answer r) := by
  cases r with
  | getNextBlockId u =>
    rw [answer]
    cases c.nextId u with
    | none => exact Request.laidOut_refusal _ 0
    | some next =>
      refine ⟨.inl (UuidUtil.length_getBytesFromUUID next), ?_⟩
      rw [UuidUtil.length_getBytesFromUUID]
      decide
  | getBlockById u =>
    rw [answer]
    cases hcert : c.certificate u with
    | none => exact Request.laidOut_refusal _ 0
    | some cert =>
      obtain ⟨b, hb, rfl⟩ := mem_of_certificate hcert
      have hlimit := hc.limit b hb
      have hlen : (zeros 80 ++ b.certificate.byteArray).length =
          80 + b.certificate.byteArray.length := by
        rw [List.length_append, length_zeros]
      refine ⟨.inl ?_, ?_⟩
      · show 80 ≤ (zeros 80 ++ b.certificate.byteArray).length
        omega
      · show 12 + (zeros 80 ++ b.certificate.byteArray).length ≤ MAX_PAYLOAD_SIZE
        omega
  | _ => exact Request.laidOut_refusal _ 0

theorem optUuid_answer (u : UUID) :
    Request.optUuid (c.answer (.getNextBlockId u)) = c.nextId u := by
  rw [answer]
  cases c.nextId u with
  | none => rfl
  | some next => exact congrArg some (UuidUtil.halves_getBytesFromUUID next)

theorem optCertificate_answer (hc : c.Carried) (u : UUID) :
    Request.optCertificate 80 (c.answer (.getBlockById u)) = c.certificate u := by
  rw [answer]
  cases hcert : c.certificate u with
  | none => rfl
  | some cert =>
    obtain ⟨b, hb, rfl⟩ := mem_of_certificate hcert
    have hpos := List.length_pos_iff.mpr (hc.ne_nil b hb)
    dsimp only
    rw [Request.optCertificate, if_pos ⟨rfl, by rw [List.length_append, length_zeros]; omega⟩,
      List.drop_left' (length_zeros 80)]

end Chain

/-- The agent in the open that serves a chain. -/
def chainAgent (chain : List Request → Chain) (hchain : ∀ served, (chain served).Carried) :
    Agent XorSuite.suite :=
  openAgent (fun served => (chain served).answer) fun served => Chain.laidOut_answer (hchain served)

theorem chainAgent_serves {chain : List Request → Chain}
    (hchain : ∀ served, (chain served).Carried) (hgrow : Grows chain) :
    (chainAgent chain hchain).Serves chain where
  next _ u := Chain.optUuid_answer u
  block served u := Chain.optCertificate_answer (hchain served) u
  grows := hgrow

/-! ## Following it -/

open Consumer in
/-- **The loop of a consumer that has connected**: unless a read throws, the
turns are those over a ledger of the agent's chain. -/
theorem Mirrors.followed {V : Vccrypt} (hV : V.Lawful) (C : Vccert) {A : Agent V}
    {N : Network A.machine} (hline : (N.wire 0).line = .reliable) {chain : List Request → Chain}
    (hserves : A.Serves chain) {s s' : Session (SocketWorld A.machine)} (hmirrors : Mirrors N [] s)
    {n : ℕ} {last : Except Fault UUID} {out : List JString}
    (hrun : Effect.outcome (readCerts (RemoteAgentConnection.queries (socketPlatform V C N)) C n
      ROOT_BLOCK) (s, []) = (last, (s', out))) :
    s'.world.Threw N 0 ∨ ∃ socket k, s'.world.sockets[0]? = some socket ∧ k ≤ n ∧
      Followed C (chain (AgentState.served socket.agent)) k last out ∧
      ((∃ u, last = .ok u) → min n (chain []).blocks.length ≤ k) := by
  obtain ⟨k, served, last', out', hledger, hk, hfollowed, hfar⟩ :=
    ledger_followed (C := C) hserves.grows n (Reached.root (chain []))
  have hstep := (simulates_readCerts C (simulates_queries hV C hline hserves) n ROOT_BLOCK).step
    (s := (s, [])) (t := ([], [])) ⟨hmirrors, rfl⟩
  rw [hrun, hledger] at hstep
  rcases hstep with hlost | hlost | ⟨hlast, hend, hout⟩
  · exact .inl hlost
  · exact hlost.elim
  · obtain ⟨socket, hsocket, -, hserved⟩ := Mirrors.socket hend
    dsimp only at hlast hout
    rw [Nat.zero_add] at hk hfar
    rw [hlast, hout]
    refine .inr ⟨socket, k, hsocket, hk, ?_, hfar⟩
    rw [hserved]
    exact hfollowed

open Consumer in
/-- **The consumer of a remote chain.** A consumer connects over a socket to a
conforming agent that answers out of a chain, which may grow meanwhile.
However the stream from the agent is split, unless a read of the socket throws:
after any number of turns the consumer has read the blocks from the first on,
each once and in order, and printed a line for every transaction in them; and
only a block that is no certificate stops it. -/
theorem consumer_follows {V : Vccrypt} (hV : V.Lawful) (C : Vccert) (A : Agent V)
    {privateKey : Bytes} (hclient : V.IsKeyPair privateKey A.entityPublicKey) (nonces : Nonces)
    {config : RemoteAgentConfiguration} (hagentId : config.agentId = A.agentId)
    (hpublicKey : config.agentPublicKey = A.publicKey) (N : Network A.machine)
    (hN : N.Reaches config AgentState.start) {chain : List Request → Chain}
    (hserves : A.Serves chain) {r : Except Fault Unit} {s : Session (SocketWorld A.machine)}
    (hconnect : Effect.outcome (RemoteAgentConnection.connectSocket V C N nonces)
      (RemoteAgentConnection.new config A.entityId privateKey) = (r, s)) :
    s.world.Threw N 0 ∨ (r = .ok () ∧ ∀ (n : ℕ) (last : Except Fault UUID)
      (s' : Session (SocketWorld A.machine)) (out : List JString),
      Effect.outcome (readCerts (RemoteAgentConnection.queries (socketPlatform V C N)) C n
        ROOT_BLOCK) (s, []) = (last, (s', out)) →
      s'.world.Threw N 0 ∨ ∃ socket k, s'.world.sockets[0]? = some socket ∧ k ≤ n ∧
        Followed C (chain (AgentState.served socket.agent)) k last out ∧
        ((∃ u, last = .ok u) → min n (chain []).blocks.length ≤ k)) := by
  rcases hN.connectSocket hV C hclient nonces hagentId hpublicKey hconnect with
    hlost | ⟨hr, hmirrors⟩
  · exact .inl hlost
  exact .inr ⟨hr, fun n last s' out hrun => hmirrors.followed hV C hN.line hserves hrun⟩

/-- A block that wraps one transaction. -/
def sampleBlock : Block :=
  ⟨⟨3, 4⟩, ⟨Record.encodeAll [⟨0x0084, Record.encodeAll
    [⟨0x0038, UuidUtil.getBytesFromUUID ⟨1, 2⟩⟩, ⟨0x0401, [112, 97, 105, 100]⟩]⟩]⟩⟩

def sampleChain : Chain := ⟨[sampleBlock], by decide⟩

theorem sampleChain_carried : sampleChain.Carried where
  ne_nil := by decide
  limit := by decide +kernel

/-- The agent in the open that serves this chain. -/
def sampleAgent : Agent XorSuite.suite :=
  chainAgent (fun _ => sampleChain) fun _ => sampleChain_carried

/-- The transaction's line, printed after two turns. -/
theorem consumer_follows_sample :
    ∃ s s', Effect.outcome (RemoteAgentConnection.connectSocket XorSuite.suite BufferCert.lib
        (trickle (M := sampleAgent.machine) AgentState.start) openNonces)
        (RemoteAgentConnection.new ⟨"localhost", 4000, ⟨1, 1⟩, zeros 32⟩ sampleAgent.entityId
          (zeros 32)) = (.ok (), s) ∧
      Effect.outcome (Consumer.readCerts (RemoteAgentConnection.queries (socketPlatform
        XorSuite.suite BufferCert.lib (trickle (M := sampleAgent.machine) AgentState.start)))
        BufferCert.lib 2 ROOT_BLOCK) (s, []) =
        (.ok ⟨3, 4⟩, (s', [.ofString "00000000-0000-0001-0000-000000000002: paid"])) := by
  have hreaches : (trickle (M := sampleAgent.machine) AgentState.start).Reaches
      ⟨"localhost", 4000, ⟨1, 1⟩, zeros 32⟩ AgentState.start := ⟨rfl, rfl, rfl, fun _ => rfl⟩
  have hclient : XorSuite.suite.IsKeyPair (zeros 32) sampleAgent.entityPublicKey :=
    openAgent_client ..
  have hlines : Consumer.linesOf BufferCert.lib sampleBlock =
      .ok [.ofString "00000000-0000-0001-0000-000000000002: paid"] := by decide +kernel
  obtain ⟨r, s, hconnect⟩ : ∃ r s, Effect.outcome (RemoteAgentConnection.connectSocket
      XorSuite.suite BufferCert.lib (trickle (M := sampleAgent.machine) AgentState.start)
      openNonces) (RemoteAgentConnection.new ⟨"localhost", 4000, ⟨1, 1⟩, zeros 32⟩
        sampleAgent.entityId (zeros 32)) = (r, s) := ⟨_, _, rfl⟩
  rcases consumer_follows XorSuite.suite_lawful BufferCert.lib sampleAgent hclient openNonces rfl
    rfl _ hreaches (chainAgent_serves (fun _ => sampleChain_carried) fun _ _ => List.prefix_rfl)
    hconnect with hlost | ⟨rfl, hturns⟩
  · exact (not_threw_trickle _ _ _ hlost).elim
  obtain ⟨last, s', out, hrun⟩ : ∃ last s' out, Effect.outcome (Consumer.readCerts
      (RemoteAgentConnection.queries (socketPlatform XorSuite.suite BufferCert.lib
        (trickle (M := sampleAgent.machine) AgentState.start))) BufferCert.lib 2 ROOT_BLOCK)
      (s, []) = (last, (s', out)) := ⟨_, _, _, rfl⟩
  rcases hturns 2 last s' out hrun with hlost | ⟨socket, k, -, -, hfollowed, hfar⟩
  · exact (not_threw_trickle _ _ _ hlost).elim
  refine ⟨s, s', hconnect, ?_⟩
  rw [hrun]
  cases hfollowed with
  | reached h =>
    obtain rfl : k = 1 := le_antisymm h.le (hfar ⟨_, rfl⟩)
    obtain rfl := Option.some.inj h.last
    have hprinted : out = [.ofString "00000000-0000-0001-0000-000000000002: paid"] :=
      h.printed.trans (by simp [Consumer.print, sampleChain, hlines, Except.toOption])
    rw [hprinted]
    rfl
  | stopped h hb hf =>
    obtain rfl := List.mem_singleton.mp (List.mem_of_getElem? hb)
    cases hlines.symm.trans hf

end VjBlockchain
