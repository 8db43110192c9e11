import VjBlockchain.Client.EndToEnd
/-!
# The sockets of a connection

A `RemoteAgentConnection` may be opened, closed and used in any order, and any
call on its sockets may throw. `connect` makes a socket each time and replaces
the channel's three fields one after the other; `close` closes what they name;
the operations write to the one stream and read from the other.

A socket that is closed, or that no field names any more, is out of reach:
nothing is written to it, read from it or closed afterwards. So a connection
that is opened again without having been closed leaves its old socket open for
good.
-/

namespace VjBlockchain

open Common Common.Bytes Common.Throwing

/-- A call on a connection. -/
inductive ConnectionStep
  | connect (nonces : Nonces)
  | close
  | submit (transaction : Certificate)
  | query (op : Operation)

variable {M : AgentMachine} {α : Type}

/-- Make the call, whatever it returns. -/
def ConnectionStep.run (V : Vccrypt) (C : Vccert) (N : Network M) :
    ConnectionStep → Handler (SocketWorld M) Unit
  | connect nonces => RemoteAgentConnection.connectSocket V C N nonces
  | close => RemoteAgentConnection.close N
  | submit t => do
    let _verdict ← RemoteAgentConnection.submit (socketPlatform V C N) t
    pure ()
  | query op => do
    let _value ← op.call (socketPlatform V C N)
    pure ()

/-! ## What the calls do to the sockets -/

/-- A submission leaves the world that its handler's leaves. -/
theorem RemoteAgentConnection.submit_preserves {W : Type} {P : Platform W}
    {I : Session W → Prop} {t : Certificate}
    (h : Effect.Preserves I (fun _ => True) (Operation.call P (.submit t))) :
    Effect.Preserves I (fun _ => True) (RemoteAgentConnection.submit P t) := by
  refine .of_outcome fun s hs => ?_
  have hend := h.outcome hs
  rw [Operation.call, Effect.outcome_bind_pure (Handler.submit P t) fun _ => Value.void] at hend
  unfold Effect.outcome RemoteAgentConnection.submit
  cases hsubmit : Handler.submit P t s with
  | ok u s' =>
    rw [Effect.outcome_ok hsubmit] at hend
    exact hend
  | error f s' =>
    rw [Effect.outcome_error hsubmit] at hend
    cases f with
    | thrown e => exact hend
    | outOfBounds => exact hend

section

variable {V : Vccrypt} {C : Vccert} {N : Network M} {J : SocketWorld M → Prop}
  (hsend : ∀ m, Effect.Preserves J (fun _ => True) (SocketDataChannelImpl.send N m))
  (hrecv : ∀ n, Effect.Preserves J (fun _ => True) (SocketDataChannelImpl.recv N n))
include hsend hrecv

/-- What the two calls of the handler on its channel preserve of the world,
the handler respects. -/
theorem socket_respects :
    Respects (socketPlatform V C N) (fun s => J s.world) fun _ => True where
  send m := Handler.onWorld_preserves fun _ => hsend m
  recv n := Handler.onWorld_preserves fun _ => hrecv n
  encryptPayload _ := Handler.encryptPayload_preserves (fun _ hs => hs) fun _ => trivial
  decryptHeader _ := Handler.decryptHeader_preserves fun _ => trivial
  decryptPayload _ _ := Handler.decryptPayload_preserves (fun _ hs => hs) fun _ => trivial
  thrown _ := trivial

theorem socket_handshake_preserves (nonces : Nonces) :
    Effect.Preserves (fun s : Session (SocketWorld M) => J s.world) (fun _ => True)
      (Handler.handshake (socketPlatform V C N) nonces) :=
  (socket_respects hsend hrecv).handshake (fun _ => .of_outcome fun _ hs => hs) nonces

theorem socket_submit_preserves (t : Certificate) :
    Effect.Preserves (fun s => J s.world) (fun _ => True)
      (ConnectionStep.run V C N (.submit t)) :=
  .bind (RemoteAgentConnection.submit_preserves ((socket_respects hsend hrecv).call _))
    fun _ => .pure _

theorem socket_query_preserves (op : Operation) :
    Effect.Preserves (fun s => J s.world) (fun _ => True)
      (ConnectionStep.run V C N (.query op)) :=
  .bind ((socket_respects hsend hrecv).call op) fun _ => .pure _

/-- **What the channel's four methods preserve of the world, every call
does.** -/
theorem ConnectionStep.run_preserves
    (hconnect : Effect.Preserves J (fun _ => True) (SocketDataChannelImpl.connect N))
    (hclose : Effect.Preserves J (fun _ => True) (SocketDataChannelImpl.close N))
    (step : ConnectionStep) :
    Effect.Preserves (fun s => J s.world) (fun _ => True) (step.run V C N) := by
  cases step with
  | connect nonces =>
    exact .bind (Handler.onWorld_preserves fun _ => hconnect)
      fun _ => socket_handshake_preserves hsend hrecv nonces
  | close => exact Handler.onWorld_preserves fun _ => hclose
  | submit t => exact socket_submit_preserves hsend hrecv t
  | query op => exact socket_query_preserves hsend hrecv op

end

namespace SocketDataChannelImpl

/-- **What `connect` does**: `createSocket` throws, or there is a new socket,
and of the two streams none, the one written to, or both are the new socket's. -/
theorem connect_cases (N : Network M) (w : SocketWorld M) :
    (connect N w = .error (.java .ioException "") { w with dials := w.dials + 1 }) ∨
    ∃ agent r output input,
      Effect.outcome (connect N) w = (r,
        { channel := ⟨w.channel.host, w.channel.port, some w.sockets.length, output, input⟩
          sockets := w.sockets ++ [.opened agent (N.wire w.sockets.length)]
          dials := w.dials + 1 }) ∧
      (output = w.channel.output ∨ output = some w.sockets.length) ∧
      (input = w.channel.input ∨ input = some w.sockets.length) ∧
      (N.outputFails w.sockets.length = false → N.inputFails w.sockets.length = false →
        output = some w.sockets.length ∧ input = some w.sockets.length) := by
  cases hpeer : N.peer w.channel.host w.channel.port w.dials with
  | none =>
    left
    have hcreate : createSocket N w =
        .error (.java .ioException "") { w with dials := w.dials + 1 } := by
      rw [createSocket, hpeer]
    exact Effect.bind_error hcreate
  | some agent =>
    right
    have hcreate : createSocket N w = .ok w.sockets.length
        { channel := { w.channel with socket := some w.sockets.length }
          sockets := w.sockets ++ [.opened agent (N.wire w.sockets.length)]
          dials := w.dials + 1 } := by
      rw [createSocket, hpeer]
    cases houtput : N.outputFails w.sockets.length with
    | true =>
      refine ⟨agent, .error (.java .ioException ""), w.channel.output, w.channel.input, ?_,
        .inl rfl, .inl rfl, fun h => (Bool.false_ne_true h.symm).elim⟩
      refine Effect.outcome_error ((Effect.bind_ok hcreate).trans (Effect.bind_error ?_))
      exact if_pos houtput
    | false =>
      have hopen : openOutput N w.sockets.length
          { channel := { w.channel with socket := some w.sockets.length }
            sockets := w.sockets ++ [.opened agent (N.wire w.sockets.length)]
            dials := w.dials + 1 } = .ok ()
          { channel := { w.channel with
              socket := some w.sockets.length
              output := some w.sockets.length }
            sockets := w.sockets ++ [.opened agent (N.wire w.sockets.length)]
            dials := w.dials + 1 } := by
        rw [openOutput, houtput]
        rfl
      cases hinput : N.inputFails w.sockets.length with
      | true =>
        refine ⟨agent, .error (.java .ioException ""), some w.sockets.length, w.channel.input, ?_,
          .inr rfl, .inl rfl, fun _ h => (Bool.false_ne_true h.symm).elim⟩
        refine Effect.outcome_error
          ((Effect.bind_ok hcreate).trans ((Effect.bind_ok hopen).trans ?_))
        exact if_pos hinput
      | false =>
        refine ⟨agent, .ok (), some w.sockets.length, some w.sockets.length, ?_,
          .inr rfl, .inr rfl, fun _ _ => ⟨rfl, rfl⟩⟩
        refine Effect.outcome_ok ((Effect.bind_ok hcreate).trans ((Effect.bind_ok hopen).trans ?_))
        rw [openInput, hinput]
        rfl

end SocketDataChannelImpl

/-! ## Out of reach -/

/-- No field names this socket. -/
def SocketDataChannelImpl.Forgot (c : SocketDataChannelImpl) (k : ℕ) : Prop :=
  c.output ≠ some k ∧ c.input ≠ some k ∧ c.socket ≠ some k

namespace Socket

variable {s : Socket M}

theorem write_closed (h : s.closed = true) (wire : Wire) (message : Bytes) :
    write wire message s = .error (.java .ioException "Socket closed") s := if_pos h

theorem readFully_closed (h : s.closed = true) (wire : Wire) (n : ℕ) :
    (Effect.outcome (readFully wire n) s).2 = s := by
  by_cases hn : n = 0
  · subst hn
    rw [Effect.outcome_ok (readFully_zero wire s)]
  · have hread : read wire n s = .error (.java .ioException "Socket closed") s := if_pos h
    rw [Effect.outcome_error (readFully_error hn hread)]

theorem close_closed (h : s.closed = true) (wire : Wire) : close wire s = .ok () s := by
  obtain ⟨agent, input, reads, writes, delivered, closed⟩ := s
  obtain rfl : closed = true := h
  exact if_neg fun hopen => nomatch hopen.2

end Socket

/-- A socket that nothing gets at any more, as it is. -/
def SocketWorld.Abandoned (k : ℕ) (socket : Socket M) (w : SocketWorld M) : Prop :=
  w.sockets[k]? = some socket ∧ (socket.closed = true ∨ w.channel.Forgot k)

namespace SocketWorld.Abandoned

open SocketDataChannelImpl

variable {N : Network M} {k : ℕ} {socket : Socket M}

/-- A call through one of the fields, which leaves closed sockets as they
are. -/
theorem onField {x : ℕ → EStateM Fault (Socket M) α} {field : SocketDataChannelImpl → Option ℕ}
    (hfield : ∀ c : SocketDataChannelImpl, c.Forgot k → field c ≠ some k)
    (hx : socket.closed = true → (Effect.outcome (x k) socket).2 = socket) :
    Effect.Preserves (Abandoned k socket) (fun _ => True) (onField field x) := by
  refine onField_preserves field fun w j ⟨hsocket, hgone⟩ hj => ?_
  rw [Abandoned, onSocket_channel, onSocket_getElem? j (x j) hsocket]
  refine ⟨?_, hgone⟩
  split
  · rename_i hjk
    subst hjk
    rcases hgone with hclosed | hforgot
    · rw [hx hclosed]
    · exact absurd hj (hfield _ hforgot)
  · rfl

theorem send (m : Bytes) : Effect.Preserves (Abandoned k socket) (fun _ => True)
    (SocketDataChannelImpl.send N m) :=
  onField (fun _ h => h.1) fun h => by rw [Effect.outcome_error (Socket.write_closed h _ m)]

theorem recv (n : ℕ) : Effect.Preserves (Abandoned k socket) (fun _ => True)
    (SocketDataChannelImpl.recv N n) :=
  onField (fun _ h => h.2.1) fun h => Socket.readFully_closed h _ n

theorem close : Effect.Preserves (Abandoned k socket) (fun _ => True)
    (SocketDataChannelImpl.close N) := by
  have hclosed : socket.closed = true →
      (Effect.outcome (Socket.close (N.wire k)) socket).2 = socket :=
    fun h => by rw [Effect.outcome_ok (Socket.close_closed h _)]
  exact .bind (onField (fun _ h => h.2.1) hclosed) fun _ =>
    .bind (onField (fun _ h => h.1) hclosed) fun _ => onField (fun _ h => h.2.2) hclosed

theorem connect : Effect.Preserves (Abandoned k socket) (fun _ => True)
    (SocketDataChannelImpl.connect N) := by
  refine .of_outcome fun w ⟨hsocket, hgone⟩ => ?_
  have hlt := (List.getElem?_eq_some_iff.mp hsocket).1
  rcases connect_cases N w with herror | ⟨agent, r, output, input, hconnect, houtput, hinput, -⟩
  · rw [Effect.outcome_error herror]
    exact ⟨hsocket, hgone⟩
  · rw [hconnect]
    refine ⟨(List.getElem?_append_left hlt).trans hsocket, hgone.imp_right fun hforgot => ?_⟩
    -- the fields keep their values or name the new socket
    have hnew : some w.sockets.length ≠ some k := fun h => hlt.ne (Option.some.inj h).symm
    refine ⟨?_, ?_, hnew⟩
    · rcases houtput with rfl | rfl
      · exact hforgot.1
      · exact hnew
    · rcases hinput with rfl | rfl
      · exact hforgot.2.1
      · exact hnew

end SocketWorld.Abandoned

/-- **A socket out of reach stays as it is.** From any state, over any network
and in any run of calls on the connection: a socket that is closed, or that
none of the channel's fields names, is not written to, not read from and not
closed any more. -/
theorem abandoned_socket (V : Vccrypt) (C : Vccert) (N : Network M)
    {s s' : Session (SocketWorld M)} {steps : List ConnectionStep}
    {results : List (Except Fault Unit)}
    (hrun : Effect.trace (ConnectionStep.run V C N) steps s = (results, s')) {k : ℕ}
    {socket : Socket M} (hsocket : s.world.sockets[k]? = some socket)
    (hgone : socket.closed = true ∨ s.world.channel.Forgot k) :
    s'.world.sockets[k]? = some socket := by
  have hkeep : ∀ step ∈ steps, Effect.Preserves (fun s => s.world.Abandoned k socket)
      (fun _ => True) (ConnectionStep.run V C N step) :=
    fun step _ => ConnectionStep.run_preserves SocketWorld.Abandoned.send
      SocketWorld.Abandoned.recv SocketWorld.Abandoned.connect SocketWorld.Abandoned.close step
  have hend := Effect.trace_preserves hkeep ⟨hsocket, hgone⟩
  rw [hrun] at hend
  exact hend.1

/-- A connection that was opened twice. -/
def openedTwice (agent : M.State) : SocketWorld M :=
  ⟨⟨"localhost", 4000, some 1, some 1, some 1⟩,
    [.opened agent ((trickle agent).wire 0), .opened agent ((trickle agent).wire 1)], 2⟩

/-- **Its first socket is left open**: no `close` gets at it. -/
theorem abandoned_socket_openedTwice :
    ∃ results s', Effect.trace (ConnectionStep.run XorSuite.suite BufferCert.lib
        (trickle (M := refusingAgent.machine) AgentState.start)) [.close, .close]
        ⟨refusingAgent.client (zeros 32), openedTwice AgentState.start⟩ = (results, s') ∧
      ∃ socket : Socket refusingAgent.machine,
        s'.world.sockets[0]? = some socket ∧ socket.closed = false := by
  obtain ⟨results, s', hrun⟩ : ∃ results s', Effect.trace (ConnectionStep.run XorSuite.suite
      BufferCert.lib (trickle (M := refusingAgent.machine) AgentState.start)) [.close, .close]
      ⟨refusingAgent.client (zeros 32), openedTwice AgentState.start⟩ = (results, s') :=
    ⟨_, _, rfl⟩
  have hforgot : (openedTwice (M := refusingAgent.machine) AgentState.start).channel.Forgot 0 := by
    refine ⟨?_, ?_, ?_⟩ <;>
    · intro h
      cases h
  exact ⟨results, s', hrun, _, abandoned_socket XorSuite.suite BufferCert.lib _ hrun (k := 0) rfl
    (.inr hforgot), rfl⟩

/-! ## Which sockets are closed -/

/-- Neither the stream getters of the network's sockets throw nor closing
them. -/
structure Network.Steady (N : Network M) : Prop where
  output : ∀ k, N.outputFails k = false
  input : ∀ k, N.inputFails k = false
  close : ∀ k, (N.wire k).closeFails = false

/-- The fields of the channel, and which of the sockets are closed. -/
def SocketWorld.view (w : SocketWorld M) : SocketDataChannelImpl × List Bool :=
  (w.channel, w.sockets.map Socket.closed)

/-- One entry of a list changed, seen through a projection. -/
theorem map_set_eq_modify {β : Type} {l : List α} {k : ℕ} {a b : α} (ha : l[k]? = some a)
    {f : α → β} {g : β → β} (h : f b = g (f a)) : (l.set k b).map f = (l.map f).modify k g := by
  obtain ⟨hlt, ha⟩ := List.getElem?_eq_some_iff.mp ha
  refine List.ext_getElem? fun j => ?_
  rw [List.map_set, h, List.getElem?_set, List.getElem?_modify, List.length_map]
  by_cases hkj : k = j
  · subst hkj
    simp [hlt, ha]
  · simp [hkj]

namespace SocketDataChannelImpl

variable {N : Network M} {w : SocketWorld M}

/-- A call on a socket, seen from outside. -/
theorem onSocket_view {k : ℕ} {x : EStateM Fault (Socket M) α} {b : Bool → Bool}
    (hx : ∀ s, (Effect.outcome x s).2.closed = b s.closed) :
    (Effect.outcome (onSocket k x) w).2.view =
      (w.channel, (w.sockets.map Socket.closed).modify k b) := by
  rw [SocketWorld.view, onSocket_channel]
  congr 1
  cases hk : w.sockets[k]? with
  | none =>
    have hmissing : onSocket k x w = .error (.java .nullPointerException "") w := by
      rw [onSocket, hk]
    have hlen : (w.sockets.map Socket.closed).length ≤ k := by
      rw [List.length_map]
      exact List.getElem?_eq_none_iff.mp hk
    rw [Effect.outcome_error hmissing, List.modify_eq_self hlen]
  | some s =>
    rw [outcome_onSocket hk]
    exact map_set_eq_modify hk (hx s)

/-- Reading and writing close nothing. -/
theorem send_view (m : Bytes) (v : SocketDataChannelImpl × List Bool) :
    Effect.Preserves (fun w : SocketWorld M => w.view = v) (fun _ => True) (send N m) := by
  refine onField_preserves _ fun w j hw _ => ?_
  rw [onSocket_view (b := id) fun s => (Socket.write_same ..).2, List.modify_id]
  exact hw

theorem recv_view (n : ℕ) (v : SocketDataChannelImpl × List Bool) :
    Effect.Preserves (fun w : SocketWorld M => w.view = v) (fun _ => True) (recv N n) := by
  refine onField_preserves _ fun w j hw _ => ?_
  rw [onSocket_view (b := id) fun s => (Socket.readFully_readFrom ..).closed, List.modify_id]
  exact hw

/-- Closing the socket behind one of the fields. -/
theorem onField_close {field : SocketDataChannelImpl → Option ℕ} {k : ℕ} {s : Socket M}
    (hfails : (N.wire k).closeFails = false) (hfield : field w.channel = some k)
    (hs : w.sockets[k]? = some s) :
    onField field (fun k => Socket.close (N.wire k)) w =
      .ok () { w with sockets := w.sockets.set k { s with closed := true } } := by
  have hclose : Socket.close (N.wire k) s = .ok () { s with closed := true } := by
    rw [Socket.close, hfails]
    exact if_neg fun h => Bool.false_ne_true h.1
  rw [onField_some hfield, onSocket, hs]
  dsimp only
  rw [hclose]

/-- **`close`**, when the three fields name one socket. -/
theorem close_eq {k : ℕ} {s : Socket M} (hfails : (N.wire k).closeFails = false)
    (hinput : w.channel.input = some k) (houtput : w.channel.output = some k)
    (hsocket : w.channel.socket = some k) (hs : w.sockets[k]? = some s) :
    close N w = .ok () { w with sockets := w.sockets.set k { s with closed := true } } := by
  have hself : (w.sockets.set k { s with closed := true })[k]? = some { s with closed := true } :=
    List.getElem?_set_self (List.getElem?_eq_some_iff.mp hs).1
  have hagain : ∀ field : SocketDataChannelImpl → Option ℕ, field w.channel = some k →
      onField field (fun k => Socket.close (N.wire k))
          { w with sockets := w.sockets.set k { s with closed := true } } =
        .ok () { w with sockets := w.sockets.set k { s with closed := true } } := by
    intro field hfield
    rw [onField_close (w := { w with sockets := w.sockets.set k { s with closed := true } }) hfails
      hfield hself, List.set_set]
  exact (Effect.bind_ok (onField_close hfails hinput hs)).trans
    ((Effect.bind_ok (hagain output houtput)).trans (hagain socket hsocket))

end SocketDataChannelImpl

/-! ### Along a run -/

/-- The three fields name the newest socket, or nothing while there is none. -/
structure Current (v : SocketDataChannelImpl × List Bool) : Prop where
  input : ∀ k, v.1.input = some k ↔ v.2.length = k + 1
  output : ∀ k, v.1.output = some k ↔ v.2.length = k + 1
  socket : ∀ k, v.1.socket = some k ↔ v.2.length = k + 1

/-- A channel that was just connected. -/
theorem Current.opened (host : String) (port : JInt) (closed : List Bool) :
    Current (⟨host, port, some closed.length, some closed.length, some closed.length⟩,
      closed ++ [false]) := by
  have hnewest : ∀ k, some closed.length = some k ↔ (closed ++ [false]).length = k + 1 := by
    intro k
    rw [Option.some_inj, List.length_append, List.length_singleton, Nat.add_right_cancel_iff]
  exact ⟨hnewest, hnewest, hnewest⟩

/-- Closing moves no field. -/
theorem Current.modify {v : SocketDataChannelImpl × List Bool} (h : Current v) (k : ℕ)
    (b : Bool → Bool) : Current (v.1, v.2.modify k b) := by
  obtain ⟨hinput, houtput, hsocket⟩ := h
  rw [← v.2.length_modify b k] at hinput houtput hsocket
  exact ⟨hinput, houtput, hsocket⟩

section

variable (V : Vccrypt) (C : Vccert) {N : Network M} (hN : N.Steady) {s : Session (SocketWorld M)}
include hN

/-- What opening a connection does to its sockets. -/
theorem connect_step_view (nonces : Nonces) :
    (Effect.outcome (ConnectionStep.run V C N (.connect nonces)) s).2.world.view = s.world.view ∨
    (Effect.outcome (ConnectionStep.run V C N (.connect nonces)) s).2.world.view =
      (⟨s.world.channel.host, s.world.channel.port, some s.world.view.2.length,
        some s.world.view.2.length, some s.world.view.2.length⟩, s.world.view.2 ++ [false]) := by
  have hshake : ∀ v, (Effect.outcome (SocketDataChannelImpl.connect N) s.world).2.view = v →
      (Effect.outcome (ConnectionStep.run V C N (.connect nonces)) s).2.world.view = v := by
    intro v hdial
    refine Effect.Preserves.outcome_bind (I := fun s : Session (SocketWorld M) => s.world.view = v)
      (E := fun _ => True) (fun _ => socket_handshake_preserves (J := fun w => w.view = v)
        (fun m => SocketDataChannelImpl.send_view m v)
        (fun n => SocketDataChannelImpl.recv_view n v) nonces) ?_
    rw [Handler.outcome_onWorld]
    exact hdial
  have hlen : s.world.view.2.length = s.world.sockets.length := List.length_map ..
  rcases SocketDataChannelImpl.connect_cases N s.world with
    herror | ⟨agent, r, output, input, hconnect, -, -, hboth⟩
  · refine .inl (hshake _ ?_)
    rw [Effect.outcome_error herror]
    rfl
  · refine .inr (hshake _ ?_)
    obtain ⟨rfl, rfl⟩ := hboth (hN.output _) (hN.input _)
    rw [hconnect, SocketWorld.view, hlen, List.map_append]
    rfl

/-- What closing it does. -/
theorem close_step_view (hcurrent : Current s.world.view) :
    (Effect.outcome (ConnectionStep.run V C N .close) s).2.world.view =
      (s.world.channel, s.world.view.2.modify (s.world.view.2.length - 1) fun _ => true) := by
  have hworld : (Effect.outcome (ConnectionStep.run V C N .close) s).2.world =
      (Effect.outcome (SocketDataChannelImpl.close N) s.world).2 := by
    rw [ConnectionStep.run, RemoteAgentConnection.close, Handler.outcome_onWorld]
  rw [hworld]
  have hlen : s.world.view.2.length = s.world.sockets.length := List.length_map ..
  cases hn : s.world.view.2.length with
  | zero =>
    -- nothing was ever opened: the field is `null`
    have hnull : s.world.channel.input = none := by
      refine Option.eq_none_iff_forall_ne_some.mpr fun k hk => ?_
      have hk := (hcurrent.input k).mp hk
      omega
    have hclose : SocketDataChannelImpl.close N s.world =
        .error (.java .nullPointerException "") s.world := by
      refine Effect.bind_error ?_
      rw [SocketDataChannelImpl.onField, hnull]
    rw [Effect.outcome_error hclose, List.modify_eq_self (by omega)]
    rfl
  | succ k =>
    obtain ⟨socket, hsocket⟩ : ∃ socket, s.world.sockets[k]? = some socket :=
      ⟨_, List.getElem?_eq_getElem (by omega)⟩
    rw [Effect.outcome_ok (SocketDataChannelImpl.close_eq (hN.close k) ((hcurrent.input k).mpr hn)
      ((hcurrent.output k).mpr hn) ((hcurrent.socket k).mpr hn) hsocket), Nat.add_sub_cancel]
    exact congrArg (Prod.mk _) (map_set_eq_modify hsocket rfl)

omit hN in
/-- The operations open and close nothing. -/
theorem submit_step_view (t : Certificate) :
    (Effect.outcome (ConnectionStep.run V C N (.submit t)) s).2.world.view = s.world.view :=
  (socket_submit_preserves (J := fun w => w.view = s.world.view)
    (fun m => SocketDataChannelImpl.send_view m _) (fun n => SocketDataChannelImpl.recv_view n _)
    t).outcome rfl

omit hN in
theorem query_step_view (op : Operation) :
    (Effect.outcome (ConnectionStep.run V C N (.query op)) s).2.world.view = s.world.view :=
  (socket_query_preserves (J := fun w => w.view = s.world.view)
    (fun m => SocketDataChannelImpl.send_view m _) (fun n => SocketDataChannelImpl.recv_view n _)
    op).outcome rfl

end

/-- The run closes the connection while the socket is the newest. -/
def ClosedBy (V : Vccrypt) (C : Vccert) (N : Network M) (start : Session (SocketWorld M))
    (steps : List ConnectionStep) (k : ℕ) : Prop :=
  ∃ done, done ++ [.close] <+: steps ∧
    (Effect.trace (ConnectionStep.run V C N) done start).2.world.sockets.length = k + 1

/-- One more call adds at most the newest socket. -/
theorem closedBy_concat {V : Vccrypt} {C : Vccert} {N : Network M}
    {start : Session (SocketWorld M)} {done : List ConnectionStep} {step : ConnectionStep} {k : ℕ} :
    ClosedBy V C N start (done ++ [step]) k ↔ ClosedBy V C N start done k ∨ (step = .close ∧
      (Effect.trace (ConnectionStep.run V C N) done start).2.world.sockets.length = k + 1) := by
  unfold ClosedBy
  simp only [List.prefix_concat_iff]
  constructor
  · rintro ⟨pre, heq | hprefix, hlen⟩
    · obtain ⟨rfl, hstep⟩ := List.append_inj' heq rfl
      exact .inr ⟨(List.cons.inj hstep).1.symm, hlen⟩
    · exact .inl ⟨pre, hprefix, hlen⟩
  · rintro (⟨pre, hprefix, hlen⟩ | ⟨rfl, hlen⟩)
    · exact ⟨pre, .inr hprefix, hlen⟩
    · exact ⟨done, .inl rfl, hlen⟩

/-- What a run has come to: the fields are current, exactly the sockets are
closed that a `close` found newest, and there were never more of them. -/
structure Tracked (V : Vccrypt) (C : Vccert) (N : Network M) (start : Session (SocketWorld M))
    (done : List ConnectionStep) (s : Session (SocketWorld M)) : Prop where
  current : Current s.world.view
  closed : ∀ {k b}, s.world.view.2[k]? = some b → (b = true ↔ ClosedBy V C N start done k)
  grown : ∀ {pre}, pre <+: done →
    (Effect.trace (ConnectionStep.run V C N) pre start).2.world.sockets.length ≤
      s.world.view.2.length

section

variable {V : Vccrypt} {C : Vccert} {N : Network M} {start s : Session (SocketWorld M)}
  {done : List ConnectionStep}

theorem Tracked.grown_concat {s' : Session (SocketWorld M)} {step : ConnectionStep}
    (h : Tracked V C N start done s)
    (hs' : (Effect.trace (ConnectionStep.run V C N) (done ++ [step]) start).2 = s')
    (hle : s.world.view.2.length ≤ s'.world.view.2.length) {pre : List ConnectionStep}
    (hpre : pre <+: done ++ [step]) :
    (Effect.trace (ConnectionStep.run V C N) pre start).2.world.sockets.length ≤
      s'.world.view.2.length := by
  rcases List.prefix_concat_iff.mp hpre with rfl | hpre
  · rw [hs']
    exact (List.length_map _).ge
  · exact (h.grown hpre).trans hle

/-- A call that closes nothing and opens nothing. -/
theorem Tracked.same {s' : Session (SocketWorld M)} {step : ConnectionStep} (hstep : step ≠ .close)
    (h : Tracked V C N start done s)
    (hs' : (Effect.trace (ConnectionStep.run V C N) (done ++ [step]) start).2 = s')
    (hview : s'.world.view = s.world.view) : Tracked V C N start (done ++ [step]) s' where
  current := hview ▸ h.current
  closed := by
    intro k b hb
    rw [hview] at hb
    rw [closedBy_concat, h.closed hb]
    exact (or_iff_left fun hclose => hstep hclose.1).symm
  grown := h.grown_concat hs' (by rw [hview])

/-- **One call.** -/
theorem Tracked.step (hN : N.Steady) (step : ConnectionStep)
    (h : Tracked V C N start done (Effect.trace (ConnectionStep.run V C N) done start).2) :
    Tracked V C N start (done ++ [step])
      (Effect.trace (ConnectionStep.run V C N) (done ++ [step]) start).2 := by
  obtain ⟨s, hs⟩ : ∃ s, (Effect.trace (ConnectionStep.run V C N) done start).2 = s := ⟨_, rfl⟩
  have hconcat : (Effect.trace (ConnectionStep.run V C N) (done ++ [step]) start).2 =
      (Effect.outcome (step.run V C N) s).2 := by
    rw [Effect.trace_concat, hs]
  have hlen : s.world.view.2.length = s.world.sockets.length := List.length_map ..
  rw [hs] at h
  cases step with
  | submit t => exact h.same (fun h => nomatch h) rfl (hconcat ▸ submit_step_view V C t)
  | query op => exact h.same (fun h => nomatch h) rfl (hconcat ▸ query_step_view V C op)
  | connect nonces =>
    rcases connect_step_view V C hN nonces (s := s) with hview | hview
    · exact h.same (fun h => nomatch h) rfl (hconcat ▸ hview)
    · rw [← hconcat] at hview
      refine ⟨?_, ?_, h.grown_concat rfl ?_⟩
      · rw [hview]
        exact .opened ..
      · intro k b hb
        rw [hview] at hb
        rw [closedBy_concat, or_iff_left fun hclose => nomatch hclose.1]
        rcases Nat.lt_or_ge k s.world.view.2.length with hlt | hge
        · rw [List.getElem?_append_left hlt] at hb
          exact h.closed hb
        · -- the new socket: no part of the run has seen as many
          have hnew : k = s.world.view.2.length ∧ false = b := by
            rw [List.getElem?_append_right hge, List.getElem?_singleton] at hb
            split at hb
            · exact ⟨by omega, Option.some.inj hb⟩
            · cases hb
          obtain ⟨rfl, rfl⟩ := hnew
          refine iff_of_false Bool.false_ne_true ?_
          rintro ⟨pre, hpre, hk⟩
          have hle := h.grown ((List.prefix_append pre [.close]).trans hpre)
          omega
      · rw [hview, List.length_append]
        omega
  | close =>
    have hview := close_step_view V C hN h.current
    rw [← hconcat] at hview
    refine ⟨?_, ?_, h.grown_concat rfl ?_⟩
    · rw [hview]
      exact h.current.modify ..
    · intro k b hb
      have hlt := (List.getElem?_eq_some_iff.mp hb).1
      rw [hview, List.length_modify] at hlt
      rw [hview, List.getElem?_modify] at hb
      obtain ⟨b', hb', rfl⟩ := Option.map_eq_some_iff.mp hb
      rw [closedBy_concat, hs, ← hlen]
      by_cases hnewest : s.world.view.2.length - 1 = k
      · rw [if_pos hnewest]
        exact iff_of_true rfl (.inr ⟨rfl, by omega⟩)
      · rw [if_neg hnewest, h.closed hb']
        exact (or_iff_left fun hclose => hnewest (by omega)).symm
    · rw [hview, List.length_modify]

end

/-- **Which sockets a connection closes.** In any run of calls on a new
connection, over a network whose stream getters and closings do not throw: a
socket has been closed by the end exactly if the run called `close` while it
was the newest. Every other socket the connection has made is still open, be
it that a handshake failed on it or that the connection was opened again. -/
theorem closed_iff (V : Vccrypt) (C : Vccert) {N : Network M} (hN : N.Steady)
    (config : RemoteAgentConfiguration) (entityId : UUID) (entityPrivateEncKey : Bytes)
    (steps : List ConnectionStep) {results : List (Except Fault Unit)}
    {s : Session (SocketWorld M)}
    (hrun : Effect.trace (ConnectionStep.run V C N) steps
      (RemoteAgentConnection.new config entityId entityPrivateEncKey) = (results, s))
    {k : ℕ} {socket : Socket M} (hsocket : s.world.sockets[k]? = some socket) :
    socket.closed = true ↔ ∃ done, done ++ [.close] <+: steps ∧
      (Effect.trace (ConnectionStep.run V C N) done
        (RemoteAgentConnection.new config entityId entityPrivateEncKey)).2.world.sockets.length =
        k + 1 := by
  have hstart : Tracked V C N (RemoteAgentConnection.new config entityId entityPrivateEncKey) []
      (RemoteAgentConnection.new config entityId entityPrivateEncKey) := by
    refine ⟨⟨fun _ => ⟨nofun, nofun⟩, fun _ => ⟨nofun, nofun⟩, fun _ => ⟨nofun, nofun⟩⟩, ?_, ?_⟩
    · intro k b hb
      cases hb
    · intro pre hpre
      rw [List.prefix_nil.mp hpre]
      exact Nat.zero_le _
  have hend : Tracked V C N (RemoteAgentConnection.new config entityId entityPrivateEncKey) steps
      (Effect.trace (ConnectionStep.run V C N) steps
        (RemoteAgentConnection.new config entityId entityPrivateEncKey)).2 := by
    refine Effect.trace_induction hstart ?_ steps (List.prefix_refl steps)
    intro done step _ h
    have hstep := h.step hN step
    rwa [Effect.trace_concat] at hstep
  rw [hrun] at hend
  refine hend.closed (k := k) ?_
  rw [SocketWorld.view, List.getElem?_map, hsocket]
  rfl

/-- A socket that was opened and not closed. -/
theorem closed_iff_trickle :
    ∃ results s, Effect.trace (ConnectionStep.run XorSuite.suite BufferCert.lib
        (trickle (M := refusingAgent.machine) AgentState.start)) [.connect openNonces]
        (RemoteAgentConnection.new ⟨"localhost", 4000, ⟨1, 1⟩, zeros 32⟩ refusingAgent.entityId
          (zeros 32)) = (results, s) ∧
      ∃ socket : Socket refusingAgent.machine,
        s.world.sockets[0]? = some socket ∧ socket.closed ≠ true := by
  have hclient : XorSuite.suite.IsKeyPair (zeros 32) refusingAgent.entityPublicKey :=
    openAgent_client ..
  have hreaches : (trickle (M := refusingAgent.machine) AgentState.start).Reaches
      ⟨"localhost", 4000, ⟨1, 1⟩, zeros 32⟩ AgentState.start := ⟨rfl, rfl, rfl, fun _ => rfl⟩
  have hsteady : (trickle (M := refusingAgent.machine) AgentState.start).Steady :=
    ⟨fun _ => rfl, fun _ => rfl, fun _ => rfl⟩
  obtain ⟨r, s, hconnect⟩ : ∃ r s, Effect.outcome (RemoteAgentConnection.connectSocket
      XorSuite.suite BufferCert.lib (trickle (M := refusingAgent.machine) AgentState.start)
      openNonces) (RemoteAgentConnection.new ⟨"localhost", 4000, ⟨1, 1⟩, zeros 32⟩
        refusingAgent.entityId (zeros 32)) = (r, s) := ⟨_, _, rfl⟩
  rcases hreaches.connectSocket XorSuite.suite_lawful BufferCert.lib hclient openNonces rfl rfl
    hconnect with hlost | ⟨-, hmirrors⟩
  · exact (not_threw_trickle _ _ _ hlost).elim
  obtain ⟨socket, hsocket, -⟩ := hmirrors.socket
  have hrun : Effect.trace (ConnectionStep.run XorSuite.suite BufferCert.lib
      (trickle (M := refusingAgent.machine) AgentState.start)) [.connect openNonces]
      (RemoteAgentConnection.new ⟨"localhost", 4000, ⟨1, 1⟩, zeros 32⟩ refusingAgent.entityId
        (zeros 32)) = ([r], s) := by
    rw [Effect.trace_cons, ConnectionStep.run, hconnect, Effect.trace_nil]
  refine ⟨[r], s, hrun, socket, hsocket, fun hclosed => ?_⟩
  obtain ⟨done, hdone, -⟩ := (closed_iff XorSuite.suite BufferCert.lib hsteady _ _ _ _ hrun
    hsocket).mp hclosed
  -- the run has one call, and that is no `close`
  have hmem : ConnectionStep.close ∈ [ConnectionStep.connect openNonces] :=
    hdone.subset (List.mem_append_right done List.mem_cons_self)
  cases List.mem_singleton.mp hmem

/-! ## A closed connection -/

/-- The stream that is written to belongs to a closed socket. -/
def SocketWorld.Shut (w : SocketWorld M) : Prop :=
  ∃ k socket, w.channel.output = some k ∧ w.sockets[k]? = some socket ∧ socket.closed = true

namespace SocketDataChannelImpl

variable {N : Network M} {w w' : SocketWorld M}

/-- What closing the socket of a field leaves. -/
theorem of_onField_close {field : SocketDataChannelImpl → Option ℕ}
    (h : onField field (fun k => Socket.close (N.wire k)) w = .ok () w') :
    ∃ k socket, field w.channel = some k ∧ w.sockets[k]? = some socket ∧
      w' = { w with sockets := w.sockets.set k { socket with closed := true } } := by
  unfold onField at h
  split at h
  · cases h
  · rename_i k hfield
    unfold onSocket at h
    split at h
    · cases h
    · rename_i socket hsocket
      refine ⟨k, socket, hfield, hsocket, ?_⟩
      unfold Socket.close at h
      split at h
      · rename_i hclose
        dsimp only at hclose
        split at hclose
        · cases hclose
        · cases hclose
          cases h
          rfl
      · cases h

/-- **After a `close` that returned** nothing can be written. -/
theorem shut_of_close (h : close N w = .ok () w') : w'.Shut := by
  obtain ⟨_, w₁, -, h⟩ := Effect.bind_eq_ok h
  obtain ⟨_, w₂, houtput, h⟩ := Effect.bind_eq_ok h
  obtain ⟨k, socket, hfield, hsocket, rfl⟩ := of_onField_close houtput
  obtain ⟨j, other, -, hother, rfl⟩ := of_onField_close h
  have hlt := (List.getElem?_eq_some_iff.mp hsocket).1
  have hself : (w₁.sockets.set k { socket with closed := true })[k]? =
      some { socket with closed := true } := List.getElem?_set_self hlt
  -- the third field may name another socket, or this one again
  by_cases hjk : j = k
  · subst hjk
    rw [hself] at hother
    obtain rfl := Option.some.inj hother
    exact ⟨j, _, hfield, List.getElem?_set_self (by rwa [List.length_set]), rfl⟩
  · exact ⟨k, _, hfield, (List.getElem?_set_ne hjk).trans hself, rfl⟩

theorem send_shut (h : w.Shut) (m : Bytes) :
    send N m w = .error (.java .ioException "Socket closed") w := by
  obtain ⟨k, socket, houtput, hsocket, hclosed⟩ := h
  obtain ⟨hlt, hs⟩ := List.getElem?_eq_some_iff.mp hsocket
  have hset : w.sockets.set k socket = w.sockets := by
    rw [← hs]
    exact List.set_getElem_self hlt
  rw [send, onField_some houtput, onSocket, hsocket]
  dsimp only
  rw [Socket.write_closed hclosed]
  dsimp only
  rw [hset]

end SocketDataChannelImpl

section

variable {V : Vccrypt} {C : Vccert} {N : Network M} {key : Bytes}

/-- The handler with `n` more packets to write counted. -/
def ProtocolHandlerImpl.sealed (h : ProtocolHandlerImpl) (n : ℕ) : ProtocolHandlerImpl :=
  { h with outerEnvelopeWriter := ⟨h.outerEnvelopeWriter.iv + BitVec.ofNat 64 n⟩ }

theorem ProtocolHandlerImpl.sealed_zero (h : ProtocolHandlerImpl) : h.sealed 0 = h := by
  rw [sealed, BitVec.add_zero]

theorem ProtocolHandlerImpl.sealed_sealed (h : ProtocolHandlerImpl) (m n : ℕ) :
    (h.sealed m).sealed n = h.sealed (m + n) := by
  simp only [sealed, BitVec.ofNat_add, BitVec.add_assoc]

/-- One call on a closed connection. -/
theorem shut_call (hV : V.Lawful) (hkey : V.Takes key) {h : ProtocolHandlerImpl}
    {w : SocketWorld M} (hsecret : h.sharedSecret = some key) (hshut : w.Shut) (op : Operation) :
    ∃ f, op.call (socketPlatform V C N) ⟨h, w⟩ =
      .error f ⟨h.sealed (requests C [op]).length, w⟩ := by
  have hconnected : h.sharedSecret ≠ none := by
    rw [hsecret]
    exact Option.some_ne_none key
  cases hr : op.request C with
  | error f =>
    refine ⟨f, ?_⟩
    rw [Operation.call_refused (P := socketPlatform V C N) (s := ⟨h, w⟩) hV hkey hsecret hr,
      requests_singleton_error hr, List.length_nil, h.sealed_zero]
  | ok r =>
    obtain ⟨hwritten, hfits⟩ := Operation.request_eq_ok_iff.mp hr
    refine ⟨_, (Operation.call_eq (P := socketPlatform V C N) (s := ⟨h, w⟩) hwritten
      hconnected).trans (Effect.bind_error (e := .java .ioException "Socket closed") ?_)⟩
    have hsealed := Handler.encryptPayload_eq (P := socketPlatform V C N) (s := ⟨h, w⟩) hV hkey
      hsecret hfits
    rw [requests_singleton_ok hr]
    unfold Handler.sendRequest
    rw [Effect.bind_ok (Effect.lift_ok ..), Effect.bind_ok hsealed]
    show Handler.onWorld (SocketDataChannelImpl.send N _) _ = _
    rw [Handler.onWorld, SocketDataChannelImpl.send_shut hshut]
    rfl

/-- Any run of them. -/
theorem shut_run (hV : V.Lawful) (hkey : V.Takes key) {h : ProtocolHandlerImpl}
    {w : SocketWorld M} (hsecret : h.sharedSecret = some key) (hshut : w.Shut)
    (ops : List Operation) {results : List (Except Fault Value)} {s : Session (SocketWorld M)}
    (hrun : Effect.trace (Operation.call (socketPlatform V C N)) ops ⟨h, w⟩ = (results, s)) :
    (∀ v, .ok v ∉ results) ∧ s.world = w ∧ s.handler = h.sealed (requests C ops).length := by
  induction ops generalizing h results with
  | nil =>
    cases hrun
    exact ⟨fun v => List.not_mem_nil, rfl, h.sealed_zero.symm⟩
  | cons op ops ih =>
    obtain ⟨f, hcall⟩ := shut_call (C := C) (N := N) hV hkey hsecret hshut op
    rw [Effect.trace_cons, Effect.outcome_error hcall] at hrun
    obtain ⟨rfl, hrest⟩ := Prod.mk.inj hrun
    have hsecret' : (h.sealed (requests C [op]).length).sharedSecret = some key := hsecret
    obtain ⟨hresults, hworld, hend⟩ := ih hsecret' (Prod.ext rfl hrest)
    refine ⟨fun v hv => ?_, hworld, ?_⟩
    · rcases List.mem_cons.mp hv with h | h
      · cases h
      · exact hresults v h
    · rw [hend, ProtocolHandlerImpl.sealed_sealed, ← List.length_append, ← requests_append]
      rfl

/-- **A closed connection answers nothing, and its calls still use up
counters.** After a `close` that returned, every operation of any run throws
and nothing is written to or read from any socket; but each of them that finds
a request to send seals it first, and the counter of the writer moves on. -/
theorem closed_calls (hV : V.Lawful) (hkey : V.Takes key) {s s' s'' : Session (SocketWorld M)}
    (hsecret : s.handler.sharedSecret = some key)
    (hclose : Effect.outcome (RemoteAgentConnection.close N) s = (.ok (), s'))
    (ops : List Operation) {results : List (Except Fault Value)}
    (hrun : Effect.trace (Operation.call (socketPlatform V C N)) ops s' = (results, s'')) :
    (∀ v, .ok v ∉ results) ∧ s''.world = s'.world ∧
      s''.handler = s.handler.sealed (requests C ops).length := by
  rw [RemoteAgentConnection.close, Handler.outcome_onWorld] at hclose
  obtain ⟨hresult, rfl⟩ := Prod.mk.inj hclose
  exact shut_run hV hkey hsecret
    (SocketDataChannelImpl.shut_of_close (Effect.ok_of_outcome hresult)) ops hrun

end

/-- A status query on a closed connection. -/
theorem closed_calls_status :
    ∃ s' results s'', Effect.outcome (RemoteAgentConnection.close
        (trickle (M := refusingAgent.machine) AgentState.start))
        ⟨{ refusingAgent.client (zeros 32) with sharedSecret := some (zeros 32) },
          trickling AgentState.start⟩ = (.ok (), s') ∧
      Effect.trace (Operation.call (socketPlatform XorSuite.suite BufferCert.lib
        (trickle (M := refusingAgent.machine) AgentState.start))) [.getConnectionStatus] s' =
        (results, s'') ∧
      (∀ v, .ok v ∉ results) ∧
      s''.handler.outerEnvelopeWriter.iv = OuterEnvelopeWriter.new.iv + 1 := by
  obtain ⟨s', hclose⟩ : ∃ s', Effect.outcome (RemoteAgentConnection.close
      (trickle (M := refusingAgent.machine) AgentState.start))
      ⟨{ refusingAgent.client (zeros 32) with sharedSecret := some (zeros 32) },
        trickling AgentState.start⟩ = (.ok (), s') := ⟨_, rfl⟩
  obtain ⟨results, s'', hrun⟩ : ∃ results s'', Effect.trace (Operation.call (socketPlatform
      XorSuite.suite BufferCert.lib (trickle (M := refusingAgent.machine) AgentState.start)))
      [.getConnectionStatus] s' = (results, s'') := ⟨_, _, rfl⟩
  obtain ⟨hresults, -, hhandler⟩ := closed_calls XorSuite.suite_lawful
    (XorSuite.suite_lawful.takes (length_zeros 32)) rfl hclose _ hrun
  refine ⟨s', results, s'', hclose, hrun, hresults, ?_⟩
  rw [hhandler]
  rfl

end VjBlockchain
