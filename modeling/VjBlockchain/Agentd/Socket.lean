import VjBlockchain.Agentd.World
import VjBlockchain.Common.Source
/-!
# The channel over a socket

`SocketDataChannelImpl`: a channel whose `connect` asks a socket factory for
a socket and wraps its two streams, whose `send` writes a message in one
call, and whose `recv` fills an array with as many reads as that takes.

The network behind the factory is a parameter. It says which calls throw and
how the stream that comes back is split, socket by socket; a write that
throws hands nothing over. The peer of a socket is an agent machine, as
behind the plain channel, and its octets wait in the stream until they are
read.
-/

namespace VjBlockchain

open Common Common.Bytes Common.Throwing

/-- What happens to the calls on one socket: how much each read returns,
which reads and which writes throw, counted from its opening, and whether
closing it does. -/
structure Wire where
  pieces : ℕ → ℕ
  readFails : ℕ → Bool
  writeFails : ℕ → Bool
  closeFails : Bool

/-- What is behind a `SocketFactory`. -/
structure Network (M : AgentMachine) where
  /-- The peer that a call of `createSocket` reaches, unless it throws; the
  calls are counted. -/
  peer : String → JInt → ℕ → Option M.State
  /-- The wire of each socket, in the order they were created. -/
  wire : ℕ → Wire
  /-- `getOutputStream` throws. -/
  outputFails : ℕ → Bool
  /-- `getInputStream` throws. -/
  inputFails : ℕ → Bool

/-- A socket, and the peer behind it. -/
structure Socket (M : AgentMachine) where
  agent : M.State
  /-- What the peer sent and nobody read. -/
  input : Source
  reads : ℕ
  writes : ℕ
  delivered : List Bytes
  closed : Bool

/-- The fields of a channel. A stream is named by its socket. -/
structure SocketDataChannelImpl where
  host : String
  port : JInt
  socket : Option ℕ
  output : Option ℕ
  input : Option ℕ
  deriving DecidableEq, Repr

/-- The constructor: a disconnected channel. -/
def SocketDataChannelImpl.new (host : String) (port : JInt) : SocketDataChannelImpl :=
  ⟨host, port, none, none, none⟩

/-- A channel, and every socket its factory has made. -/
structure SocketWorld (M : AgentMachine) where
  channel : SocketDataChannelImpl
  sockets : List (Socket M)
  dials : ℕ

/-- What `readFully` throws at the end of a stream. -/
def eofException : Fault := .java (.other "EOFException") ""

variable {M : AgentMachine}

/-! ## One socket -/

namespace Socket

/-- A socket just connected to a peer. -/
def opened (agent : M.State) (wire : Wire) : Socket M := ⟨agent, ⟨[], wire.pieces⟩, 0, 0, [], false⟩

/-- A message handed over: the peer reacts at once. -/
def deliver (s : Socket M) (message : Bytes) : Socket M :=
  { s with
    agent := (M.react s.agent message).1
    input := { s.input with remaining := s.input.remaining ++ (M.react s.agent message).2 }
    writes := s.writes + 1
    delivered := s.delivered ++ [message] }

/-- A write of one message. -/
def write (wire : Wire) (message : Bytes) : EStateM Fault (Socket M) Unit := fun s =>
  if s.closed then .error (.java .ioException "Socket closed") s
  else if wire.writeFails s.writes then
    .error (.java .ioException "") { s with writes := s.writes + 1 }
  else .ok () (s.deliver message)

/-- A read for up to `n` octets: `none` at the end of the stream. -/
def read (wire : Wire) (n : ℕ) : EStateM Fault (Socket M) (Option Bytes) := fun s =>
  if s.closed then .error (.java .ioException "Socket closed") s
  else if wire.readFails s.reads then
    .error (.java .ioException "") { s with reads := s.reads + 1 }
  else match s.input.read n with
    | none => .ok none { s with reads := s.reads + 1 }
    | some (piece, input) => .ok (some piece) { s with input := input, reads := s.reads + 1 }

/-- What a read that returned octets took. -/
theorem of_read_some {wire : Wire} {n : ℕ} {s s' : Socket M} {piece : Bytes}
    (h : read wire n s = .ok (some piece) s') :
    ∃ input, s.input.read n = some (piece, input) ∧
      s' = { s with input := input, reads := s.reads + 1 } := by
  unfold read at h
  split at h
  · cases h
  · split at h
    · cases h
    · split at h
      · cases h
      · rename_i piece' input hread
        cases h
        exact ⟨input, hread, rfl⟩

/-- `DataInputStream.readFully`, for the `n` octets that are still missing. -/
def readFully (wire : Wire) (n : ℕ) (s : Socket M) : EStateM.Result Fault (Socket M) Bytes :=
  if n = 0 then .ok [] s
  else match _h : read wire n s with
    | .error f s' => .error f s'
    | .ok none s' => .error eofException s'
    | .ok (some piece) s' =>
      match readFully wire (n - piece.length) s' with
      | .ok rest s'' => .ok (piece ++ rest) s''
      | .error f s'' => .error f s''
termination_by n
decreasing_by
  obtain ⟨input, hread, -⟩ := of_read_some _h
  obtain ⟨-, hpos, -⟩ := Source.read_eq_some (Nat.pos_of_ne_zero ‹_›) hread
  omega

/-- `close` of the socket or of one of its streams. -/
def close (wire : Wire) : EStateM Fault (Socket M) Unit := fun s =>
  if wire.closeFails ∧ s.closed = false then .error (.java .ioException "") s
  else .ok () { s with closed := true }

end Socket

/-! ## The channel -/

namespace SocketDataChannelImpl

variable {α : Type} (N : Network M)

/-- A call on one of the sockets. -/
def onSocket (k : ℕ) (x : EStateM Fault (Socket M) α) : EStateM Fault (SocketWorld M) α := fun w =>
  match w.sockets[k]? with
  | none => .error (.java .nullPointerException "") w
  | some s =>
    match x s with
    | .ok a s' => .ok a { w with sockets := w.sockets.set k s' }
    | .error f s' => .error f { w with sockets := w.sockets.set k s' }

/-- A call on the socket behind one of the fields, which must not be `null`. -/
def onField (field : SocketDataChannelImpl → Option ℕ) (x : ℕ → EStateM Fault (Socket M) α) :
    EStateM Fault (SocketWorld M) α := fun w =>
  match field w.channel with
  | none => .error (.java .nullPointerException "") w
  | some k => onSocket k (x k) w

/-- `socketFactory.createSocket(host, port)`, and the assignment of the field. -/
def createSocket : EStateM Fault (SocketWorld M) ℕ := fun w =>
  match N.peer w.channel.host w.channel.port w.dials with
  | none => .error (.java .ioException "") { w with dials := w.dials + 1 }
  | some agent =>
    .ok w.sockets.length
      { channel := { w.channel with socket := some w.sockets.length }
        sockets := w.sockets ++ [.opened agent (N.wire w.sockets.length)]
        dials := w.dials + 1 }

/-- `out = new DataOutputStream(socket.getOutputStream())`. -/
def openOutput (k : ℕ) : EStateM Fault (SocketWorld M) Unit := fun w =>
  if N.outputFails k then .error (.java .ioException "") w
  else .ok () { w with channel := { w.channel with output := some k } }

/-- `in = new DataInputStream(socket.getInputStream())`. -/
def openInput (k : ℕ) : EStateM Fault (SocketWorld M) Unit := fun w =>
  if N.inputFails k then .error (.java .ioException "") w
  else .ok () { w with channel := { w.channel with input := some k } }

def connect : EStateM Fault (SocketWorld M) Unit := do
  let k ← createSocket N
  openOutput N k
  openInput N k

def close : EStateM Fault (SocketWorld M) Unit := do
  onField input fun k => Socket.close (N.wire k)
  onField output fun k => Socket.close (N.wire k)
  onField socket fun k => Socket.close (N.wire k)

def send (message : Bytes) : EStateM Fault (SocketWorld M) Unit :=
  onField output fun k => Socket.write (N.wire k) message

def recv (nBytes : ℕ) : EStateM Fault (SocketWorld M) Bytes :=
  onField input fun k => Socket.readFully (N.wire k) nBytes

end SocketDataChannelImpl

/-- The channel as the handler sees it. -/
def socketChannel (N : Network M) : DataChannel (SocketWorld M) :=
  ⟨SocketDataChannelImpl.send N, SocketDataChannelImpl.recv N⟩

/-- A platform whose channel is a socket's. -/
def socketPlatform (V : Vccrypt) (C : Vccert) (N : Network M) : Platform (SocketWorld M) :=
  ⟨V, C, socketChannel N⟩

/-! ## What reading does -/

/-- A read of this socket has thrown. -/
def Socket.Threw (wire : Wire) (s : Socket M) : Prop := ∃ j < s.reads, wire.readFails j = true

/-- What reading leaves as it was. -/
structure Socket.ReadFrom (s s' : Socket M) : Prop where
  agent : s'.agent = s.agent
  writes : s'.writes = s.writes
  delivered : s'.delivered = s.delivered
  closed : s'.closed = s.closed
  reads : s.reads ≤ s'.reads

namespace Socket

variable {wire : Wire} {n : ℕ} {s : Socket M}

theorem ReadFrom.refl (s : Socket M) : ReadFrom s s := ⟨rfl, rfl, rfl, rfl, le_rfl⟩

theorem ReadFrom.trans {s' s'' : Socket M} (h : ReadFrom s s') (h' : ReadFrom s' s'') :
    ReadFrom s s'' :=
  ⟨h'.agent.trans h.agent, h'.writes.trans h.writes, h'.delivered.trans h.delivered,
    h'.closed.trans h.closed, h.reads.trans h'.reads⟩

/-- **One read** of an open socket throws, finds the end of the stream, or
returns the next piece. -/
theorem read_cases (wire : Wire) (n : ℕ) (hopen : s.closed = false) :
    (wire.readFails s.reads = true ∧
      read wire n s = .error (.java .ioException "") { s with reads := s.reads + 1 }) ∨
    (s.input.read n = none ∧ read wire n s = .ok none { s with reads := s.reads + 1 }) ∨
    ∃ piece input, s.input.read n = some (piece, input) ∧
      read wire n s = .ok (some piece) { s with input := input, reads := s.reads + 1 } := by
  unfold read
  rw [hopen, if_neg Bool.false_ne_true]
  cases hfails : wire.readFails s.reads with
  | true => exact .inl ⟨rfl, if_pos rfl⟩
  | false =>
    rw [if_neg Bool.false_ne_true]
    cases hread : s.input.read n with
    | none => exact .inr (.inl ⟨rfl, rfl⟩)
    | some r => exact .inr (.inr ⟨r.1, r.2, rfl, rfl⟩)

theorem readFully_zero (wire : Wire) (s : Socket M) : readFully wire 0 s = .ok [] s := by
  rw [readFully, if_pos rfl]

theorem readFully_error (hn : n ≠ 0) {f : Fault} {s' : Socket M}
    (h : read wire n s = .error f s') : readFully wire n s = .error f s' := by
  rw [readFully, if_neg hn]
  split
  · rename_i h'
    cases h.symm.trans h'
    rfl
  · rename_i h'
    cases h.symm.trans h'
  · rename_i h'
    cases h.symm.trans h'

theorem readFully_end (hn : n ≠ 0) {s' : Socket M} (h : read wire n s = .ok none s') :
    readFully wire n s = .error eofException s' := by
  rw [readFully, if_neg hn]
  split
  · rename_i h'
    cases h.symm.trans h'
  · rename_i h'
    cases h.symm.trans h'
    rfl
  · rename_i h'
    cases h.symm.trans h'

/-- Behind a piece `readFully` goes on with what is still missing. -/
theorem readFully_more (hn : n ≠ 0) {piece : Bytes} {s' : Socket M}
    (h : read wire n s = .ok (some piece) s') :
    readFully wire n s =
      match readFully wire (n - piece.length) s' with
      | .ok rest s'' => .ok (piece ++ rest) s''
      | .error f s'' => .error f s'' := by
  rw [readFully, if_neg hn]
  split
  · rename_i h'
    cases h.symm.trans h'
  · rename_i h'
    cases h.symm.trans h'
  · rename_i h'
    cases h.symm.trans h'
    rfl

theorem read_readFrom (wire : Wire) (n : ℕ) (s : Socket M) :
    s.ReadFrom (Effect.outcome (read wire n) s).2 := by
  cases hopen : s.closed with
  | true =>
    have hread : read wire n s = .error (.java .ioException "Socket closed") s := if_pos hopen
    rw [Effect.outcome_error hread]
    exact .refl s
  | false =>
    rcases read_cases wire n hopen with ⟨-, hread⟩ | ⟨-, hread⟩ | ⟨piece, input, -, hread⟩
    · rw [Effect.outcome_error hread]
      exact ⟨rfl, rfl, rfl, rfl, Nat.le_succ _⟩
    · rw [Effect.outcome_ok hread]
      exact ⟨rfl, rfl, rfl, rfl, Nat.le_succ _⟩
    · rw [Effect.outcome_ok hread]
      exact ⟨rfl, rfl, rfl, rfl, Nat.le_succ _⟩

/-- Whichever way it ends, `readFully` only reads. -/
theorem readFully_readFrom (wire : Wire) (n : ℕ) (s : Socket M) :
    s.ReadFrom (Effect.outcome (readFully wire n) s).2 := by
  induction n using Nat.strong_induction_on generalizing s with
  | h n ih =>
    by_cases hn : n = 0
    · subst hn
      rw [Effect.outcome_ok (readFully_zero wire s)]
      exact .refl s
    have hone := read_readFrom wire n s
    cases hread : read wire n s with
    | error f s' =>
      rw [Effect.outcome_error hread] at hone
      rw [Effect.outcome_error (readFully_error hn hread)]
      exact hone
    | ok piece s' =>
      rw [Effect.outcome_ok hread] at hone
      cases piece with
      | none =>
        rw [Effect.outcome_error (readFully_end hn hread)]
        exact hone
      | some piece =>
        obtain ⟨input, hpiece, -⟩ := of_read_some hread
        obtain ⟨-, hpos, -⟩ := Source.read_eq_some (Nat.pos_of_ne_zero hn) hpiece
        have hrest := ih (n - piece.length) (by omega) s'
        have hmore := readFully_more hn hread
        cases hgo : readFully wire (n - piece.length) s' with
        | ok rest s'' =>
          rw [hgo] at hmore
          rw [Effect.outcome_ok hgo] at hrest
          rw [Effect.outcome_ok hmore]
          exact hone.trans hrest
        | error f s'' =>
          rw [hgo] at hmore
          rw [Effect.outcome_error hgo] at hrest
          rw [Effect.outcome_error hmore]
          exact hone.trans hrest

/-- **`readFully` does not care how the stream is split.** On an open socket
it ends because a read threw, or because the stream is shorter than the
array, or it returns the octets at the front of the stream. -/
theorem readFully_cases (wire : Wire) (n : ℕ) (hopen : s.closed = false) :
    (∃ f s', readFully wire n s = .error f s' ∧ s'.Threw wire) ∨
    (s.input.remaining.length < n ∧ ∃ f s', readFully wire n s = .error f s') ∨
    (n ≤ s.input.remaining.length ∧ ∃ s', readFully wire n s = .ok (s.input.remaining.take n) s' ∧
      s.ReadFrom s' ∧ s'.input.remaining = s.input.remaining.drop n) := by
  induction n using Nat.strong_induction_on generalizing s with
  | h n ih =>
    by_cases hn : n = 0
    · subst hn
      exact .inr (.inr ⟨Nat.zero_le _, s, readFully_zero wire s, .refl s, rfl⟩)
    rcases read_cases wire n hopen with ⟨hfails, hread⟩ | ⟨hend, hread⟩ |
      ⟨piece, input, hpiece, hread⟩
    · exact .inl ⟨_, _, readFully_error hn hread, s.reads, Nat.lt_succ_self _, hfails⟩
    · refine .inr (.inl ⟨?_, _, _, readFully_end hn hread⟩)
      rw [Source.read_eq_none_iff.mp hend]
      exact Nat.pos_of_ne_zero hn
    · obtain ⟨hsplit, hpos, hle⟩ := Source.read_eq_some (Nat.pos_of_ne_zero hn) hpiece
      have hmore := readFully_more hn hread
      have hlen : s.input.remaining.length = piece.length + input.remaining.length := by
        rw [hsplit, List.length_append]
      rcases ih (n - piece.length) (by omega)
        (s := { s with input := input, reads := s.reads + 1 }) hopen with
        ⟨f, s', hrest, hthrew⟩ | ⟨hshort, f, s', hrest⟩ | ⟨henough, s', hrest, hfrom, hleft⟩
      · rw [hrest] at hmore
        exact .inl ⟨f, s', hmore, hthrew⟩
      · rw [hrest] at hmore
        refine .inr (.inl ⟨?_, f, s', hmore⟩)
        have hshort : input.remaining.length < n - piece.length := hshort
        omega
      · rw [hrest] at hmore
        have henough : n - piece.length ≤ input.remaining.length := henough
        have htake : s.input.remaining.take n =
            piece ++ input.remaining.take (n - piece.length) := by
          rw [hsplit, List.take_append, List.take_of_length_le hle]
        have hdrop : s.input.remaining.drop n = input.remaining.drop (n - piece.length) := by
          rw [hsplit, List.drop_append, List.drop_of_length_le hle, List.nil_append]
        have hfirst : s.ReadFrom { s with input := input, reads := s.reads + 1 } :=
          ⟨rfl, rfl, rfl, rfl, Nat.le_succ _⟩
        rw [htake, hdrop]
        exact .inr (.inr ⟨by omega, s', hmore, hfirst.trans hfrom, hleft⟩)

end Socket

end VjBlockchain
