import VjBlockchain.Agentd.Correctness
import VjBlockchain.Agentd.Invariants
/-!
# Packet boundaries

A response reader that does not like what it reads throws. Where it throws
decides what the next operation finds: the request id and the status are
looked at when the whole packet has been taken off the channel and the
reader's counter has moved, but the size is looked at behind the header, with
the rest of the packet still in the channel and the counter where it was.

`InSync` says that every operation of a run leaves the channel between two
packets and reads the reply to its own request. That is the case exactly in
the runs whose replies all pass the size check of their reader, for replies
that carry anything at all.
-/

namespace VjBlockchain

open Common Common.Bytes Common.Throwing

/-- **The size a request's reader asks of a reply.** -/
def Request.Sized (n : ℕ) : Request → Prop
  | submit .. => n = 12
  | getLatestBlockId => n = 12 ∨ n = 28
  | _ => 12 ≤ n

theorem Request.expect_eq_ok_iff {r : Request} {n : ℕ} : r.expect n = .ok () ↔ r.Sized n := by
  cases r with
  | submit _ _ _ => exact check_eq_ok_iff
  | getLatestBlockId => exact check_eq_ok_iff
  | _ => exact check_eq_ok_iff.trans not_lt

section

variable {V : Vccrypt} {C : Vccert} {key : Bytes} {serverIv : BitVec 64} {reply : ℕ → Bytes}

/-- An agent in a session: it replies to the `n`-th message with an authentic
packet of its own, under the counter that is next. -/
def replier (V : Vccrypt) (key : Bytes) (serverIv : BitVec 64) (reply : ℕ → Bytes) :
    AgentMachine where
  State := ℕ
  react n _ := (n + 1, sealPacket V key (serverIv + BitVec.ofNat 64 n) (reply n))
  accepts _ _ := false

/-- The world of a session with that agent. -/
abbrev ReplierWorld (V : Vccrypt) (key : Bytes) (serverIv : BitVec 64) (reply : ℕ → Bytes) :=
  AgentWorld (replier V key serverIv reply)

/-- A platform with that agent behind its channel. -/
abbrev replierPlatform (V : Vccrypt) (C : Vccert) (key : Bytes) (serverIv : BitVec 64)
    (reply : ℕ → Bytes) : Platform (ReplierWorld V key serverIv reply) :=
  agentPlatform V C (replier V key serverIv reply) .reliable

/-- **Between two packets**, after `n` replies: all of them have been taken
off the channel, and the reader's counter has moved once for each. -/
structure AtBoundary (n : ℕ) (s : Session (ReplierWorld V key serverIv reply)) : Prop where
  secret : s.handler.sharedSecret = some key
  replied : s.world.agent = n
  inbox : s.world.inbox = []
  reader : s.handler.outerEnvelopeReader.iv = serverIv + BitVec.ofNat 64 n

/-- **A run in sync.** After every part of it the channel is between two
packets, and every operation that sends a request has the outcome that its
own reply decodes to. -/
structure InSync (C : Vccert) (s : Session (ReplierWorld V key serverIv reply))
    (ops : List Operation) : Prop where
  boundary : ∀ done, done <+: ops → AtBoundary (requests C done).length
    (Effect.trace (Operation.call (replierPlatform V C key serverIv reply)) done s).2
  own : ∀ done op r, done ++ [op] <+: ops → op.request C = .ok r →
    (Effect.outcome (op.call (replierPlatform V C key serverIv reply))
      (Effect.trace (Operation.call (replierPlatform V C key serverIv reply)) done s).2).1 =
      r.decode (reply (requests C done).length).length (reply (requests C done).length)

/-- Every reply of a run passes the size check of its reader. -/
def RepliesSized (C : Vccert) (reply : ℕ → Bytes) (ops : List Operation) : Prop :=
  ∀ done op r, done ++ [op] <+: ops → op.request C = .ok r →
    r.Sized (reply (requests C done).length).length

/-! ## A reply of the wrong size -/

/-- **The size check comes too early**: when it throws, the header is gone and
the rest of the packet is not, and the counter has not moved. -/
theorem Request.read_refused {M : AgentMachine} {h : ProtocolHandlerImpl} {w : AgentWorld M}
    (hV : V.Lawful) (hkey : V.Takes key) (hsecret : h.sharedSecret = some key) {r : Request}
    {p rest : Bytes} (hin : w.inbox = sealPacket V key h.outerEnvelopeReader.iv p ++ rest)
    (hmax : p.length ≤ MAX_PAYLOAD_SIZE) (hsize : ¬r.Sized p.length) :
    ∃ f, r.read (agentPlatform V C M .reliable) ⟨h, w⟩ =
      .error f ⟨h, w.took 1 (sealRest V key h.outerEnvelopeReader.iv p ++ rest)⟩ := by
  rw [sealPacket, List.append_assoc] at hin
  have hheader := Handler.recv_ok (V := V) (C := C) (h := h)
    (show Line.reliable.recvFails w.recvs = false from rfl) hin
    (length_sealHeader key h.outerEnvelopeReader.iv p.length)
  have hexpect : ∃ f, r.expect p.length = .error f := by
    cases hx : r.expect p.length with
    | ok u => exact absurd (expect_eq_ok_iff.mp hx) hsize
    | error f => exact ⟨f, rfl⟩
  obtain ⟨f, hf⟩ := hexpect
  have hlift : ∀ s : Session (AgentWorld M),
      (Effect.lift (r.expect p.length) : Handler (AgentWorld M) Unit) s = .error f s := by
    intro s
    rw [hf, Effect.lift_error]
  refine ⟨f, ?_⟩
  cases r with
  | submit _ _ _ =>
    exact (Effect.bind_ok hheader).trans <|
      (Effect.bind_ok (Handler.decryptHeader_ok hV hkey hsecret hmax)).trans
        (Effect.bind_error (hlift _))
  | _ =>
    exact (Effect.bind_ok hheader).trans <|
      (Effect.bind_ok (Handler.decryptHeader_ok hV hkey hsecret hmax)).trans
        (Effect.bind_error (hlift _))

/-! ## One call -/

section

variable (hV : V.Lawful) (hkey : V.Takes key)
  (hmax : ∀ n, (reply n).length ≤ MAX_PAYLOAD_SIZE)
include hV hkey

/-- The request of a call is sent, and its reply waits in the inbox. -/
theorem AtBoundary.call_sent {n : ℕ} {s : Session (ReplierWorld V key serverIv reply)}
    (hs : AtBoundary n s) {op : Operation} {r : Request} (hr : op.request C = .ok r) :
    ∃ w : ReplierWorld V key serverIv reply,
      op.call (replierPlatform V C key serverIv reply) s =
        r.read (replierPlatform V C key serverIv reply) ⟨s.handler.afterWrite, w⟩ ∧
      w.agent = n + 1 ∧
      w.inbox = sealPacket V key s.handler.afterWrite.outerEnvelopeReader.iv (reply n) ++ [] := by
  obtain ⟨h, w⟩ := s
  obtain ⟨hsecret, hreplied, hinbox, hreader⟩ := hs
  have hconnected : h.sharedSecret ≠ none := by
    rw [hsecret]
    exact Option.some_ne_none key
  obtain ⟨hwritten, hfits⟩ := Operation.request_eq_ok_iff.mp hr
  have hsent := Handler.sendRequest_ok (C := C) (M := replier V key serverIv reply)
    (w := w) hV hkey hsecret hfits (Line.reliable_sends w.sends)
  refine ⟨_, (Operation.call_eq (P := replierPlatform V C key serverIv reply) hwritten
    hconnected).trans (Effect.bind_ok hsent), ?_, ?_⟩
  · exact congrArg (fun replied : ℕ => replied + 1) hreplied
  · show w.inbox ++ sealPacket V key (serverIv + BitVec.ofNat 64 w.agent) (reply w.agent) =
      sealPacket V key h.outerEnvelopeReader.iv (reply n) ++ []
    rw [hinbox, hreplied, ← hreader, List.nil_append, List.append_nil]

include hmax

/-- **A reply of the right size** is taken off the channel in full, whatever
the operation makes of it. -/
theorem AtBoundary.call_sized {n : ℕ} {s : Session (ReplierWorld V key serverIv reply)}
    (hs : AtBoundary n s) {op : Operation} {r : Request} (hr : op.request C = .ok r)
    (hsize : r.Sized (reply n).length) :
    ∃ s', Effect.outcome (op.call (replierPlatform V C key serverIv reply)) s =
        (r.decode (reply n).length (reply n), s') ∧ AtBoundary (n + 1) s' := by
  obtain ⟨w, hcall, hagent, hin⟩ := hs.call_sent hV hkey hr
  have hsecret : s.handler.afterWrite.sharedSecret = some key := hs.secret
  rcases Request.read_packet C .reliable hV hkey hsecret hin (hmax n)
    (Request.expect_eq_ok_iff.mpr hsize) with hbroken | ⟨m, hread⟩
  · exact hbroken.elim fun _ _ => rfl
  · refine ⟨⟨s.handler.afterWrite.afterRead, w.took m []⟩, ?_, hs.secret, hagent, rfl, ?_⟩
    · rw [Effect.outcome, hcall.trans hread]
      exact Effect.outcome_lift ..
    · show s.handler.outerEnvelopeReader.iv + 1 = _
      rw [hs.reader, BitVec.ofNat_add, BitVec.add_assoc]
      rfl

/-- **A reply of a wrong size** leaves octets in the channel. -/
theorem AtBoundary.call_unsized {n m : ℕ} {s : Session (ReplierWorld V key serverIv reply)}
    (hs : AtBoundary n s) {op : Operation} {r : Request} (hr : op.request C = .ok r)
    (hsize : ¬r.Sized (reply n).length) :
    ¬AtBoundary m (Effect.outcome (op.call (replierPlatform V C key serverIv reply)) s).2 := by
  obtain ⟨w, hcall, hagent, hin⟩ := hs.call_sent hV hkey hr
  have hsecret : s.handler.afterWrite.sharedSecret = some key := hs.secret
  obtain ⟨f, hread⟩ := Request.read_refused (C := C) hV hkey hsecret hin (hmax n) hsize
  rw [Effect.outcome_error (hcall.trans hread)]
  intro hend
  have hlen := congrArg List.length hend.inbox
  change (sealRest V key _ (reply n) ++ []).length = 0 at hlen
  rw [List.append_nil, length_sealRest hV] at hlen
  omega

/-! ## Runs -/

/-- **Runs are in sync exactly when their replies have the right sizes.** From
a session between two packets, with any operations in any order and any
authentic replies of up to 10 MiB: every operation leaves the channel between
two packets and reads the reply to its own request, if and only if every
reply passes the size check of the reader that reads it. -/
theorem inSync_iff {s : Session (ReplierWorld V key serverIv reply)} (hs : AtBoundary 0 s)
    (ops : List Operation) : InSync C s ops ↔ RepliesSized C reply ops := by
  have hcount : ∀ (done : List Operation) {op r}, op.request C = .ok r →
      (requests C (done ++ [op])).length = (requests C done).length + 1 := by
    intro done op r hr
    rw [requests_append, requests_singleton_ok hr, List.length_append, List.length_singleton]
  constructor
  · intro hsync done op r hprefix hr
    by_contra hsize
    have hbefore := hsync.boundary done ((List.prefix_append ..).trans hprefix)
    have hafter := hsync.boundary _ hprefix
    rw [Effect.trace_concat] at hafter
    exact hbefore.call_unsized hV hkey hmax hr hsize hafter
  · intro hsized
    have hboundary : ∀ done, done <+: ops → AtBoundary (requests C done).length
        (Effect.trace (Operation.call (replierPlatform V C key serverIv reply)) done s).2 := by
      refine Effect.trace_induction (P := fun done (s : Session (ReplierWorld V key serverIv reply))
        => AtBoundary (requests C done).length s) hs ?_
      intro done op hprefix ih
      cases hr : op.request C with
      | ok r =>
        obtain ⟨s', hcall, hend⟩ := ih.call_sized hV hkey hmax hr (hsized done op r hprefix hr)
        rw [hcall, hcount done hr]
        exact hend
      | error f =>
        -- no request, no reply, nothing changed
        have hsame : requests C (done ++ [op]) = requests C done := by
          rw [requests_append, requests_singleton_error hr, List.append_nil]
        have hthrows := Operation.call_refused (P := replierPlatform V C key serverIv reply) hV
          hkey ih.secret hr
        rw [hsame, Effect.outcome_error hthrows]
        exact ih
    refine ⟨hboundary, fun done op r hprefix hr => ?_⟩
    obtain ⟨s', hcall, -⟩ := (hboundary done ((List.prefix_append ..).trans hprefix)).call_sized hV
      hkey hmax hr (hsized done op r hprefix hr)
    rw [hcall]

end

end

/-- A session as a handshake leaves it, under a key of zeros. -/
def openBoundary (reply : ℕ → Bytes) :
    Session (ReplierWorld XorSuite.suite (zeros 32) 0x8000000000000002 reply) :=
  ⟨{ refusingAgent.client (zeros 32) with
      sharedSecret := some (zeros 32)
      outerEnvelopeWriter := ⟨0x0000000000000002⟩
      outerEnvelopeReader := ⟨0x8000000000000002⟩ },
    .start (M := replier XorSuite.suite (zeros 32) 0x8000000000000002 reply) (0 : ℕ)⟩

theorem openBoundary_atBoundary (reply : ℕ → Bytes) : AtBoundary 0 (openBoundary reply) :=
  ⟨rfl, rfl, rfl, rfl⟩

/-- A bad request id is thrown at behind the packet. -/
theorem inSync_iff_badId :
    (∀ _ : ℕ, (zeros 28).length ≤ MAX_PAYLOAD_SIZE) ∧
      InSync BufferCert.lib (openBoundary fun _ => zeros 28)
        [.getLatestBlockId, .getNextBlockId ⟨0, 1⟩] := by
  have hmax : ∀ _ : ℕ, (zeros 28).length ≤ MAX_PAYLOAD_SIZE := fun _ => by decide
  refine ⟨hmax, (inSync_iff XorSuite.suite_lawful
    (XorSuite.suite_lawful.takes (length_zeros 32)) hmax (openBoundary_atBoundary _) _).mpr ?_⟩
  intro done op r hprefix hr
  have hmem := hprefix.subset (List.mem_append_right done (List.mem_singleton_self op))
  rcases List.mem_pair.mp hmem with rfl | rfl
  · cases hr
    exact .inr rfl
  · cases hr
    exact (by decide : 12 ≤ 28)

/-- **An operation that rejects a reply leaves it in the channel.** A reply of
eight octets is too short for `getNextBlockId`, which throws behind the
header: forty octets stay in the channel, the counter stays where it was, and
the next operation takes them for a header. -/
theorem reply_left_behind :
    let run := Effect.trace (Operation.call (replierPlatform XorSuite.suite BufferCert.lib
      (zeros 32) 0x8000000000000002 fun _ => zeros 8))
    (run [.getNextBlockId ⟨0, 1⟩, .getConnectionStatus] (openBoundary fun _ => zeros 8)).1 =
        [.error (.java .invalidPayloadSizeException
            "Invalid payload size (8). Expected at least 12 bytes."),
          .error (.illegalState "invalid packet type")] ∧
      (run [.getNextBlockId ⟨0, 1⟩] (openBoundary fun _ => zeros 8)).2.world.inbox.length = 40 ∧
      (run [.getNextBlockId ⟨0, 1⟩] (openBoundary fun _ => zeros 8)).2.handler.outerEnvelopeReader =
        (openBoundary fun _ => zeros 8).handler.outerEnvelopeReader ∧
      ¬InSync BufferCert.lib (openBoundary fun _ => zeros 8)
        [.getNextBlockId ⟨0, 1⟩, .getConnectionStatus] := by
  have hleft : (Effect.trace (Operation.call (replierPlatform XorSuite.suite BufferCert.lib
      (zeros 32) 0x8000000000000002 fun _ => zeros 8)) [.getNextBlockId ⟨0, 1⟩]
      (openBoundary fun _ => zeros 8)).2.world.inbox.length = 40 := by decide +kernel
  refine ⟨by decide +kernel, hleft, by decide +kernel, fun hsync => ?_⟩
  have hend := hsync.boundary [.getNextBlockId ⟨0, 1⟩] (List.prefix_append [_] [_])
  rw [hend.inbox] at hleft
  cases hleft

end VjBlockchain
