import VjBlockchain.Agentd.Handler
import VjBlockchain.Agentd.Layout
/-!
# Answers

The other half of the tables: an `Answer` is what a response packet carries
besides the request id it repeats, `LaidOut` says which answers the table of
a request allows, and `Request.result` what such an answer means to the
caller. The readers of `ProtocolHandlerImpl` differ in the size they expect
and in what they do with the body; `expect` and `decode` name both for each
request, and every one of them reads a laid-out answer as it is meant.

Every string of at least twelve octets is the payload of some answer to some
request id, so what is shown of `Answer.payload` is shown of every payload.
-/

namespace VjBlockchain

open Common Common.Bytes Common.Throwing ByteUtil UuidUtil

/-- What a response packet carries besides the request id. -/
structure Answer where
  status : JInt
  offset : JInt
  body : Bytes
  deriving DecidableEq, Repr

/-- A response as the tables lay it out. -/
def Answer.payload (reqId : JInt) (a : Answer) : Bytes :=
  htonl reqId ++ (htonl a.status ++ (htonl a.offset ++ a.body))

namespace Request

/-- The size of a body that brings the table of the request in full. -/
def FullTable (n : ℕ) : Request → Prop
  | submit .. | getConnectionStatus => n = 0
  | getBlockById _ => 16 * 4 + 8 * 2 ≤ n
  | getTransactionById _ => 16 * 5 + 8 * 1 + 4 * 1 ≤ n
  | _ => n = 16

/-- **A response laid out as the request's table**: in full, or cut off behind
a bad status; its payload within the limit. -/
structure LaidOut (r : Request) (a : Answer) : Prop where
  table : r.FullTable a.body.length ∨ a.status ≠ 0 ∧ a.body = []
  limit : 12 + a.body.length ≤ MAX_PAYLOAD_SIZE

/-- An optional identifier in an answer. -/
def optUuid (a : Answer) : Option UUID := if a.status = 0 then some (halves a.body) else none

/-- An optional certificate behind `n` octets of an answer's body; an empty
one is none. -/
def optCertificate (n : ℕ) (a : Answer) : Option Certificate :=
  if a.status = 0 ∧ n < a.body.length then some ⟨a.body.drop n⟩ else none

/-- **What an answer means to the caller.** A submission has no value to
give. -/
def result (a : Answer) : Request → Except Fault Value
  | submit .. => .ok .void
  | getLatestBlockId =>
    if a.status = 0 then .ok (.uuid (halves a.body))
    else .error (.java .ioException "bad status code in call.")
  | getBlockById _ => .ok (.optCertificate (optCertificate 80 a))
  | getTransactionById _ => .ok (.optCertificate (optCertificate 92 a))
  | getConnectionStatus => .ok (.int (if a.status = 0 then 0 else 1))
  | _ => .ok (.optUuid (optUuid a))

/-- The size check of the request's reader. -/
def expect : Request → ℕ → Except Fault Unit
  | submit .. => expectTwelve "). Expected 12 bytes."
  | getLatestBlockId => expectTwelveOrUuid
  | _ => expectAtLeastTwelve

/-- What the request's reader makes of a payload of a size. -/
def decode (r : Request) (payloadSize : ℕ) (p : Bytes) : Except Fault Value :=
  match r with
  | submit .. => do
    let _ ← decodeSubmit p
    .ok .void
  | getLatestBlockId => do .ok (.uuid (← decodeLatest payloadSize p))
  | getBlockById _ => do
    .ok (.optCertificate (← decodeCertificate r.id (3 * 4 + 16 * 4 + 8 * 2) payloadSize p))
  | getTransactionById _ => do
    .ok (.optCertificate (← decodeCertificate r.id (3 * 4 + 16 * 5 + 8 * 1 + 4 * 1) payloadSize p))
  | getConnectionStatus => do .ok (.int (← decodeConnectionStatus p))
  | _ => do .ok (.optUuid (← decodeOptUuid r.id payloadSize p))

end Request

/-! ## The fields of a payload -/

section Payload

variable (a : Answer) (reqId : JInt)

@[simp] theorem length_payload : (a.payload reqId).length = 12 + a.body.length := by
  simp only [Answer.payload, List.length_append, length_htonl]
  omega

/-- Every payload long enough for a table is some answer's. -/
theorem exists_payload {p : Bytes} (h : 12 ≤ p.length) :
    ∃ reqId a, p = Answer.payload reqId a := by
  have hword : ∀ i, i + 4 ≤ p.length → ∃ v, slice p i (i + 4) = htonl v := by
    intro i hi
    refine exists_htonl ?_
    rw [length_slice]
    omega
  obtain ⟨reqId, hid⟩ := hword 0 (by omega)
  obtain ⟨status, hstatus⟩ := hword 4 (by omega)
  obtain ⟨offset, hoffset⟩ := hword 8 (by omega)
  refine ⟨reqId, ⟨status, offset, p.drop 12⟩, ?_⟩
  rw [Answer.payload, ← hid, ← hstatus, ← hoffset, slice_append_drop p (by omega),
    slice_append_drop p (by omega), slice_append_drop p (by omega), List.drop_zero]

theorem slice_payload_id : slice (a.payload reqId) 0 4 = htonl reqId := by
  rw [slice_zero, Answer.payload, List.take_left' (length_htonl _)]

theorem slice_payload_status : slice (a.payload reqId) 4 8 = htonl a.status :=
  slice_mid (length_htonl _) (by simp)

theorem drop_payload : (a.payload reqId).drop 12 = a.body := by
  have hhead : (htonl reqId ++ (htonl a.status ++ htonl a.offset)).length = 12 := by simp
  rw [Answer.payload, ← List.append_assoc (htonl a.status), ← List.append_assoc (htonl reqId),
    List.drop_left' hhead]

theorem slice_payload (i j : ℕ) :
    slice (a.payload reqId) (12 + i) (12 + j) = slice a.body i j := by
  rw [slice, slice, ← List.drop_drop, drop_payload, Nat.add_sub_add_left]

/-- The id of a response is compared as a number; that is to compare it. -/
theorem verifyRequestId_payload (expected : JInt) (message : String) :
    verifyRequestId (a.payload reqId) expected message =
      check (reqId = expected)
        (.java .invalidRequestIdException (message ++ toString reqId.toNat)) := by
  rw [verifyRequestId, copyOfRange_eq (by omega) (by simp; omega), ok_bind, slice_payload_id,
    ntohl_htonl, ok_bind]
  by_cases h : reqId = expected
  · rw [check_pos h, check_pos (congrArg BitVec.toNat h)]
  · rw [check_neg h, check_neg (fun heq => h (BitVec.eq_of_toNat_eq heq))]

theorem responseStatus_payload : responseStatus (a.payload reqId) = .ok a.status.toNat := by
  rw [responseStatus, copyOfRange_eq (by omega) (by simp; omega), ok_bind, slice_payload_status,
    ntohl_htonl]

/-- A status is good as a number when it is good as a word. -/
theorem status_toNat {v : JInt} : v.toNat = 0 ↔ v = 0 :=
  ⟨fun h => BitVec.eq_of_toNat_eq h, fun h => by rw [h]; rfl⟩

end Payload

/-! ## The decoders -/

section Decoders

variable {a : Answer} {reqId : JInt}

theorem decodeSubmit_payload :
    decodeSubmit (a.payload reqId) = (do
      check (reqId = UNAUTH_PROTOCOL_REQ_ID_TRANSACTION_SUBMIT)
        (.java .invalidRequestIdException ("Invalid request ID: " ++ toString reqId.toNat))
      .ok a.status.toNat) := by
  rw [decodeSubmit, verifyRequestId_payload, responseStatus_payload]

/-- Only a refusal may come without a UUID. -/
theorem length_body_of_ok {a : Answer} (h : a.body.length = 16 ∨ a.status ≠ 0 ∧ a.body = [])
    (hs : a.status = 0) : a.body.length = 16 := by
  rcases h with h | ⟨h, -⟩
  · exact h
  · exact absurd hs h

theorem decodeOptUuid_payload (h : a.body.length = 16 ∨ a.status ≠ 0 ∧ a.body = []) :
    decodeOptUuid reqId (12 + a.body.length) (a.payload reqId) = .ok (Request.optUuid a) := by
  rw [decodeOptUuid, verifyRequestId_payload, check_pos rfl, ok_bind, responseStatus_payload,
    ok_bind, Request.optUuid]
  by_cases hs : a.status = 0
  · have hbody := length_body_of_ok h hs
    have huuid : slice (a.payload reqId) (3 * 4) (3 * 4 + 16) = a.body := by
      rw [show 3 * 4 = 12 + 0 from rfl, slice_payload, slice_self _ _ hbody.le]
    rw [if_neg (not_not.mpr (status_toNat.mpr hs)), if_neg (by omega), if_pos hs,
      copyOfRange_eq (by omega) (by simp; omega), ok_bind, huuid,
      getUUIDFromBytes_eq hbody.ge, ok_bind]
  · rw [if_pos (mt status_toNat.mp hs), if_neg hs]

theorem decodeCertificate_payload {n : ℕ} (h : n ≤ a.body.length ∨ a.status ≠ 0 ∧ a.body = []) :
    decodeCertificate reqId (12 + n) (12 + a.body.length) (a.payload reqId) =
      .ok (Request.optCertificate n a) := by
  rw [decodeCertificate, verifyRequestId_payload, check_pos rfl, ok_bind, responseStatus_payload,
    ok_bind, Request.optCertificate]
  by_cases hs : a.status = 0
  · by_cases hn : n < a.body.length
    · have hcut : slice (a.payload reqId) (12 + n) (12 + a.body.length) = a.body.drop n := by
        rw [slice_payload, slice, List.take_of_length_le (by rw [List.length_drop])]
      rw [if_neg (not_not.mpr (status_toNat.mpr hs)), if_neg (by omega), if_pos ⟨hs, hn⟩,
        copyOfRange_eq (by omega) (by simp), ok_bind, hcut]
    · rw [if_neg (not_not.mpr (status_toNat.mpr hs)), if_pos (by omega), if_neg (by tauto)]
  · rw [if_pos (mt status_toNat.mp hs), if_neg (by tauto)]

theorem decodeConnectionStatus_payload :
    decodeConnectionStatus (a.payload UNAUTH_PROTOCOL_REQ_ID_STATUS_GET) =
      .ok (if a.status = 0 then 0 else 1) := by
  rw [decodeConnectionStatus, verifyRequestId_payload, check_pos rfl, ok_bind,
    responseStatus_payload, ok_bind]
  by_cases hs : a.status = 0
  · rw [if_neg (not_not.mpr (status_toNat.mpr hs)), if_pos hs]
  · rw [if_pos (mt status_toNat.mp hs), if_neg hs]

theorem decodeLatest_payload (h : a.body.length = 16 ∨ a.status ≠ 0 ∧ a.body = []) :
    decodeLatest (12 + a.body.length) (a.payload UNAUTH_PROTOCOL_REQ_ID_LATEST_BLOCK_ID_GET) =
      if a.status = 0 then .ok (halves a.body)
      else .error (.java .ioException "bad status code in call.") := by
  rw [decodeLatest, verifyRequestId_payload, check_pos rfl, ok_bind, responseStatus_payload,
    ok_bind]
  by_cases hs : a.status = 0
  · have hbody := length_body_of_ok h hs
    have hcut : slice (a.payload UNAUTH_PROTOCOL_REQ_ID_LATEST_BLOCK_ID_GET) 12 (12 + 16) =
        a.body := by
      rw [show 12 = 12 + 0 from rfl, slice_payload, slice_self _ _ hbody.le]
    have hcopy : arraycopy (a.payload UNAUTH_PROTOCOL_REQ_ID_LATEST_BLOCK_ID_GET) 12 (zeros 16) 0 16
        = .ok a.body := by
      rw [arraycopy, if_neg (by simp; omega), hcut, Buffer.write_fresh hbody.le, orThrow_some,
        hbody, Nat.sub_self, zeros_zero, List.append_nil]
    rw [check_pos (status_toNat.mpr hs), ok_bind, check_pos (by omega), ok_bind, hcopy, ok_bind,
      getUUIDFromBytes_eq hbody.ge, if_pos hs]
  · rw [check_neg (mt status_toNat.mp hs), error_bind, if_neg hs]

end Decoders

namespace Request

/-- A laid-out answer has a size the reader of its request expects. -/
theorem expect_payload {r : Request} {a : Answer} (h : r.LaidOut a) :
    r.expect (a.payload r.id).length = .ok () := by
  have hbody := h.table
  rw [length_payload]
  cases r with
  | submit _ _ _ =>
    have hlen : a.body.length = 0 := by
      rcases hbody with h | ⟨-, h⟩
      · exact h
      · rw [h, List.length_nil]
    exact check_pos (by omega)
  | getLatestBlockId =>
    refine check_pos ?_
    rcases hbody with h | ⟨-, h⟩
    · have hlen : a.body.length = 16 := h
      omega
    · rw [h, List.length_nil]
      omega
  | _ => exact check_pos (by omega)

/-- **Every reader reads a laid-out answer as it is meant.** -/
theorem decode_payload {r : Request} {a : Answer} (h : r.LaidOut a) :
    r.decode (a.payload r.id).length (a.payload r.id) = r.result a := by
  have hbody := h.table
  rw [length_payload]
  cases r with
  | submit _ _ _ =>
    show (decodeSubmit (a.payload UNAUTH_PROTOCOL_REQ_ID_TRANSACTION_SUBMIT) >>= fun _ => _) = _
    rw [decodeSubmit_payload, check_pos rfl]
    rfl
  | getLatestBlockId =>
    show (decodeLatest _ (a.payload UNAUTH_PROTOCOL_REQ_ID_LATEST_BLOCK_ID_GET) >>= fun _ => _) = _
    rw [decodeLatest_payload hbody, result]
    by_cases hs : a.status = 0
    · rw [if_pos hs, if_pos hs, ok_bind]
    · rw [if_neg hs, if_neg hs, error_bind]
  | getBlockById _ => exact bind_ok (decodeCertificate_payload (n := 80) hbody)
  | getTransactionById _ => exact bind_ok (decodeCertificate_payload (n := 92) hbody)
  | getConnectionStatus => exact bind_ok decodeConnectionStatus_payload
  | _ _ => exact bind_ok (decodeOptUuid_payload hbody)

end Request

end VjBlockchain
