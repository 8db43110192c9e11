import VjBlockchain.Agentd.Messages
/-!
# The tables of the protocol

The source documents every message by a table. This module reads the tables
as the agent's side does: a `Request` is what a request packet asks for,
`Request.encode` its layout, `decodeRequest` the agent's parse of it; an
`Answer` is the status, offset and body of a response packet, and `LaidOut`
says which bodies the table of a request allows. The client's builders
produce these layouts, and its decoders read these answers.
-/

namespace VjBlockchain

open Common Common.Bytes Common.Throwing ByteUtil UuidUtil

/-! ## Requests -/

/-- What a request packet asks for. -/
inductive Request
  | submit (transactionId artifactId : UUID) (certificate : Bytes)
  | getLatestBlockId
  | getBlockById (blockId : UUID)
  | getNextBlockId (blockId : UUID)
  | getPrevBlockId (blockId : UUID)
  | getTransactionById (txnId : UUID)
  | getTransactionNextId (txnId : UUID)
  | getTransactionPreviousId (txnId : UUID)
  | getTransactionBlockId (txnId : UUID)
  | getArtifactFirstTxnId (artifactId : UUID)
  | getArtifactLastTxnId (artifactId : UUID)
  | getBlockIdByBlockHeight (height : BitVec 64)
  | getConnectionStatus
  deriving DecidableEq, Repr

namespace Request

/-- The request id, which the response repeats. -/
def id : Request → JInt
  | submit .. => UNAUTH_PROTOCOL_REQ_ID_TRANSACTION_SUBMIT
  | getLatestBlockId => UNAUTH_PROTOCOL_REQ_ID_LATEST_BLOCK_ID_GET
  | getBlockById _ => UNAUTH_PROTOCOL_REQ_ID_BLOCK_BY_ID_GET
  | getNextBlockId _ => UNAUTH_PROTOCOL_REQ_ID_BLOCK_ID_GET_NEXT
  | getPrevBlockId _ => UNAUTH_PROTOCOL_REQ_ID_BLOCK_ID_GET_PREV
  | getTransactionById _ => UNAUTH_PROTOCOL_REQ_ID_TRANSACTION_BY_ID_GET
  | getTransactionNextId _ => UNAUTH_PROTOCOL_REQ_ID_TRANSACTION_ID_GET_NEXT
  | getTransactionPreviousId _ => UNAUTH_PROTOCOL_REQ_ID_TRANSACTION_ID_GET_PREV
  | getTransactionBlockId _ => UNAUTH_PROTOCOL_REQ_ID_TRANSACTION_ID_GET_BLOCK_ID
  | getArtifactFirstTxnId _ => UNAUTH_PROTOCOL_REQ_ID_ARTIFACT_FIRST_TXN_BY_ID_GET
  | getArtifactLastTxnId _ => UNAUTH_PROTOCOL_REQ_ID_ARTIFACT_LAST_TXN_BY_ID_GET
  | getBlockIdByBlockHeight _ => UNAUTH_PROTOCOL_REQ_ID_BLOCK_ID_BY_HEIGHT_GET
  | getConnectionStatus => UNAUTH_PROTOCOL_REQ_ID_STATUS_GET

/-- The octets behind request id and offset. -/
def arguments : Request → Bytes
  | submit t a c => getBytesFromUUID t ++ (getBytesFromUUID a ++ c)
  | getLatestBlockId | getConnectionStatus => []
  | getBlockById u | getNextBlockId u | getPrevBlockId u | getTransactionById u
  | getTransactionNextId u | getTransactionPreviousId u | getTransactionBlockId u
  | getArtifactFirstTxnId u | getArtifactLastTxnId u => getBytesFromUUID u
  | getBlockIdByBlockHeight h => htonll h

/-- A request as its table lays it out. -/
def encode (r : Request) : Bytes := htonl r.id ++ (htonl 0 ++ r.arguments)

/-- No arguments. -/
def ofNothing (r : Request) (args : Bytes) : Option Request :=
  if args = [] then some r else none

/-- One identifier. -/
def ofUuid (r : UUID → Request) (args : Bytes) : Option Request :=
  if args.length = 16 then some (r (halves args)) else none

/-- A block height. -/
def ofHeight (args : Bytes) : Option Request :=
  if args.length = 8 then some (getBlockIdByBlockHeight (BitVec.ofNat 64 (ofBE args))) else none

/-- Two identifiers and a certificate of any size. -/
def ofSubmit (args : Bytes) : Option Request :=
  if 32 ≤ args.length then
    some (submit (halves (args.take 16)) (halves ((args.drop 16).take 16)) (args.drop 32))
  else none

/-- The request an id makes of an argument string, if the string has the size
of that request's arguments. -/
def ofArguments (reqId : ℕ) (args : Bytes) : Option Request :=
  match reqId with
  | 2 => ofNothing getLatestBlockId args
  | 3 => ofSubmit args
  | 4 => ofUuid getBlockById args
  | 5 => ofUuid getNextBlockId args
  | 6 => ofUuid getPrevBlockId args
  | 7 => ofHeight args
  | 16 => ofUuid getTransactionById args
  | 17 => ofUuid getTransactionNextId args
  | 18 => ofUuid getTransactionPreviousId args
  | 19 => ofUuid getTransactionBlockId args
  | 32 => ofUuid getArtifactFirstTxnId args
  | 33 => ofUuid getArtifactLastTxnId args
  | 40960 => ofNothing getConnectionStatus args
  | _ => none

theorem ofUuid_getBytesFromUUID (r : UUID → Request) (u : UUID) :
    ofUuid r (getBytesFromUUID u) = some (r u) := by
  rw [ofUuid, if_pos (length_getBytesFromUUID u), halves_getBytesFromUUID]

theorem ofHeight_htonll (h : BitVec 64) :
    ofHeight (htonll h) = some (getBlockIdByBlockHeight h) := by
  rw [ofHeight, if_pos (length_htonll h), ofBE_htonll, BitVec.ofNat_toNat, BitVec.setWidth_eq]

theorem ofSubmit_append (t a : UUID) (c : Bytes) :
    ofSubmit (getBytesFromUUID t ++ (getBytesFromUUID a ++ c)) = some (submit t a c) := by
  have ht : (getBytesFromUUID t).length = 16 := length_getBytesFromUUID t
  have ha : (getBytesFromUUID a).length = 16 := length_getBytesFromUUID a
  have hlen : 32 ≤ (getBytesFromUUID t ++ (getBytesFromUUID a ++ c)).length := by
    simp only [List.length_append, ht, ha]
    omega
  have hdrop : (getBytesFromUUID t ++ (getBytesFromUUID a ++ c)).drop 32 = c := by
    rw [← List.append_assoc, List.drop_left' (by rw [List.length_append, ht, ha])]
  rw [ofSubmit, if_pos hlen, hdrop, List.take_left' ht, List.drop_left' ht, List.take_left' ha,
    halves_getBytesFromUUID, halves_getBytesFromUUID]

theorem ofArguments_arguments (r : Request) : ofArguments r.id.toNat r.arguments = some r := by
  cases r with
  | submit t a c => exact ofSubmit_append t a c
  | getLatestBlockId => rfl
  | getConnectionStatus => rfl
  | getBlockIdByBlockHeight h => exact ofHeight_htonll h
  | _ u => exact ofUuid_getBytesFromUUID _ u

end Request

/-- The agent's parse of a request. -/
def decodeRequest (payload : Bytes) : Option Request :=
  if 8 ≤ payload.length ∧ slice payload 4 8 = htonl 0 then
    Request.ofArguments (ofBE (payload.take 4)) (payload.drop 8)
  else none

/-- **The agent reads the request that was laid out.** -/
theorem decodeRequest_encode (r : Request) : decodeRequest r.encode = some r := by
  have hid : (htonl r.id).length = 4 := length_htonl r.id
  have hzero : (htonl 0).length = 4 := length_htonl 0
  have hlen : 8 ≤ r.encode.length := by
    simp only [Request.encode, List.length_append, hid, hzero]
    omega
  have hoffset : slice r.encode 4 8 = htonl 0 := slice_mid hid (by rw [hid, hzero])
  have hargs : r.encode.drop 8 = r.arguments := by
    rw [Request.encode, ← List.append_assoc,
      List.drop_left' (by rw [List.length_append, hid, hzero])]
  have htake : r.encode.take 4 = htonl r.id := List.take_left' hid
  rw [decodeRequest, if_pos ⟨hlen, hoffset⟩, hargs, htake, ofBE_htonl,
    Request.ofArguments_arguments]

/-! ## The client's builders produce the tables -/

theorem requestHead_eq (reqId : JInt) (n : ℕ) :
    requestHead reqId (zeros (8 + n)) = .ok (htonl reqId ++ htonl 0 ++ zeros n) := by
  have hsize : 8 + n - 4 = 4 + n := by omega
  have hrest : 4 + n - 4 = n := by omega
  rw [requestHead, arraycopy_first (length_htonl _) (by omega), ok_bind, hsize,
    arraycopy_next (length_htonl _) (length_htonl _) (by omega), hrest]

theorem plainRequest_eq (reqId : JInt) :
    plainRequest reqId = .ok (htonl reqId ++ (htonl 0 ++ [])) := by
  rw [plainRequest, requestHead_eq reqId 0]
  simp

theorem idRequest_eq (reqId : JInt) (u : UUID) :
    idRequest reqId u = .ok (htonl reqId ++ (htonl 0 ++ getBytesFromUUID u)) := by
  have hhead : (htonl reqId ++ htonl 0).length = 8 := by simp
  rw [idRequest, requestHead_eq reqId 16, ok_bind,
    arraycopy_last hhead (length_getBytesFromUUID u), List.append_assoc]

theorem heightRequest_eq (h : BitVec 64) :
    heightRequest h = .ok (Request.getBlockIdByBlockHeight h).encode := by
  have hhead : (htonl UNAUTH_PROTOCOL_REQ_ID_BLOCK_ID_BY_HEIGHT_GET ++ htonl 0).length = 8 := by
    simp
  rw [heightRequest, requestHead_eq _ 8, ok_bind, arraycopy_last hhead (length_htonll h),
    List.append_assoc]
  rfl

/-- **A submission is laid out** if an array can hold it. -/
theorem submitRequest_eq (t a : UUID) {c : Certificate} (hsize : c.byteArray.length + 40 < 2 ^ 31) :
    submitRequest t a c = .ok (Request.submit t a c.byteArray).encode := by
  have hhead : (htonl UNAUTH_PROTOCOL_REQ_ID_TRANSACTION_SUBMIT ++ htonl 0).length = 8 := by simp
  have hroom : c.byteArray.length + 40 = 8 + (32 + c.byteArray.length) := by omega
  have hleft₁ : 32 + c.byteArray.length - 16 = 16 + c.byteArray.length := by omega
  have hleft₂ : 16 + c.byteArray.length - 16 = c.byteArray.length := by omega
  rw [submitRequest, newArray_eq hsize, ok_bind, hroom, requestHead_eq, ok_bind,
    arraycopy_next hhead (length_getBytesFromUUID t) (by omega), ok_bind, hleft₁,
    arraycopy_next (by simp) (length_getBytesFromUUID a) (by omega), ok_bind, hleft₂,
    arraycopy_last (by simp) rfl]
  simp [Request.encode, Request.id, Request.arguments]

/-- Of any other size it is not. -/
theorem lt_of_submitRequest {t a : UUID} {c : Certificate} {request : Bytes}
    (h : submitRequest t a c = .ok request) : c.byteArray.length + 40 < 2 ^ 31 := by
  obtain ⟨fresh, hfresh, h⟩ := bind_eq_ok_iff.mp h
  obtain ⟨headed, hhead, h⟩ := bind_eq_ok_iff.mp h
  obtain ⟨request₁, hid, hoffset⟩ := bind_eq_ok_iff.mp hhead
  obtain ⟨request₂, ht, h⟩ := bind_eq_ok_iff.mp h
  obtain ⟨request₃, ha, hc⟩ := bind_eq_ok_iff.mp h
  have hsize := length_of_newArray hfresh
  obtain ⟨hlen₁, -⟩ := length_of_arraycopy hid
  obtain ⟨hlen₂, -⟩ := length_of_arraycopy hoffset
  obtain ⟨hlen₃, -⟩ := length_of_arraycopy ht
  obtain ⟨hlen₄, -⟩ := length_of_arraycopy ha
  obtain ⟨-, hroom⟩ := length_of_arraycopy hc
  omega

theorem length_encode_submit (t a : UUID) (c : Bytes) :
    (Request.submit t a c).encode.length = c.length + 40 := by
  simp only [Request.encode, Request.arguments, List.length_append, length_htonl,
    length_getBytesFromUUID]
  omega

/-- Every other request is short. -/
theorem length_encode_le {r : Request} (h : ∀ t a c, r ≠ .submit t a c) :
    r.encode.length ≤ 24 := by
  cases r with
  | submit t a c => exact absurd rfl (h t a c)
  | _ => simp [Request.encode, Request.arguments]

end VjBlockchain
