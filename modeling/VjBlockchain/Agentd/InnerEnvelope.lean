import VjBlockchain.Util.Words
/-!
# The inner envelope — requests and their responses

A request starts with its method and its id, a response with the same two
words and a status. `unwrap` never asks how long its array is: it cuts four
parts, and `Arrays.copyOfRange` fills a part that ends behind the array with
zeros. A short array fails all the same, in the part behind the last octet it
has.
-/

namespace VjBlockchain

open Common Common.Bytes Common.Throwing

/-- The methods of the agent. -/
inductive ApiMethod
  | submit
  | getLatestBlockId
  | getNextBlockId
  | getPrevBlockId
  | getTxnBlockId
  | getBlockById
  | getBlockIdByBlockHeight
  | getTxnById
  | getFirstTxnIdForArtifactById
  | getLastTxnIdForArtifactById
  | getLastBlockIdForArtifactById
  | getPrevTxnIdForTxnById
  | getNextTxnIdForTxnById
  deriving DecidableEq, Repr

def ApiMethod.getValue : ApiMethod → BitVec 32
  | submit => 1
  | getLatestBlockId => 2
  | getNextBlockId => 3
  | getPrevBlockId => 4
  | getTxnBlockId => 5
  | getBlockById => 6
  | getBlockIdByBlockHeight => 7
  | getTxnById => 8
  | getFirstTxnIdForArtifactById => 9
  | getLastTxnIdForArtifactById => 10
  | getLastBlockIdForArtifactById => 11
  | getPrevTxnIdForTxnById => 12
  | getNextTxnIdForTxnById => 13

/-- The contents of a response. -/
structure InnerEnvelopeResponse where
  apiMethodId : ℕ
  requestId : ℕ
  status : ℕ
  payload : Bytes
  deriving DecidableEq, Repr

namespace InnerEnvelope

/-- `wrap`. The id is a `long`, of which the lower half is sent. -/
def wrap (apiMethod : ApiMethod) (requestId : BitVec 64) (payload : Bytes) :
    Except Fault Bytes := do
  let wrapped ← newArray (BitVec.ofNat 32 (8 + payload.length))
  let wrapped ← arraycopy (ByteUtil.htonl apiMethod.getValue) 0 wrapped 0 4
  let wrapped ← arraycopy (ByteUtil.htonl (requestId.setWidth 32)) 0 wrapped 4 4
  arraycopy payload 0 wrapped 8 payload.length

/-- `unwrap`. -/
def unwrap (wrapped : Bytes) : Except Fault InnerEnvelopeResponse := do
  let apiMethodId ← ByteUtil.ntohl (← copyOfRange wrapped 0 4)
  let requestId ← ByteUtil.ntohl (← copyOfRange wrapped 4 8)
  let status ← ByteUtil.ntohl (← copyOfRange wrapped 8 12)
  let payload ← copyOfRange wrapped 12 wrapped.length
  .ok ⟨apiMethodId, requestId, status, payload⟩

/-! ## Requests -/

/-- The two words in front of a request. -/
def requestHeader (apiMethod : ApiMethod) (requestId : BitVec 64) : Bytes :=
  ByteUtil.htonl apiMethod.getValue ++ ByteUtil.htonl (requestId.setWidth 32)

@[simp] theorem length_requestHeader (apiMethod : ApiMethod) (requestId : BitVec 64) :
    (requestHeader apiMethod requestId).length = 8 := by
  simp [requestHeader]

/-- **What is wrapped**, for every payload an array with eight more octets can
hold. -/
theorem wrap_eq (apiMethod : ApiMethod) (requestId : BitVec 64) {payload : Bytes}
    (h : 8 + payload.length < 2 ^ 31) :
    wrap apiMethod requestId payload = .ok (requestHeader apiMethod requestId ++ payload) := by
  have hmethod := ByteUtil.length_htonl apiMethod.getValue
  have hid := ByteUtil.length_htonl (requestId.setWidth 32)
  have hroom₁ : 8 + payload.length - 4 = 4 + payload.length := by omega
  have hroom₂ : 4 + payload.length - 4 = payload.length := by omega
  rw [wrap, newArray_eq h, ok_bind, arraycopy_first hmethod (by omega), ok_bind, hroom₁,
    arraycopy_next hmethod hid (by omega), ok_bind, hroom₂, ← requestHeader,
    arraycopy_last (length_requestHeader ..) rfl]

/-- A longer payload is refused. -/
theorem wrap_error (apiMethod : ApiMethod) (requestId : BitVec 64) {payload : Bytes}
    (hbig : 2 ^ 31 ≤ 8 + payload.length) (h : payload.length < 2 ^ 31) :
    wrap apiMethod requestId payload = .error (.java .negativeArraySizeException "") := by
  rw [wrap, newArray_error hbig (by omega), error_bind]

/-- What `wrap` returns fits an array. -/
theorem lt_of_wrap {apiMethod : ApiMethod} {requestId : BitVec 64} {payload wrapped : Bytes}
    (h : wrap apiMethod requestId payload = .ok wrapped) : 8 + payload.length < 2 ^ 31 := by
  obtain ⟨fresh, hfresh, h⟩ := bind_eq_ok_iff.mp h
  obtain ⟨wrapped₁, hmethod, h⟩ := bind_eq_ok_iff.mp h
  obtain ⟨wrapped₂, hid, hpayload⟩ := bind_eq_ok_iff.mp h
  have hsize := length_of_newArray hfresh
  obtain ⟨hlen₁, -⟩ := length_of_arraycopy hmethod
  obtain ⟨hlen₂, -⟩ := length_of_arraycopy hid
  obtain ⟨-, hroom⟩ := length_of_arraycopy hpayload
  omega

/-- Whatever `wrap` returns starts with the two words. -/
theorem take_of_wrap {apiMethod : ApiMethod} {requestId : BitVec 64} {payload wrapped : Bytes}
    (h : wrap apiMethod requestId payload = .ok wrapped) :
    wrapped.take 8 = requestHeader apiMethod requestId := by
  rw [wrap_eq apiMethod requestId (lt_of_wrap h)] at h
  rw [← Except.ok.inj h, List.take_left' (length_requestHeader ..)]

/-! ## Responses -/

theorem length_word {wrapped : Bytes} (h : 12 ≤ wrapped.length) {i j : ℕ} (hj : j ≤ 12)
    (hij : i + 4 = j) : (slice wrapped i j).length = 4 := by
  rw [length_slice]
  omega

/-- **What is cut out of a whole response.** -/
theorem unwrap_eq {wrapped : Bytes} (h : 12 ≤ wrapped.length) :
    unwrap wrapped = .ok ⟨ofBE (slice wrapped 0 4), ofBE (slice wrapped 4 8),
      ofBE (slice wrapped 8 12), wrapped.drop 12⟩ := by
  have hrest : slice wrapped 12 wrapped.length = wrapped.drop 12 :=
    List.take_of_length_le (by simp)
  rw [unwrap, copyOfRange_eq (by omega) (by omega), ok_bind,
    ByteUtil.ntohl_eq (length_word h (by omega) rfl), ok_bind,
    copyOfRange_eq (by omega) (by omega), ok_bind,
    ByteUtil.ntohl_eq (length_word h (by omega) rfl), ok_bind,
    copyOfRange_eq (by omega) h, ok_bind,
    ByteUtil.ntohl_eq (length_word h (by omega) rfl), ok_bind,
    copyOfRange_eq h le_rfl, ok_bind, hrest]

/-- A word cut from inside an array is read, whatever it is padded with. -/
theorem exists_word {wrapped : Bytes} {i : ℕ} (h : i ≤ wrapped.length) :
    ∃ cut v, copyOfRange wrapped i (i + 4) = .ok cut ∧ ByteUtil.ntohl cut = .ok v := by
  obtain ⟨cut, hcut, hlen⟩ := exists_copyOfRange (Nat.le_add_right i 4) h
  exact ⟨cut, ofBE cut, hcut, ByteUtil.ntohl_eq (by omega)⟩

/-- **No short envelope is read.** It fails in the part behind its last octet:
the id, the status, or the payload. -/
theorem unwrap_short {wrapped : Bytes} (h : wrapped.length < 12) :
    unwrap wrapped = .error (if wrapped.length < 8 then .java .arrayIndexOutOfBoundsException ""
      else .java .illegalArgumentException ("12 > " ++ toString wrapped.length)) := by
  obtain ⟨cut₁, v₁, hcut₁, hv₁⟩ := exists_word (Nat.zero_le wrapped.length)
  rw [unwrap, bind_ok hcut₁, bind_ok hv₁]
  rcases Nat.lt_or_ge wrapped.length 4 with h₄ | h₄
  · rw [copyOfRange_behind (by omega) h₄, error_bind, if_pos (by omega)]
  obtain ⟨cut₂, v₂, hcut₂, hv₂⟩ := exists_word h₄
  rw [bind_ok hcut₂, bind_ok hv₂]
  rcases Nat.lt_or_ge wrapped.length 8 with h₈ | h₈
  · rw [copyOfRange_behind (by omega) h₈, error_bind, if_pos h₈]
  obtain ⟨cut₃, v₃, hcut₃, hv₃⟩ := exists_word h₈
  rw [bind_ok hcut₃, bind_ok hv₃, copyOfRange, if_pos h, error_bind, if_neg (by omega)]
  rfl

end InnerEnvelope

/-! ## The octets of a response -/

namespace InnerEnvelopeResponse

/-- Three words and the payload. -/
def octets (r : InnerEnvelopeResponse) : Bytes :=
  toBE 4 r.apiMethodId ++ (toBE 4 r.requestId ++ (toBE 4 r.status ++ r.payload))

/-- Its three numbers are words. -/
structure Fits (r : InnerEnvelopeResponse) : Prop where
  apiMethodId : r.apiMethodId < 2 ^ 32
  requestId : r.requestId < 2 ^ 32
  status : r.status < 2 ^ 32

end InnerEnvelopeResponse

namespace InnerEnvelope

/-- **A response laid out is the response read.** -/
theorem unwrap_octets {r : InnerEnvelopeResponse} (h : r.Fits) : unwrap r.octets = .ok r := by
  have hmethod := length_toBE 4 r.apiMethodId
  have hid := length_toBE 4 r.requestId
  have hstatus := length_toBE 4 r.status
  have hlen : r.octets.length = 12 + r.payload.length := by
    simp only [InnerEnvelopeResponse.octets, List.length_append]
    omega
  have hmethodAt : slice r.octets 0 4 = toBE 4 r.apiMethodId := by
    rw [slice_zero]
    exact List.take_left' hmethod
  have hidAt : slice r.octets 4 8 = toBE 4 r.requestId := slice_mid hmethod (by omega)
  have hstatusAt : slice r.octets 8 12 = toBE 4 r.status := by
    rw [InnerEnvelopeResponse.octets, ← List.append_assoc]
    exact slice_mid (by simp) (by simp)
  have hpayload : r.octets.drop 12 = r.payload := by
    rw [InnerEnvelopeResponse.octets, ← List.append_assoc, ← List.append_assoc]
    exact List.drop_left' (by simp)
  rw [unwrap_eq (by omega), hmethodAt, hidAt, hstatusAt, hpayload, ofBE_toBE h.apiMethodId,
    ofBE_toBE h.requestId, ofBE_toBE h.status]

/-- **What is read is what was laid out.** -/
theorem of_unwrap {wrapped : Bytes} {r : InnerEnvelopeResponse} (h : unwrap wrapped = .ok r) :
    r.Fits ∧ wrapped = r.octets := by
  have hlong : 12 ≤ wrapped.length := by
    by_contra hshort
    rw [unwrap_short (by omega)] at h
    cases h
  have hlt : ∀ i j, j ≤ 12 → i + 4 = j → ofBE (slice wrapped i j) < 2 ^ 32 := by
    intro i j hj hij
    have hbound := ofBE_lt (slice wrapped i j)
    rwa [length_word hlong hj hij] at hbound
  have hback : ∀ i j, j ≤ 12 → i + 4 = j →
      toBE 4 (ofBE (slice wrapped i j)) = slice wrapped i j := by
    intro i j hj hij
    have hbs := toBE_ofBE (slice wrapped i j)
    rwa [length_word hlong hj hij] at hbs
  rw [unwrap_eq hlong] at h
  obtain rfl := Except.ok.inj h
  refine ⟨⟨hlt 0 4 (by omega) rfl, hlt 4 8 (by omega) rfl, hlt 8 12 (by omega) rfl⟩, ?_⟩
  rw [InnerEnvelopeResponse.octets, hback 0 4 (by omega) rfl, hback 4 8 (by omega) rfl,
    hback 8 12 (by omega) rfl, slice_append_drop _ (by omega), slice_append_drop _ (by omega),
    slice_append_drop _ (by omega), List.drop_zero]

/-- **Responses and their octets.** `unwrap` returns on the arrays that are the
octets of a response, and on no others. -/
theorem unwrap_eq_ok_iff {wrapped : Bytes} {r : InnerEnvelopeResponse} :
    unwrap wrapped = .ok r ↔ r.Fits ∧ wrapped = r.octets := by
  constructor
  · exact of_unwrap
  · rintro ⟨hfits, rfl⟩
    exact unwrap_octets hfits

/-- The lower half of a `long` that is a word is the `long`. -/
theorem toNat_lower {requestId : BitVec 64} (h : requestId.toNat < 2 ^ 32) :
    (requestId.setWidth 32).toNat = requestId.toNat := by
  rw [BitVec.toNat_setWidth, Nat.mod_eq_of_lt h]

/-- **A response that echoes a request** names its method and its id. -/
theorem unwrap_echo {apiMethod : ApiMethod} {requestId : BitVec 64} {payload wrapped : Bytes}
    (hwrap : wrap apiMethod requestId payload = .ok wrapped) (hid : requestId.toNat < 2 ^ 32)
    {status : Bytes} (hstatus : status.length = 4) (body : Bytes) :
    unwrap (wrapped.take 8 ++ (status ++ body)) =
      .ok ⟨apiMethod.getValue.toNat, requestId.toNat, ofBE status, body⟩ := by
  have hlt := ofBE_lt status
  rw [hstatus] at hlt
  have hback := toBE_ofBE status
  rw [hstatus] at hback
  refine unwrap_eq_ok_iff.mpr ⟨⟨apiMethod.getValue.isLt, hid, hlt⟩, ?_⟩
  rw [take_of_wrap hwrap, requestHeader, ByteUtil.htonl, ByteUtil.htonl, toNat_lower hid,
    InnerEnvelopeResponse.octets, hback, List.append_assoc]

/-- **The inner envelope.** `unwrap` throws on arrays of fewer than twelve
octets and on no others; from what it returns the array is rebuilt. A payload
is wrapped if eight more octets fit an array, and a response behind the first
eight octets of the request is read as one to that method and id. -/
theorem unwrap_wrap (wrapped : Bytes) :
    ((∃ e, unwrap wrapped = .error (.thrown e)) ↔ wrapped.length < 12) ∧
    (12 ≤ wrapped.length → ∃ r, unwrap wrapped = .ok r ∧ r.Fits ∧
      r.apiMethodId = ofBE (slice wrapped 0 4) ∧ r.requestId = ofBE (slice wrapped 4 8) ∧
      r.status = ofBE (slice wrapped 8 12) ∧ r.payload = wrapped.drop 12 ∧
      r.octets = wrapped) ∧
    ∀ (apiMethod : ApiMethod) (requestId : BitVec 64) (payload : Bytes),
      requestId.toNat < 2 ^ 32 →
      (8 + payload.length < 2 ^ 31 → ∃ request, wrap apiMethod requestId payload = .ok request) ∧
      ∀ request, wrap apiMethod requestId payload = .ok request →
        ∀ status body : Bytes, status.length = 4 →
          unwrap (request.take 8 ++ (status ++ body)) =
            .ok ⟨apiMethod.getValue.toNat, requestId.toNat, ofBE status, body⟩ := by
  refine ⟨⟨?_, fun h => ?_⟩, fun h => ?_, fun apiMethod requestId payload hid =>
    ⟨fun hfit => ?_, ?_⟩⟩
  · rintro ⟨e, he⟩
    by_contra hlong
    rw [unwrap_eq (by omega)] at he
    cases he
  · rw [unwrap_short h]
    split <;> exact ⟨_, rfl⟩
  · have hread := unwrap_eq h
    obtain ⟨hfits, hoctets⟩ := of_unwrap hread
    exact ⟨_, hread, hfits, rfl, rfl, rfl, rfl, hoctets.symm⟩
  · exact ⟨_, wrap_eq apiMethod requestId hfit⟩
  · intro request hwrap status body hstatus
    exact unwrap_echo hwrap hid hstatus body

/-- An id with its top bit set comes back from a failed submission. -/
theorem unwrap_wrap_submit :
    wrap .submit 0xEE000002 [7] = .ok [0, 0, 0, 1, 0xEE, 0, 0, 2, 7] ∧
      unwrap [0, 0, 0, 1, 0xEE, 0, 0, 2, 0, 0, 0, 5] = .ok ⟨1, 0xEE000002, 5, []⟩ ∧
      ∃ r, unwrap [0, 0, 0, 1, 0xEE, 0, 0, 2, 0, 0, 0, 5] = .ok r ∧
        r.octets = [0, 0, 0, 1, 0xEE, 0, 0, 2, 0, 0, 0, 5] := by
  have hwrap : wrap .submit 0xEE000002 [7] = .ok [0, 0, 0, 1, 0xEE, 0, 0, 2, 7] := rfl
  obtain ⟨-, hlong, hecho⟩ := unwrap_wrap [0, 0, 0, 1, 0xEE, 0, 0, 2, 0, 0, 0, 5]
  obtain ⟨r, hr, -, -, -, -, -, hoctets⟩ := hlong (by decide)
  have hread := (hecho .submit 0xEE000002 [7] (by decide)).2 _ hwrap [0, 0, 0, 5] [] rfl
  exact ⟨hwrap, hread, r, hr, hoctets⟩

end InnerEnvelope

end VjBlockchain
