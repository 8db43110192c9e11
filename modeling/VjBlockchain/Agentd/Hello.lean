import VjBlockchain.Agentd.Invariants
import VjBlockchain.Agentd.Agent
/-!
# The first answer of a handshake

What a client takes for the first answer to its request, over any channel: a
header that announces 164 octets, and a body with the fields it expects. An
answer of any other length ends in `handleHandshakeInitiateError`, which
throws on each of its paths. It has to: the method that calls it goes on as
if the length had been right.

From the fields of the body the client computes the secret. Only then does it
look at the code behind them.
-/

namespace VjBlockchain

open Common Common.Bytes Common.Throwing ByteUtil

/-- The five octets in front of a first answer of `n` octets. -/
def helloHeader (n : JInt) : Bytes := IPC_DATA_TYPE_DATA_PACKET :: htonl n

@[simp] theorem length_helloHeader (n : JInt) : (helloHeader n).length = 5 := by
  simp [helloHeader]

/-- **The fields of a first answer** that are checked before there is a
secret. -/
structure HelloFields (agentId : UUID) (agentPublicEncKey body : Bytes) : Prop where
  requestId : slice body 0 4 = htonl UNAUTH_PROTOCOL_REQ_ID_HANDSHAKE_INITIATE
  status : slice body 8 12 = htonl 0
  protocolVersion : slice body 12 16 = htonl PROTOCOL_VERSION
  cryptoSuite : slice body 16 20 = htonl CRYPTO_SUITE_VERSION
  agentId : slice body 20 36 = UuidUtil.getBytesFromUUID agentId
  publicKey : slice body 36 68 = agentPublicEncKey

/-- **The first answer arrives**: the channel takes the request, and gives the
header of a first answer and a body. -/
def FirstAnswer {W : Type} (P : Platform W) (nonces : Nonces) (s : Session W) (body : Bytes)
    (w : W) : Prop :=
  ∃ w₁ header w₂,
    P.dataChannel.send (helloRequest s.handler.entityId nonces) s.world = .ok () w₁ ∧
    P.dataChannel.recv 5 w₁ = .ok header w₂ ∧ header.take 5 = helloHeader 164 ∧
    P.dataChannel.recv 164 w₂ = .ok body w

/-! ## Fields -/

/-- The word an array holds, told by its four octets. -/
theorem ofBE_slice_iff {a : Bytes} {i : ℕ} (h : i + 4 ≤ a.length) (v : JInt) :
    ofBE (slice a i (i + 4)) = v.toNat ↔ slice a i (i + 4) = htonl v := by
  refine ofBE_eq_iff_htonl ?_
  rw [length_slice]
  omega

/-- **A check on a word of an array**, and what comes after it. -/
theorem checkWord_iff {α : Type} {a : Bytes} {i : ℕ} (h : i + 4 ≤ a.length) (v : JInt)
    (f : ℕ → Fault) {g : Except Fault α} {r : α} :
    (do
      let n ← ntohl (← copyOfRange a i (i + 4))
      check (n = v.toNat) (f n)
      g) = .ok r ↔ slice a i (i + 4) = htonl v ∧ g = .ok r := by
  have hlen : (slice a i (i + 4)).length = 4 := by
    rw [length_slice]
    omega
  rw [copyOfRange_eq (by omega) h, ok_bind, ntohl_eq hlen, ok_bind, ← ofBE_slice_iff h v]
  constructor
  · intro hok
    obtain ⟨_, hcheck, hg⟩ := bind_eq_ok_iff.mp hok
    exact ⟨check_eq_ok_iff.mp hcheck, hg⟩
  · rintro ⟨hv, hg⟩
    rw [check_pos hv, ok_bind, hg]

theorem verifyRequestId_eq_ok_iff {p : Bytes} (h : 4 ≤ p.length) (reqId : JInt)
    (message : String) :
    verifyRequestId p reqId message = .ok () ↔ slice p 0 4 = htonl reqId := by
  have hlen : (slice p 0 4).length = 4 := by
    rw [length_slice]
    omega
  rw [verifyRequestId, copyOfRange_eq (by omega) h, ok_bind, ntohl_eq hlen, ok_bind,
    check_eq_ok_iff]
  exact ofBE_slice_iff (i := 0) h reqId

/-- A cut from behind the array throws. -/
theorem le_of_copyOfRange {a out : Bytes} {i j : ℕ} (h : copyOfRange a i j = .ok out) :
    i ≤ a.length := by
  unfold copyOfRange at h
  split at h
  · cases h
  · split at h
    · cases h
    · omega

/-- A body that ends before its code is not taken. -/
theorem le_of_verifyServerHello {agentId : UUID} {agentPublicEncKey body : Bytes}
    {hello : ServerHello} (h : verifyServerHello agentId agentPublicEncKey body = .ok hello) :
    132 ≤ body.length := by
  simp only [verifyServerHello, bind_eq_ok_iff] at h
  obtain ⟨_, -, _, -, _, -, _, -, _, -, _, -, _, -, _, -, _, -, _, -, _, -, h⟩ := h
  split at h
  · simp only [bind_eq_ok_iff] at h
    obtain ⟨_, -, _, -, _, -, _, -, _, hcode, -⟩ := h
    exact le_of_copyOfRange hcode
  · obtain ⟨_, -, h⟩ := bind_eq_ok_iff.mp h
    obtain ⟨_, -, h⟩ := bind_eq_ok_iff.mp h
    cases h

/-- What a first answer brings, by its place. -/
def serverHelloOf (body : Bytes) : ServerHello :=
  ⟨slice body 36 68, slice body 68 100, slice body 100 132, slice body 132 164⟩

/-- **What the client checks in the first answer** are its fields. The code
behind them is taken as it comes, filled up with zeros. -/
theorem verifyServerHello_eq_ok_iff {agentId : UUID} {agentPublicEncKey body : Bytes}
    {hello : ServerHello} :
    verifyServerHello agentId agentPublicEncKey body = .ok hello ↔
      132 ≤ body.length ∧ HelloFields agentId agentPublicEncKey body ∧
        ∃ code, copyOfRange body 132 164 = .ok code ∧
          hello = { serverHelloOf body with serverChallengeResponseHMAC := code } := by
  have hcut : 132 ≤ body.length → ∀ i j, i ≤ j → j ≤ 132 →
      copyOfRange body i j = .ok (slice body i j) :=
    fun hlen i j hij hj => copyOfRange_eq hij (hj.trans hlen)
  constructor
  · intro h
    have hlen := le_of_verifyServerHello h
    rw [verifyServerHello] at h
    obtain ⟨_, hrequest, h⟩ := bind_eq_ok_iff.mp h
    obtain ⟨hstatus, h⟩ := (checkWord_iff (i := 8) (by omega) 0 _).mp h
    obtain ⟨hprotocol, h⟩ := (checkWord_iff (i := 12) (by omega) PROTOCOL_VERSION _).mp h
    obtain ⟨hsuite, h⟩ := (checkWord_iff (i := 16) (by omega) CRYPTO_SUITE_VERSION _).mp h
    have hrequest := (verifyRequestId_eq_ok_iff (by omega) ..).mp hrequest
    simp only [hcut hlen, Nat.reduceLeDiff, ok_bind, EqualsUtil.constantTimeEqual_iff] at h
    split at h
    · rename_i hagent
      obtain ⟨_, hkey, h⟩ := bind_eq_ok_iff.mp h
      obtain ⟨code, hcode, h⟩ := bind_eq_ok_iff.mp h
      cases h
      exact ⟨hlen, ⟨hrequest, hstatus, hprotocol, hsuite, hagent.symm,
        (check_eq_ok_iff.mp hkey).symm⟩, code, hcode, rfl⟩
    · -- the other identifier is read once more, for the message
      obtain ⟨_, -, h⟩ := bind_eq_ok_iff.mp h
      cases h
  · rintro ⟨hlen, hf, code, hcode, rfl⟩
    rw [verifyServerHello, (verifyRequestId_eq_ok_iff (by omega) ..).mpr hf.requestId, ok_bind]
    refine (checkWord_iff (i := 8) (by omega) 0 _).mpr ⟨hf.status, ?_⟩
    refine (checkWord_iff (i := 12) (by omega) PROTOCOL_VERSION _).mpr ⟨hf.protocolVersion, ?_⟩
    refine (checkWord_iff (i := 16) (by omega) CRYPTO_SUITE_VERSION _).mpr ⟨hf.cryptoSuite, ?_⟩
    simp only [hcut hlen, Nat.reduceLeDiff, ok_bind, EqualsUtil.constantTimeEqual_iff]
    rw [if_pos hf.agentId.symm, check_pos hf.publicKey.symm, ok_bind, hcode]
    rfl

namespace Handler

/-! ## An answer of another length -/

/-- No error answer is decoded into anything but an exception. -/
theorem handshakeInitiateError_ne_ok (response : Bytes) (u : Unit) :
    handshakeInitiateError response ≠ .ok u := by
  intro h
  obtain ⟨_, -, h⟩ := bind_eq_ok_iff.mp h
  obtain ⟨_, -, h⟩ := bind_eq_ok_iff.mp h
  split at h
  · cases h
  · split at h <;> cases h

section

variable {W : Type} {P : Platform W}

/-- The method that throws for an error answer does not touch the handler. -/
theorem handleHandshakeInitiateError_handler (J : ProtocolHandlerImpl → Prop) (n : ℤ) :
    Effect.Preserves (fun s : Session W => J s.handler) (fun _ => True)
      (handleHandshakeInitiateError P n) := by
  unfold handleHandshakeInitiateError
  split
  · exact .throw trivial
  · exact .bind (onWorld_handler J _) fun _ => .lift_any _

/-- **`handleHandshakeInitiateError` throws on every path**, and leaves the
handler alone. -/
theorem handleHandshakeInitiateError_throws (n : ℤ) (s : Session W) :
    ∃ f s', handleHandshakeInitiateError P n s = .error f s' ∧ s'.handler = s.handler := by
  have hkeep : Effect.Preserves (fun s' : Session W => s'.handler = s.handler) (fun _ => True)
      (handleHandshakeInitiateError P n) :=
    handleHandshakeInitiateError_handler (fun h => h = s.handler) n
  cases hrun : handleHandshakeInitiateError P n s with
  | error f s' => exact ⟨f, s', rfl, (hkeep.error rfl hrun).1⟩
  | ok u s' =>
    unfold handleHandshakeInitiateError at hrun
    split at hrun
    · cases hrun
    · obtain ⟨response, s₁, -, hdecode⟩ := Effect.bind_eq_ok hrun
      exact absurd (Effect.lift_eq_ok_iff.mp hdecode).1 (handshakeInitiateError_ne_ok response u)

/-! ## The first answer off the channel -/

/-- **A header that announces a first answer**, told by its octets. -/
theorem announces_iff {header : Bytes} {length : ℕ}
    (htype : header[0]? = some IPC_DATA_TYPE_DATA_PACKET)
    (hlength : (copyOfRange header 1 5 >>= ntohl) = .ok length) :
    (BitVec.ofNat 32 length).toInt = 164 ↔ header.take 5 = helloHeader 164 := by
  obtain ⟨tail, rfl⟩ : ∃ tail, header = IPC_DATA_TYPE_DATA_PACKET :: tail := by
    cases header with
    | nil => cases htype
    | cons t tail => exact ⟨tail, by rw [Option.some.inj htype]⟩
  obtain ⟨word, hword, hn⟩ := bind_eq_ok_iff.mp hlength
  obtain ⟨word', hword', hlen⟩ := exists_copyOfRange (a := IPC_DATA_TYPE_DATA_PACKET :: tail)
    (i := 1) (j := 5) (by omega) (by simp)
  obtain rfl := Except.ok.inj (hword.symm.trans hword')
  obtain ⟨v, rfl⟩ := exists_htonl hlen
  rw [ntohl_htonl] at hn
  obtain rfl := Except.ok.inj hn
  have hint : (BitVec.ofNat 32 v.toNat).toInt = 164 ↔ v = 164 := by
    rw [BitVec.ofNat_toNat, BitVec.setWidth_eq]
    exact BitVec.toInt_inj (y := 164)
  have hpad : htonl v = tail.take 4 ++ zeros (4 - tail.length) := by
    rw [copyOfRange, if_neg (by omega), if_neg (by simp)] at hword
    obtain hword := Except.ok.inj hword
    have hmax : 5 - max 1 (tail.length + 1) = 4 - tail.length := by omega
    rw [List.length_cons, hmax] at hword
    exact hword.symm
  have htake : (IPC_DATA_TYPE_DATA_PACKET :: tail).take 5 = helloHeader 164 ↔
      tail.take 4 = htonl 164 := by
    rw [List.take_succ_cons, helloHeader, List.cons.injEq, and_iff_right rfl]
  rw [hint, htake]
  by_cases hfour : 4 ≤ tail.length
  · rw [Nat.sub_eq_zero_of_le hfour, zeros, List.replicate_zero, List.append_nil] at hpad
    rw [← hpad]
    refine ⟨fun h => by rw [h], fun h => BitVec.eq_of_toNat_eq ?_⟩
    exact (ofBE_htonl v).symm.trans ((ofBE_eq_iff_htonl (length_htonl v)).mpr h)
  · -- the last octet of the announcement is not zero, as the filling is
    constructor
    · rintro rfl
      have hlast := congrArg (fun bs : Bytes => bs[3]?) hpad
      rw [List.getElem?_append_right (by rw [List.length_take]; omega)] at hlast
      simp only [zeros, List.getElem?_replicate, List.length_take] at hlast
      rw [if_pos (by omega)] at hlast
      exact absurd hlast (by decide)
    · intro h
      have hlen := congrArg List.length h
      rw [List.length_take, length_htonl] at hlen
      omega

/-- **A first answer is taken off the channel** if its header is one and the
two calls of `recv` return. -/
theorem recvServerHello_ok_iff {s s' : Session W} {body : Bytes} :
    recvServerHello P s = .ok body s' ↔
      ∃ header w w', P.dataChannel.recv 5 s.world = .ok header w ∧
        header.take 5 = helloHeader 164 ∧ P.dataChannel.recv 164 w = .ok body w' ∧
        s' = { s with world := w' } := by
  constructor
  · intro h
    obtain ⟨header, s₁, hfirst, h⟩ := Effect.bind_eq_ok h
    obtain ⟨w, hheader, rfl⟩ := onWorld_eq_ok_iff.mp hfirst
    obtain ⟨_, s₂, hchecked, h⟩ := Effect.bind_eq_ok h
    obtain ⟨htype, rfl⟩ := Effect.lift_eq_ok_iff.mp hchecked
    obtain ⟨length, s₃, hread, h⟩ := Effect.bind_eq_ok h
    obtain ⟨hlength, rfl⟩ := Effect.lift_eq_ok_iff.mp hread
    have hannounces := announces_iff (check_eq_ok_iff.mp htype) hlength
    dsimp only at h
    split at h
    · obtain ⟨_, s₄, herror, -⟩ := Effect.bind_eq_ok h
      obtain ⟨f, s₅, hthrows, -⟩ := handleHandshakeInitiateError_throws (P := P)
        (BitVec.ofNat 32 length).toInt { s with world := w }
      cases herror.symm.trans hthrows
    · rename_i hint
      have hint : (BitVec.ofNat 32 length).toInt = 164 := not_not.mp hint
      rw [hint] at h
      obtain ⟨w', hbody, rfl⟩ := onWorld_eq_ok_iff.mp h
      exact ⟨header, w, w', hheader, hannounces.mp hint, hbody, rfl⟩
  · rintro ⟨header, w, w', hheader, htake, hbody, rfl⟩
    have hlen : 5 ≤ header.length := by
      have hlen := congrArg List.length htake
      rw [List.length_take, length_helloHeader] at hlen
      omega
    have htype : header[0]? = some IPC_DATA_TYPE_DATA_PACKET := by
      rw [← List.getElem?_take_of_lt (show 0 < 5 by omega), htake]
      rfl
    have hword : slice header 1 5 = htonl 164 := by
      rw [slice, ← List.drop_take, htake]
      rfl
    have hlength : (copyOfRange header 1 5 >>= ntohl) = .ok (164 : JInt).toNat := by
      rw [copyOfRange_eq (by omega) hlen, ok_bind, hword, ntohl_htonl]
    have hheaded : recv P 5 s = .ok header { s with world := w } :=
      onWorld_eq_ok_iff.mpr ⟨w, hheader, rfl⟩
    have hbodied : recv P 164 { s with world := w } = .ok body { s with world := w' } :=
      onWorld_eq_ok_iff.mpr ⟨w', hbody, rfl⟩
    unfold recvServerHello
    rw [Effect.bind_ok hheaded, check_pos htype, Effect.bind_ok (Effect.lift_ok ..), hlength,
      Effect.bind_ok (Effect.lift_ok ..)]
    exact hbodied

/-- **The first round up to the key agreement** returns what the first answer
that arrives brings, if its fields are right, and leaves the handler alone. -/
theorem exchangeHello_ok_iff {nonces : Nonces} {s s' : Session W} {response : Bytes}
    {hello : ServerHello} :
    exchangeHello P nonces s = .ok (response, hello) s' ↔
      ∃ w, FirstAnswer P nonces s response w ∧ s' = { s with world := w } ∧
        verifyServerHello s.handler.agentId s.handler.agentPublicEncKey response = .ok hello := by
  unfold exchangeHello
  rw [Effect.get_bind, handshakeRequest_eq]
  constructor
  · intro h
    obtain ⟨_, s₁, hlift, h⟩ := Effect.bind_eq_ok h
    obtain ⟨hrequest, rfl⟩ := Effect.lift_eq_ok_iff.mp hlift
    obtain rfl := Except.ok.inj hrequest
    obtain ⟨_, s₂, hsent, h⟩ := Effect.bind_eq_ok h
    obtain ⟨w₁, hsend, rfl⟩ := onWorld_eq_ok_iff.mp hsent
    obtain ⟨body, s₃, hrecv, h⟩ := Effect.bind_eq_ok h
    obtain ⟨header, w₂, w, hheader, htake, hbody, rfl⟩ := recvServerHello_ok_iff.mp hrecv
    obtain ⟨hello', s₄, hchecked, h⟩ := Effect.bind_eq_ok h
    obtain ⟨hverify, rfl⟩ := Effect.lift_eq_ok_iff.mp hchecked
    cases h
    exact ⟨w, ⟨w₁, header, w₂, hsend, hheader, htake, hbody⟩, rfl, hverify⟩
  · rintro ⟨w, ⟨w₁, header, w₂, hsend, hheader, htake, hbody⟩, rfl, hverify⟩
    have hsend : send P (helloRequest s.handler.entityId nonces) s =
        .ok () { s with world := w₁ } := onWorld_eq_ok_iff.mpr ⟨w₁, hsend, rfl⟩
    have hrecv : recvServerHello P { s with world := w₁ } = .ok response { s with world := w } :=
      recvServerHello_ok_iff.mpr ⟨header, w₂, w, hheader, htake, hbody, rfl⟩
    rw [Effect.bind_ok (Effect.lift_ok ..), Effect.bind_ok hsend, Effect.bind_ok hrecv, hverify,
      Effect.bind_ok (Effect.lift_ok ..)]
    rfl

end

end Handler

end VjBlockchain
