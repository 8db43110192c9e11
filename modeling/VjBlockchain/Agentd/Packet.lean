import VjBlockchain.Agentd.Envelope
/-!
# Packets in closed form

What the three native methods compute, said once. `sealPacket` is a packet as
a function of key, counter and payload; `encryptPayloadNative` returns it if
an array can hold it, and reading a stream with `readPacket` succeeds exactly
on streams that start with one. Every later module speaks about `sealPacket`
and never opens the native methods again.
-/

namespace VjBlockchain

open Common Common.Bytes Common.Throwing

variable {V : Vccrypt}

/-- The suite takes the key: both instances a packet needs can be made. -/
def Vccrypt.Takes (V : Vccrypt) (key : Bytes) : Prop :=
  (∃ i, V.stream.init key = some i) ∧ ∃ i, V.macShort.init key = some i

/-- Keys of the suite's size are taken. -/
theorem Vccrypt.Lawful.takes (hV : V.Lawful) {key : Bytes} (hk : key.length = 32) :
    V.Takes key :=
  ⟨hV.stream.init_total (hk.trans hV.streamKey.symm),
    hV.macShort.init_total (hk.trans hV.macKey.symm)⟩

variable (V)

/-- The keystream of the packet numbered `iv`. -/
def packetStream (key : Bytes) (iv : BitVec 64) : ℕ → UInt8 :=
  V.stream.keystream key (hostBytes iv)

/-- The masked header of a payload of `n` octets. -/
def sealHeader (key : Bytes) (iv : BitVec 64) (n : ℕ) : Bytes :=
  xorAt (packetStream V key iv) 0 (IPC_DATA_TYPE_AUTHED_PACKET :: toBE 4 n)

/-- The masked payload. -/
def sealBody (key : Bytes) (iv : BitVec 64) (payload : Bytes) : Bytes :=
  xorAt (packetStream V key iv) 5 payload

/-- The code over header and payload, both as sent. -/
def sealMac (key : Bytes) (iv : BitVec 64) (payload : Bytes) : Bytes :=
  V.macShort.mac key (sealHeader V key iv payload.length ++ sealBody V key iv payload)

/-- What follows the header. -/
def sealRest (key : Bytes) (iv : BitVec 64) (payload : Bytes) : Bytes :=
  sealMac V key iv payload ++ sealBody V key iv payload

/-- **The packet of a payload.** -/
def sealPacket (key : Bytes) (iv : BitVec 64) (payload : Bytes) : Bytes :=
  sealHeader V key iv payload.length ++ sealRest V key iv payload

/-- An array can hold the packet of a payload: header, code and payload. -/
def FitsPacket (payload : Bytes) : Prop := 5 + (payload.length + 32) < 2 ^ 31

instance (payload : Bytes) : Decidable (FitsPacket payload) := by
  unfold FitsPacket
  infer_instance

/-- Every payload that a reader takes fits. -/
theorem FitsPacket.of_le_max {payload : Bytes} (h : payload.length ≤ MAX_PAYLOAD_SIZE) :
    FitsPacket payload := by
  unfold FitsPacket
  have hmax : MAX_PAYLOAD_SIZE + 37 < 2 ^ 31 := by decide
  omega

variable {V}

@[simp] theorem length_sealHeader (key : Bytes) (iv : BitVec 64) (n : ℕ) :
    (sealHeader V key iv n).length = 5 := by
  simp [sealHeader]

@[simp] theorem length_sealBody (key : Bytes) (iv : BitVec 64) (p : Bytes) :
    (sealBody V key iv p).length = p.length := by
  simp [sealBody]

theorem length_sealMac (hV : V.Lawful) (key : Bytes) (iv : BitVec 64) (p : Bytes) :
    (sealMac V key iv p).length = 32 :=
  (hV.macShort.length_mac ..).trans hV.macSize

theorem length_sealRest (hV : V.Lawful) (key : Bytes) (iv : BitVec 64) (p : Bytes) :
    (sealRest V key iv p).length = p.length + 32 := by
  rw [sealRest, List.length_append, length_sealMac hV, length_sealBody, Nat.add_comm]

theorem length_sealPacket (hV : V.Lawful) (key : Bytes) (iv : BitVec 64) (p : Bytes) :
    (sealPacket V key iv p).length = 5 + (p.length + 32) := by
  rw [sealPacket, List.length_append, length_sealHeader, length_sealRest hV]

theorem length_sealPacket_lt_iff (hV : V.Lawful) (key : Bytes) (iv : BitVec 64) (p : Bytes) :
    (sealPacket V key iv p).length < 2 ^ 31 ↔ FitsPacket p := by
  rw [length_sealPacket hV, FitsPacket]

/-- The packet of a code, as the second round of a handshake sends one. -/
theorem fitsPacket_mac (hV : V.Lawful) (key message : Bytes) :
    FitsPacket (V.macShort.mac key message) := by
  rw [FitsPacket, hV.macShort.length_mac, hV.macSize]
  decide

/-- Five octets with the packet type in front and `n` behind it. -/
theorem cuts_eq_iff {d : Bytes} (hd : d.length = 5) {t : UInt8} {n : ℕ} (hn : n < 256 ^ 4) :
    slice d 0 1 = [t] ∧ ofBE (slice d 1 5) = n ↔ d = t :: toBE 4 n := by
  obtain _ | ⟨b, bs⟩ := d
  · simp at hd
  · have hbs : bs.length = 4 := by simpa using hd
    have h₀ : slice (b :: bs) 0 1 = [b] := by simp [slice]
    have h₁ : slice (b :: bs) 1 5 = bs := by
      simpa [slice] using List.take_of_length_le hbs.le
    rw [h₀, h₁, ofBE_eq_iff hbs hn]
    simp

/-! ## The writer -/

section Calls

variable (hV : V.Lawful)
include hV

/-- **One stretch of a packet.** A stream that stands at the offset it is
called with masks its input there and leaves both advanced together; the
octets go right behind what the buffer holds. -/
theorem streamEncrypt_at {stream : V.stream.Instance} {key : Bytes} {iv : BitVec 64} {offset : ℕ}
    (hc : V.stream.cursor stream = ⟨key, hostBytes iv, offset⟩) (input pre : Bytes)
    (out n : ℕ) (failure : String) (ho : pre.length = out + offset) :
    ∃ stream', streamEncrypt V stream input (pre ++ zeros (input.length + n)) out offset failure =
        .ok (stream', pre ++ xorAt (packetStream V key iv) offset input ++ zeros n,
          offset + input.length) ∧
      V.stream.cursor stream' = ⟨key, hostBytes iv, offset + input.length⟩ := by
  obtain ⟨stream', henc, hcur⟩ := streamEncrypt_next hV stream input pre out offset n failure ho
  rw [hc] at henc hcur
  exact ⟨stream', henc, hcur⟩

/-- **The writer lays out `sealPacket`**, and copies it to an array. -/
theorem encryptPayloadNative_laidOut {key : Bytes} (hkey : V.Takes key) (iv : BitVec 64)
    (payload : Bytes) :
    encryptPayloadNative V (some key) iv payload = toByteArray (sealPacket V key iv payload)
      (.illegalState "return value array could not be allocated.") := by
  obtain ⟨⟨s₀, hs₀⟩, ⟨m₀, hm₀⟩⟩ := hkey
  obtain ⟨s₁, hs₁, hc₁⟩ := hV.stream.continueEncryption s₀ (hostBytes iv) 0
    (by rw [length_hostBytes, hV.streamIv])
  rw [hV.stream.init_key hs₀] at hc₁
  unfold encryptPayloadNative
  rw [orThrow_some, ok_bind]
  dsimp only
  rw [orThrow_bind hs₀, orThrow_bind hm₀, orThrow_bind hs₁]
  -- the three stretches of the stream, each behind the last in the buffer
  have hfresh : zeros (1 + 4 + 32 + payload.length) =
      zeros (1 + (4 + (32 + payload.length))) := by
    congr 1
    omega
  obtain ⟨s₂, henc₂, hc₂⟩ := streamEncrypt_at hV hc₁ [IPC_DATA_TYPE_AUTHED_PACKET] [] 0
    (4 + (32 + payload.length)) "encryption failure - type" rfl
  obtain ⟨s₃, henc₃, hc₃⟩ := streamEncrypt_at hV hc₂ (toBE 4 payload.length)
    (xorAt (packetStream V key iv) 0 [IPC_DATA_TYPE_AUTHED_PACKET]) 0
    (32 + payload.length) "encryption failure - size" (by simp)
  obtain ⟨s₄, henc₄, -⟩ := streamEncrypt_at hV hc₃ payload
    (sealHeader V key iv payload.length ++ zeros 32) 32 0 "encryption failure - payload"
    (by simp)
  have hheader : xorAt (packetStream V key iv) 0 [IPC_DATA_TYPE_AUTHED_PACKET] ++
      xorAt (packetStream V key iv) 1 (toBE 4 payload.length) =
      sealHeader V key iv payload.length := rfl
  simp only [List.length_singleton, length_toBE, List.nil_append, Nat.zero_add, Nat.add_zero,
    zeros_zero, List.append_nil] at henc₂ henc₃ henc₄
  rw [hfresh, bind_ok henc₂]
  dsimp only
  rw [bind_ok henc₃]
  dsimp only
  rw [hheader, zeros_add, ← List.append_assoc, bind_ok henc₄]
  dsimp only
  -- what the code absorbs is the header and the body, cut out of the buffer
  have hbody : xorAt (packetStream V key iv) (1 + 4) payload = sealBody V key iv payload := rfl
  have hcut₁ : slice (sealHeader V key iv payload.length ++ zeros 32 ++ sealBody V key iv payload)
      0 (1 + 4) = sealHeader V key iv payload.length := by
    rw [List.append_assoc, slice_append_left (by simp), slice_self _ _ (by simp)]
  have hcut₂ : slice (sealHeader V key iv payload.length ++ zeros 32 ++ sealBody V key iv payload)
      (1 + 4 + 32) (1 + 4 + 32 + payload.length) = sealBody V key iv payload := by
    rw [slice_append_right (by simp)]
    simp
  obtain ⟨m₁, m₂, hm₁, hm₂, hmac⟩ := hV.macShort.digest_two hm₀
    (sealHeader V key iv payload.length) (sealBody V key iv payload)
  rw [hbody, hcut₁, orThrow_bind hm₁, hcut₂, orThrow_bind hm₂, orThrow_bind hmac, ← sealMac,
    List.append_assoc, Buffer.write_hole (by simp) (by rw [length_zeros, length_sealMac hV]),
    orThrow_some]
  rfl

/-- It returns the packet, if an array can hold it. -/
theorem encryptPayloadNative_eq {key : Bytes} (hkey : V.Takes key) (iv : BitVec 64)
    {payload : Bytes} (hfits : FitsPacket payload) :
    encryptPayloadNative V (some key) iv payload = .ok (sealPacket V key iv payload) := by
  rw [encryptPayloadNative_laidOut hV hkey]
  exact toByteArray_eq ((length_sealPacket_lt_iff hV ..).mpr hfits) _

/-- A longer one is refused. -/
theorem encryptPayloadNative_error {key : Bytes} (hkey : V.Takes key) (iv : BitVec 64)
    {payload : Bytes} (hfits : ¬FitsPacket payload) :
    encryptPayloadNative V (some key) iv payload =
      .error (.illegalState "return value array could not be allocated.") := by
  rw [encryptPayloadNative_laidOut hV hkey, toByteArray,
    check_neg (mt (length_sealPacket_lt_iff hV ..).mp hfits), error_bind]

/-- **What the writer returns**, for any key: a packet that an array can hold,
and only for a key the suite takes. -/
theorem encryptPayloadNative_ok_iff {key : Bytes} {iv : BitVec 64} {payload pkt : Bytes} :
    encryptPayloadNative V (some key) iv payload = .ok pkt ↔
      V.Takes key ∧ FitsPacket payload ∧ pkt = sealPacket V key iv payload := by
  constructor
  · intro h
    have hkey : V.Takes key := by
      obtain ⟨_, hk, h⟩ := bind_eq_ok_iff.mp h
      obtain ⟨s, hs, h⟩ := bind_eq_ok_iff.mp h
      obtain ⟨m, hm, -⟩ := bind_eq_ok_iff.mp h
      cases hk
      exact ⟨⟨s, orThrow_eq_ok_iff.mp hs⟩, ⟨m, orThrow_eq_ok_iff.mp hm⟩⟩
    rw [encryptPayloadNative_laidOut hV hkey] at h
    obtain ⟨hsize, hpacket⟩ := toByteArray_eq_ok_iff.mp h
    exact ⟨hkey, (length_sealPacket_lt_iff hV ..).mp hsize, hpacket⟩
  · rintro ⟨hkey, hfits, rfl⟩
    exact encryptPayloadNative_eq hV hkey iv hfits

/-! ## The reader -/

/-- What the header reader computes once its key is taken: the header
unmasked, and two checks on it. -/
theorem decryptHeaderNative_eq {key : Bytes} (hkey : ∃ i, V.stream.init key = some i)
    (iv : BitVec 64) {header : Bytes} (hlen : header.length = 5) :
    decryptHeaderNative V (some key) iv header = (do
      let dheader := xorAt (packetStream V key iv) 0 header
      check (slice dheader 0 1 = [IPC_DATA_TYPE_AUTHED_PACKET])
        (.illegalState "invalid packet type")
      check (ofBE (slice dheader 1 5) ≤ MAX_PAYLOAD_SIZE) (.illegalState "invalid packet size")
      .ok (ofBE (slice dheader 1 5))) := by
  obtain ⟨s₀, hs₀⟩ := hkey
  obtain ⟨s₁, hs₁, hc₁⟩ := hV.stream.continueDecryption s₀ (hostBytes iv) 0
    (by rw [length_hostBytes, hV.streamIv])
  rw [hV.stream.init_key hs₀] at hc₁
  obtain ⟨s₂, hdec⟩ := streamDecrypt_fresh hV s₁ header "decryption failure"
  rw [hc₁] at hdec
  unfold decryptHeaderNative
  rw [orThrow_some, ok_bind, check_pos hlen, ok_bind]
  dsimp only
  rw [orThrow_bind hs₀, orThrow_bind hs₁, bind_ok hdec]
  rfl

/-- **The header reader accepts the headers of payloads up to the limit**,
and tells their size. -/
theorem decryptHeaderNative_ok_iff {key : Bytes} {iv : BitVec 64} {header : Bytes} {n : ℕ} :
    decryptHeaderNative V (some key) iv header = .ok n ↔
      (∃ i, V.stream.init key = some i) ∧ header = sealHeader V key iv n ∧
        n ≤ MAX_PAYLOAD_SIZE := by
  have hbound : n ≤ MAX_PAYLOAD_SIZE → n < 256 ^ 4 := by
    intro hn
    exact lt_of_le_of_lt hn (by decide)
  constructor
  · intro h
    obtain ⟨_, hk, h'⟩ := bind_eq_ok_iff.mp h
    obtain ⟨_, hlen, h'⟩ := bind_eq_ok_iff.mp h'
    obtain ⟨s, hs, -⟩ := bind_eq_ok_iff.mp h'
    cases hk
    have hkey : ∃ i, V.stream.init key = some i := ⟨s, orThrow_eq_ok_iff.mp hs⟩
    have hlen := check_eq_ok_iff.mp hlen
    -- the two checks on the unmasked header pin it down
    rw [decryptHeaderNative_eq hV hkey iv hlen] at h
    obtain ⟨_, htype, h⟩ := bind_eq_ok_iff.mp h
    obtain ⟨_, hsize, h⟩ := bind_eq_ok_iff.mp h
    have hn := Except.ok.inj h
    have hsize := check_eq_ok_iff.mp hsize
    rw [hn] at hsize
    refine ⟨hkey, ?_, hsize⟩
    exact xorAt_eq_iff.mp ((cuts_eq_iff (by simpa using hlen) (hbound hsize)).mp
      ⟨check_eq_ok_iff.mp htype, hn⟩)
  · rintro ⟨hkey, rfl, hn⟩
    have hclear : xorAt (packetStream V key iv) 0 (sealHeader V key iv n) =
        IPC_DATA_TYPE_AUTHED_PACKET :: toBE 4 n := by rw [sealHeader, xorAt_xorAt]
    obtain ⟨htype, hsize⟩ := (cuts_eq_iff (by simp) (hbound hn)).mpr hclear
    rw [decryptHeaderNative_eq hV hkey iv (length_sealHeader ..)]
    dsimp only
    rw [check_pos htype, ok_bind, hsize, check_pos hn, ok_bind]

/-- What the payload reader computes once its key is taken: the code
recomputed, compared, and the rest unmasked. -/
theorem decryptPayloadNative_eq {key : Bytes} (hkey : V.Takes key) (iv : BitVec 64)
    (header : Bytes) {payload : Bytes} (hlen : 32 ≤ payload.length) :
    decryptPayloadNative V (some key) iv header payload = (do
      check (payload.take 32 = V.macShort.mac key (header ++ payload.drop 32))
        (.java .messageVerificationException "Bad packet MAC")
      .ok (xorAt (packetStream V key iv) 5 (payload.drop 32))) := by
  obtain ⟨⟨s₀, hs₀⟩, ⟨m₀, hm₀⟩⟩ := hkey
  obtain ⟨s₁, hs₁, hc₁⟩ := hV.stream.continueDecryption s₀ (hostBytes iv) 5
    (by rw [length_hostBytes, hV.streamIv])
  rw [hV.stream.init_key hs₀] at hc₁
  obtain ⟨s₂, hdec⟩ := streamDecrypt_fresh hV s₁ (payload.drop 32) "decryption failure"
  rw [hc₁, List.length_drop] at hdec
  obtain ⟨m₁, m₂, hm₁, hm₂, hmac⟩ := hV.macShort.digest_two hm₀ header (payload.drop 32)
  have hwhole : slice (V.macShort.mac key (header ++ payload.drop 32)) 0 32 =
      V.macShort.mac key (header ++ payload.drop 32) :=
    slice_self _ _ (by rw [hV.macShort.length_mac, hV.macSize])
  unfold decryptPayloadNative
  rw [orThrow_some, ok_bind]
  dsimp only
  rw [hV.macSize, check_pos hlen, ok_bind, orThrow_bind hm₀, orThrow_bind hm₁, orThrow_bind hm₂,
    orThrow_bind hmac, hwhole, slice_zero]
  congr 1
  funext _
  rw [orThrow_bind hs₀, orThrow_bind hs₁, bind_ok hdec]
  rfl

/-- **The payload reader accepts what follows the header in a packet**, and
nothing else. -/
theorem decryptPayloadNative_ok_iff {key : Bytes} {iv : BitVec 64} {header rest payload : Bytes} :
    decryptPayloadNative V (some key) iv header rest = .ok payload ↔
      V.Takes key ∧ rest = V.macShort.mac key (header ++ sealBody V key iv payload) ++
        sealBody V key iv payload := by
  constructor
  · intro h
    obtain ⟨_, hk, h'⟩ := bind_eq_ok_iff.mp h
    obtain ⟨_, hlen, h'⟩ := bind_eq_ok_iff.mp h'
    obtain ⟨m, hm, h'⟩ := bind_eq_ok_iff.mp h'
    obtain ⟨_, -, h'⟩ := bind_eq_ok_iff.mp h'
    obtain ⟨_, -, h'⟩ := bind_eq_ok_iff.mp h'
    obtain ⟨_, -, h'⟩ := bind_eq_ok_iff.mp h'
    obtain ⟨_, -, h'⟩ := bind_eq_ok_iff.mp h'
    obtain ⟨s, hs, -⟩ := bind_eq_ok_iff.mp h'
    cases hk
    have hkey : V.Takes key := ⟨⟨s, orThrow_eq_ok_iff.mp hs⟩, ⟨m, orThrow_eq_ok_iff.mp hm⟩⟩
    have hlen : 32 ≤ rest.length := by
      rw [← hV.macSize]
      exact check_eq_ok_iff.mp hlen
    -- the code is compared as octets, and unmasking has an inverse
    rw [decryptPayloadNative_eq hV hkey iv header hlen] at h
    obtain ⟨_, hmac, h⟩ := bind_eq_ok_iff.mp h
    have hbody : rest.drop 32 = sealBody V key iv payload := xorAt_eq_iff.mp (Except.ok.inj h)
    refine ⟨hkey, ?_⟩
    rw [← hbody, ← check_eq_ok_iff.mp hmac, List.take_append_drop]
  · rintro ⟨hkey, rfl⟩
    have hmac : (V.macShort.mac key (header ++ sealBody V key iv payload)).length = 32 :=
      (hV.macShort.length_mac ..).trans hV.macSize
    rw [decryptPayloadNative_eq hV hkey iv header (by simp [hmac]),
      List.take_left' hmac, List.drop_left' hmac, check_pos rfl, ok_bind, sealBody, xorAt_xorAt]

/-- After its own header, the rest of a packet is read back. -/
theorem decryptPayloadNative_sealRest {key : Bytes} (hkey : V.Takes key) (iv : BitVec 64)
    (payload : Bytes) :
    decryptPayloadNative V (some key) iv (sealHeader V key iv payload.length)
      (sealRest V key iv payload) = .ok payload :=
  (decryptPayloadNative_ok_iff hV).mpr ⟨hkey, rfl⟩

/-- **Reading a stream accepts packets of payloads up to the limit**, consumes
exactly the packet, and accepts nothing else. -/
theorem readPacket_ok_iff {key : Bytes} {iv : BitVec 64} {stream payload rest : Bytes} :
    readPacket V (some key) iv stream = .ok (payload, rest) ↔
      V.Takes key ∧ payload.length ≤ MAX_PAYLOAD_SIZE ∧
        stream = sealPacket V key iv payload ++ rest := by
  constructor
  · intro h
    obtain ⟨_, h₅, h⟩ := bind_eq_ok_iff.mp h
    obtain ⟨n, hheader, h⟩ := bind_eq_ok_iff.mp h
    obtain ⟨_, hn, h⟩ := bind_eq_ok_iff.mp h
    obtain ⟨p, hpayload, h⟩ := bind_eq_ok_iff.mp h
    have hn := check_eq_ok_iff.mp hn
    obtain ⟨rfl, rfl⟩ := Prod.mk.inj (Except.ok.inj h)
    obtain ⟨-, hheader, hmax⟩ := (decryptHeaderNative_ok_iff hV).mp hheader
    obtain ⟨hkey, hrest⟩ := (decryptPayloadNative_ok_iff hV).mp hpayload
    -- the code is 32 octets, so the header counted the payload
    have hsize : n = p.length := by
      have hlen := congrArg List.length hrest
      rw [List.length_take, List.length_append, hV.macShort.length_mac, hV.macSize,
        length_sealBody] at hlen
      omega
    subst hsize
    refine ⟨hkey, hmax, ?_⟩
    calc stream = stream.take 5 ++ ((stream.drop 5).take (p.length + 32) ++
          (stream.drop 5).drop (p.length + 32)) := by
          rw [List.take_append_drop, List.take_append_drop]
      _ = sealPacket V key iv p ++ (stream.drop 5).drop (p.length + 32) := by
          rw [hrest, hheader, sealPacket, sealRest, sealMac]
          simp only [List.append_assoc]
  · rintro ⟨hkey, hmax, rfl⟩
    have hheader : (sealHeader V key iv payload.length).length = 5 := length_sealHeader ..
    have hrest := length_sealRest hV key iv payload
    have hlen : 5 ≤ (sealPacket V key iv payload ++ rest).length := by
      rw [List.length_append, length_sealPacket hV]
      omega
    rw [readPacket, check_pos hlen, ok_bind]
    dsimp only
    rw [sealPacket, List.append_assoc, List.take_left' hheader, List.drop_left' hheader,
      bind_ok ((decryptHeaderNative_ok_iff hV).mpr ⟨hkey.1, rfl, hmax⟩),
      check_pos (by rw [List.length_append, hrest]; omega), ok_bind, List.take_left' hrest,
      List.drop_left' hrest, bind_ok (decryptPayloadNative_sealRest hV hkey iv payload)]

end Calls

end VjBlockchain
