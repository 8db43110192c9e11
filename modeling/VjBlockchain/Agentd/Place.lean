import VjBlockchain.Agentd.ExactCode
/-!
# What binds a packet to its place

The counter goes into the keystream and nowhere else. The code is taken over
the masked octets as sent, so it is the same code wherever the packet is
opened: the payload reader accepts a packet at every counter, and at another
than its own it unmasks with the wrong keystream.

What a wrong counter can upset is the header, since its five octets have to
unmask to the packet type and a size. That is a matter of the two keystreams
alone.
-/

namespace VjBlockchain

open Common Common.Bytes Common.Throwing

variable (V : Vccrypt)

/-- The keystreams of two packets agree on `n` octets from position `p`. -/
def StreamsAgree (key : Bytes) (i j : BitVec 64) (p n : ℕ) : Prop :=
  ∀ k < n, packetStream V key i (p + k) = packetStream V key j (p + k)

/-- The payload of the packet numbered `i`, unmasked as if it were numbered
`j`. -/
def misread (key : Bytes) (i j : BitVec 64) (payload : Bytes) : Bytes :=
  xorAt (packetStream V key j) 5 (sealBody V key i payload)

variable {V}

/-- Nothing is misread exactly where the keystreams agree. -/
theorem misread_eq_iff {key payload : Bytes} {i j : BitVec 64} :
    misread V key i j payload = payload ↔ StreamsAgree V key i j 5 payload.length := by
  rw [misread, xorAt_eq_iff]
  exact xorAt_congr_iff

theorem sealHeader_eq_iff {key : Bytes} {i j : BitVec 64} {n : ℕ} :
    sealHeader V key i n = sealHeader V key j n ↔ StreamsAgree V key i j 0 5 := by
  refine xorAt_congr_iff.trans ?_
  rw [List.length_cons, length_toBE]
  rfl

section Reader

variable (hV : V.Lawful)
include hV

/-- **The code does not tell the place**: the rest of a packet is accepted at
every counter. -/
theorem decryptPayloadNative_misread {key : Bytes} (hkey : V.Takes key) (i j : BitVec 64)
    (payload : Bytes) :
    decryptPayloadNative V (some key) j (sealHeader V key i payload.length)
      (sealRest V key i payload) = .ok (misread V key i j payload) := by
  refine (decryptPayloadNative_ok_iff hV).mpr ⟨hkey, ?_⟩
  have hbody : sealBody V key j (misread V key i j payload) = sealBody V key i payload :=
    xorAt_xorAt ..
  rw [hbody, sealRest, sealMac]

/-- **The header tells it** as far as the keystreams do. -/
theorem decryptHeaderNative_misread {key : Bytes} (hkey : V.Takes key) (i j : BitVec 64)
    (n : ℕ) :
    decryptHeaderNative V (some key) j (sealHeader V key i n) = .ok n ↔
      StreamsAgree V key i j 0 5 ∧ n ≤ MAX_PAYLOAD_SIZE := by
  rw [decryptHeaderNative_ok_iff hV, and_iff_right hkey.1, sealHeader_eq_iff]

/-- A first octet masked differently unmasks to no packet type. -/
theorem decryptHeaderNative_wrongType {key : Bytes} (hkey : V.Takes key) {i j : BitVec 64}
    (h : packetStream V key i 0 ≠ packetStream V key j 0) (n : ℕ) :
    decryptHeaderNative V (some key) j (sealHeader V key i n) =
      .error (.illegalState "invalid packet type") := by
  have htype : slice (xorAt (packetStream V key j) 0 (sealHeader V key i n)) 0 1 ≠
      [IPC_DATA_TYPE_AUTHED_PACKET] := by
    intro htype
    have hoctet : IPC_DATA_TYPE_AUTHED_PACKET ^^^ packetStream V key i 0 ^^^
        packetStream V key j 0 = IPC_DATA_TYPE_AUTHED_PACKET := (List.cons.inj htype).1
    rw [UInt8.xor_assoc] at hoctet
    have hzero := (UInt8.xor_right_inj _).mp (hoctet.trans UInt8.xor_zero.symm)
    exact h (UInt8.xor_eq_zero_iff.mp hzero)
  rw [decryptHeaderNative_eq hV hkey.1 j (length_sealHeader ..)]
  dsimp only
  rw [check_neg htype, error_bind]

end Reader

/-- **A packet is not bound to its place by its code.** Whatever the writer
made at counter `i`, the payload reader takes at counter `j`, and unmasks
with the keystream of `j`. The header reader gives the payload's size exactly
if the two keystreams agree on the five octets of the header and the size is
within the limit, and throws if they differ in the first one. -/
theorem payload_taken_anywhere (hV : V.Lawful) {key payload packet : Bytes} {i : BitVec 64}
    {writer : OuterEnvelopeWriter}
    (hsent : (OuterEnvelopeWriter.mk i).encryptPayload V (some key) payload =
      .ok (packet, writer)) (j : BitVec 64) :
    (OuterEnvelopeReader.mk j).decryptPayload V (some key) (packet.take 5) (packet.drop 5) =
        .ok (misread V key i j payload, ⟨j + 1⟩) ∧
      (misread V key i j payload = payload ↔ StreamsAgree V key i j 5 payload.length) ∧
      ((OuterEnvelopeReader.mk j).decryptHeader V (some key) (packet.take 5) =
          .ok payload.length ↔
        StreamsAgree V key i j 0 5 ∧ payload.length ≤ MAX_PAYLOAD_SIZE) ∧
      (packetStream V key i 0 ≠ packetStream V key j 0 →
        (OuterEnvelopeReader.mk j).decryptHeader V (some key) (packet.take 5) =
          .error (.illegalState "invalid packet type")) := by
  obtain ⟨_, hnative, hsent⟩ := bind_eq_ok_iff.mp hsent
  obtain ⟨rfl, -⟩ := Prod.mk.inj (Except.ok.inj hsent)
  obtain ⟨hkey, -, rfl⟩ := (encryptPayloadNative_ok_iff hV).mp hnative
  have hheader : (sealHeader V key i payload.length).length = 5 := length_sealHeader ..
  rw [sealPacket, List.take_left' hheader, List.drop_left' hheader]
  refine ⟨?_, misread_eq_iff, ?_, ?_⟩
  · exact bind_ok (decryptPayloadNative_misread hV hkey i j payload)
  · exact decryptHeaderNative_misread hV hkey i j payload.length
  · exact fun h => decryptHeaderNative_wrongType hV hkey h payload.length

/-- In the open, the first packet of a writer is taken by a reader at the
second counter, and its header is not. -/
theorem payload_taken_anywhere_open :
    (OuterEnvelopeReader.mk 2).decryptPayload XorSuite.suite (some (zeros 32))
        ((sealPacket XorSuite.suite (zeros 32) 1 [7]).take 5)
        ((sealPacket XorSuite.suite (zeros 32) 1 [7]).drop 5) =
      .ok (misread XorSuite.suite (zeros 32) 1 2 [7], ⟨3⟩) ∧
    (OuterEnvelopeReader.mk 2).decryptHeader XorSuite.suite (some (zeros 32))
        ((sealPacket XorSuite.suite (zeros 32) 1 [7]).take 5) =
      .error (.illegalState "invalid packet type") := by
  have hkey : XorSuite.suite.Takes (zeros 32) := XorSuite.suite_lawful.takes rfl
  have hsent : (OuterEnvelopeWriter.mk 1).encryptPayload XorSuite.suite (some (zeros 32)) [7] =
      .ok (sealPacket XorSuite.suite (zeros 32) 1 [7], ⟨2⟩) :=
    bind_ok (encryptPayloadNative_eq XorSuite.suite_lawful hkey 1 (by decide))
  obtain ⟨hpayload, -, -, hheader⟩ := payload_taken_anywhere XorSuite.suite_lawful hsent 2
  exact ⟨hpayload, hheader (by decide)⟩

/-- In the open the code of short messages tells them apart. -/
theorem XorSuite.mac_separates {m m' : Bytes} (hm : m.length ≤ 30) (hm' : m'.length ≤ 30)
    (h : XorSuite.suite.macShort.mac (zeros 32) m = XorSuite.suite.macShort.mac (zeros 32) m') :
    m = m' := by
  have hbound : ∀ m : Bytes, m.length ≤ 30 →
      ofBE (zeros 32) + 31 * ofBE m + m.length < 256 ^ 32 := by
    intro m hm
    have hlt : ofBE m < 256 ^ 30 :=
      (ofBE_lt m).trans_le (Nat.pow_le_pow_right (by decide) hm)
    have hzero : ofBE (zeros 32) = 0 := by decide
    omega
  have hsum : ofBE (zeros 32) + 31 * ofBE m + m.length =
      ofBE (zeros 32) + 31 * ofBE m' + m'.length := by
    rw [← ofBE_toBE (hbound m hm), ← ofBE_toBE (hbound m' hm')]
    exact congrArg ofBE h
  -- the lengths are what is left modulo 31
  refine ofBE_injective ?_ ?_ <;> omega

/-- **A replayed packet is taken**: the writer's packet at counter 1, by a
reader at counter 2, under a code that is the same for no two messages of up to
thirty octets. -/
theorem replayed_packet_is_taken :
    (∀ m m' : Bytes, m.length ≤ 30 → m'.length ≤ 30 →
      XorSuite.suite.macShort.mac (zeros 32) m = XorSuite.suite.macShort.mac (zeros 32) m' →
      m = m') ∧
    ∃ packet : Bytes, packet.length = 38 ∧
      (OuterEnvelopeWriter.mk 1).encryptPayload XorSuite.suite (some (zeros 32)) [7] =
        .ok (packet, ⟨2⟩) ∧
      (OuterEnvelopeReader.mk 2).decryptPayload XorSuite.suite (some (zeros 32))
        (packet.take 5) (packet.drop 5) = .ok ([7], ⟨3⟩) := by
  refine ⟨fun m m' hm hm' => XorSuite.mac_separates hm hm', _, ?_, rfl, ?_⟩
  · decide +kernel
  · decide +kernel

end VjBlockchain
