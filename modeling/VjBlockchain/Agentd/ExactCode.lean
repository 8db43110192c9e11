import VjBlockchain.Agentd.Packet
import VjBlockchain.Crypt.XorSuite
/-!
# The envelope is an exact code

Reading a stream succeeds exactly on the streams that start with the packet
the writer makes of some payload up to the limit, under any key and counter.
Everything else is refused with an exception, never by a native method
running off a buffer.
-/

namespace VjBlockchain

open Common Common.Bytes Common.Throwing

variable {V : Vccrypt}

section InBounds

variable (hV : V.Lawful)
include hV

theorem encryptPayloadNative_inBounds (key : Bytes) (iv : BitVec 64) (payload : Bytes) :
    InBounds (encryptPayloadNative V (some key) iv payload) := by
  by_cases hkey : V.Takes key
  · rw [encryptPayloadNative_laidOut hV hkey iv payload]
    exact .bind (.check ..) fun _ _ => .ok _
  · refine .bind (.orThrow ..) fun k hk => .bind (.orThrow ..) fun s hs =>
      .bind (.orThrow ..) fun m hm => absurd ⟨⟨s, ?_⟩, ⟨m, ?_⟩⟩ hkey
    · cases hk
      exact orThrow_eq_ok_iff.mp hs
    · cases hk
      exact orThrow_eq_ok_iff.mp hm

theorem decryptHeaderNative_inBounds (key : Bytes) (iv : BitVec 64) (header : Bytes) :
    InBounds (decryptHeaderNative V (some key) iv header) := by
  by_cases hgo : header.length = 5 ∧ ∃ i, V.stream.init key = some i
  · obtain ⟨hlen, hkey⟩ := hgo
    rw [decryptHeaderNative_eq hV hkey iv hlen]
    exact .bind (.check ..) fun _ _ => .bind (.check ..) fun _ _ => .ok _
  · -- the key or the length is refused before the stream is used
    refine .bind (.orThrow ..) fun k hk => .bind (.check ..) fun _ hlen =>
      .bind (.orThrow ..) fun s hs => absurd ⟨check_eq_ok_iff.mp hlen, s, ?_⟩ hgo
    cases hk
    exact orThrow_eq_ok_iff.mp hs

theorem decryptPayloadNative_inBounds (key : Bytes) (iv : BitVec 64) (header payload : Bytes) :
    InBounds (decryptPayloadNative V (some key) iv header payload) := by
  by_cases hgo : 32 ≤ payload.length ∧ V.Takes key
  · obtain ⟨hlen, hkey⟩ := hgo
    rw [decryptPayloadNative_eq hV hkey iv header hlen]
    exact .bind (.check ..) fun _ _ => .ok _
  · refine .bind (.orThrow ..) fun k hk => .bind (.check ..) fun _ hlen =>
      .bind (.orThrow ..) fun m hm => .bind (.orThrow ..) fun _ _ =>
      .bind (.orThrow ..) fun _ _ => .bind (.orThrow ..) fun _ _ =>
      .bind (.check ..) fun _ _ => .bind (.orThrow ..) fun s hs => absurd ⟨?_, ?_⟩ hgo
    · rw [← hV.macSize]
      exact check_eq_ok_iff.mp hlen
    · cases hk
      exact ⟨⟨s, orThrow_eq_ok_iff.mp hs⟩, ⟨m, orThrow_eq_ok_iff.mp hm⟩⟩

/-- Without a key the envelope throws at once. -/
theorem encryptPayload_inBounds (w : OuterEnvelopeWriter) (key : Option Bytes) (payload : Bytes) :
    InBounds (w.encryptPayload V key payload) := by
  cases key with
  | none => exact ⟨fun h => nomatch h⟩
  | some key => exact .bind (encryptPayloadNative_inBounds hV ..) fun _ _ => .ok _

theorem decryptHeader_inBounds (r : OuterEnvelopeReader) (key : Option Bytes) (header : Bytes) :
    InBounds (r.decryptHeader V key header) := by
  cases key with
  | none => exact ⟨fun h => nomatch h⟩
  | some key => exact decryptHeaderNative_inBounds hV ..

theorem decryptPayload_inBounds (r : OuterEnvelopeReader) (key : Option Bytes)
    (header payload : Bytes) : InBounds (r.decryptPayload V key header payload) := by
  cases key with
  | none => exact ⟨fun h => nomatch h⟩
  | some key => exact .bind (decryptPayloadNative_inBounds hV ..) fun _ _ => .ok _

theorem readPacket_inBounds (key : Bytes) (iv : BitVec 64) (stream : Bytes) :
    InBounds (readPacket V (some key) iv stream) :=
  .bind (.check ..) fun _ _ => .bind (decryptHeaderNative_inBounds hV ..) fun _ _ =>
    .bind (.check ..) fun _ _ => .bind (decryptPayloadNative_inBounds hV ..) fun _ _ => .ok _

end InBounds

/-- **The packet envelope is an exact code**, for every key and counter.
Reading yields a payload exactly when the payload is within the limit and
the octets consumed are the packet the writer makes of it; the header alone
already tells the payload's length; what is not such a packet is refused
with an exception; and with a key of the suite's size the writer makes a
packet of every payload whose packet an array can hold. -/
theorem envelope_exact (hV : V.Lawful) (key : Bytes) (iv : BitVec 64) :
    (∀ stream payload rest, readPacket V (some key) iv stream = .ok (payload, rest) ↔
      payload.length ≤ MAX_PAYLOAD_SIZE ∧
        ∃ packet, encryptPayloadNative V (some key) iv payload = .ok packet ∧
          stream = packet ++ rest) ∧
    (∀ stream payload rest, readPacket V (some key) iv stream = .ok (payload, rest) →
      decryptHeaderNative V (some key) iv (stream.take 5) = .ok payload.length) ∧
    (∀ stream f, readPacket V (some key) iv stream = .error f → ∃ e, f = .thrown e) ∧
    (key.length = 32 → ∀ payload, FitsPacket payload → ∃ packet,
      encryptPayloadNative V (some key) iv payload = .ok packet) := by
  refine ⟨?_, ?_, ?_, ?_⟩
  · intro stream payload rest
    rw [readPacket_ok_iff hV]
    constructor
    · rintro ⟨hkey, hmax, rfl⟩
      exact ⟨hmax, _, encryptPayloadNative_eq hV hkey iv (.of_le_max hmax), rfl⟩
    · rintro ⟨hmax, packet, hpacket, rfl⟩
      obtain ⟨hkey, -, rfl⟩ := (encryptPayloadNative_ok_iff hV).mp hpacket
      exact ⟨hkey, hmax, rfl⟩
  · intro stream payload rest h
    obtain ⟨hkey, hmax, rfl⟩ := (readPacket_ok_iff hV).mp h
    rw [sealPacket, List.append_assoc, List.take_left' (length_sealHeader ..)]
    exact (decryptHeaderNative_ok_iff hV).mpr ⟨hkey.1, rfl, hmax⟩
  · intro stream f h
    exact (readPacket_inBounds hV key iv stream).thrown h
  · intro hkey payload hfits
    exact ⟨_, encryptPayloadNative_eq hV (hV.takes hkey) iv hfits⟩

/-- Under the all-zero key, the first packet of an agent's stream. -/
theorem envelope_exact_zero :
    readPacket XorSuite.suite (some (zeros 32)) 0x8000000000000001
        (sealPacket XorSuite.suite (zeros 32) 0x8000000000000001 [7, 8, 9] ++ [1]) =
      .ok ([7, 8, 9], [1]) ∧
    ∃ packet, encryptPayloadNative XorSuite.suite (some (zeros 32)) 1 [7, 8, 9] = .ok packet := by
  obtain ⟨hread, -, -, -⟩ :=
    envelope_exact XorSuite.suite_lawful (zeros 32) 0x8000000000000001
  obtain ⟨-, -, -, hwrite⟩ := envelope_exact XorSuite.suite_lawful (zeros 32) 1
  refine ⟨(hread _ _ _).mpr ⟨by decide, _, ?_, rfl⟩, hwrite (by decide) _ (by decide)⟩
  exact encryptPayloadNative_eq XorSuite.suite_lawful
    (XorSuite.suite_lawful.takes (by decide)) _ (by decide)

end VjBlockchain
