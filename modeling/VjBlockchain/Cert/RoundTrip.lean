import VjBlockchain.Cert.Emit
import VjBlockchain.Cert.Parse
/-!
# Certificates round trip

What a sequence of `add` calls stores, `emit` writes as records, the parser
walks back, and the reader finds under the ids the calls named: as many
values as calls, in call order, each the serialized value of its call.
-/

namespace VjBlockchain

open Common Common.Bytes Common.Throwing CertificateParser

/-- The two ways to make a builder. -/
inductive BuilderStart
  | fragment
  | certificate (certificateType : UUID)

namespace BuilderStart

/-- The builder made. -/
def builder : BuilderStart → CertificateBuilder
  | fragment => .createCertificateFragmentBuilder
  | certificate t => .createCertificateBuilder t

/-- The calls it has already made on itself. -/
def defaults : BuilderStart → List AddCall
  | fragment => []
  | certificate t =>
    [.addInt Field.CERTIFICATE_VERSION 0x00010000, .addShort Field.CERTIFICATE_CRYPTO_SUITE 0x0001,
      .addUUID Field.CERTIFICATE_TYPE t]

theorem builder_fields (start : BuilderStart) :
    start.builder.fields = start.defaults.map AddCall.stored := by
  cases start <;> rfl

/-- **Every default field passes the checks asked of the caller's.** -/
theorem defaults_ok (start : BuilderStart) :
    ∀ c ∈ start.defaults, c.fieldId.toNat ≤ 0xFFFF ∧ c.serialized.length ≤ 65535 := by
  intro c hc
  cases start with
  | fragment => cases hc
  | certificate t =>
    simp only [defaults, List.mem_cons, List.not_mem_nil, or_false] at hc
    rcases hc with rfl | rfl | rfl
    · exact ⟨by decide, by decide⟩
    · exact ⟨by decide, by decide⟩
    · refine ⟨?_, ?_⟩
      · show Field.CERTIFICATE_TYPE.toNat ≤ 0xFFFF
        decide
      · simp [AddCall.serialized, CertificateBuilder.serializeUUID]

end BuilderStart

namespace AddCall

/-- The calls among `made` that name a field id. -/
def named (made : List AddCall) (f : JInt) : List AddCall := made.filter fun c => c.fieldId = f

/-- The octets a sequence of calls takes up in a certificate. -/
def totalSize (made : List AddCall) : ℕ := (made.map fun c => 4 + c.serialized.length).sum

theorem encodedSize_stored (made : List AddCall) :
    encodedSize (made.map stored) = totalSize made := by
  rw [encodedSize, List.map_map]
  rfl

/-- **A 16-bit id survives** the signed key, the record, and the unsigned
entry of the parser. -/
theorem entry_stored {c : AddCall} (h : c.fieldId.toNat ≤ 0xFFFF) :
    entry (fieldRecord c.stored) = (c.fieldId, c.serialized) := by
  have hid : (c.fieldId.setWidth 16).setWidth 32 = c.fieldId := by
    apply BitVec.eq_of_toNat_eq
    rw [BitVec.toNat_setWidth, BitVec.toNat_setWidth]
    omega
  rw [fieldRecord_stored, entry, hid]

theorem valuesOf_entries (made : List AddCall) (f : JInt) :
    valuesOf (made.map fun c => (c.fieldId, c.serialized)) f = (named made f).map serialized := by
  rw [valuesOf, List.filter_map, List.map_map]
  rfl

end AddCall

open AddCall in
/-- **A reader over what a builder emits** holds the calls' values under the
calls' ids, and the certificate is as long as they are. -/
theorem reader_of_emit {C : Vccert} (hC : C.Lawful) {made : List AddCall} {b : CertificateBuilder}
    (hfields : b.fields = made.map stored) (hne : made ≠ [])
    (hok : ∀ c ∈ made, c.fieldId.toNat ≤ 0xFFFF ∧ c.serialized.length ≤ 65535)
    (htotal : totalSize made < 2 ^ 31) :
    ∃ cert r, b.emit C = .ok cert ∧ cert.byteArray.length = totalSize made ∧
      CertificateReader.new C (.new cert) = .ok r ∧
      r.certFields = group (made.map fun c => (c.fieldId, c.serialized)) := by
  have hrecords : ∀ r ∈ b.fields.map fieldRecord, r.Fits := by
    intro r hr
    rw [hfields, List.map_map] at hr
    obtain ⟨c, hc, rfl⟩ := List.mem_map.mp hr
    exact Nat.lt_succ_of_le (hok c hc).2
  have hemit : b.emit C = .ok ⟨Record.encodeAll (b.fields.map fieldRecord)⟩ := by
    apply CertificateBuilder.emit_eq hC
    · rw [hfields]
      exact fun h => hne (List.map_eq_nil_iff.mp h)
    · intro field hfield
      exact hrecords (fieldRecord field) (List.mem_map_of_mem hfield)
    · rwa [hfields, encodedSize_stored]
  have hrecords_ne : b.fields.map fieldRecord ≠ [] := by
    rw [hfields]
    exact fun h => hne (List.map_eq_nil_iff.mp (List.map_eq_nil_iff.mp h))
  -- the signed keys of the builder come back as the ids that were named
  have hentries : (b.fields.map fieldRecord).map entry =
      made.map fun c => (c.fieldId, c.serialized) := by
    rw [hfields, List.map_map, List.map_map]
    exact List.map_congr_left fun c hc => entry_stored (hok c hc).1
  have hparse := parse_encodeAll hC hrecords_ne hrecords
  rw [hentries] at hparse
  have hread : CertificateReader.new C (.new ⟨Record.encodeAll (b.fields.map fieldRecord)⟩) =
      .ok ⟨.new ⟨Record.encodeAll (b.fields.map fieldRecord)⟩,
        group (made.map fun c => (c.fieldId, c.serialized))⟩ := by
    rw [CertificateReader.new, CertificateParser.new, hparse, ok_bind]
  refine ⟨_, _, hemit, ?_, hread, rfl⟩
  rw [length_encodeAll_fields, hfields, encodedSize_stored]

open AddCall in
/-- **Certificates round trip.** For every sequence of `add` calls that
returns, on either kind of builder, with ids of sixteen bits, values of at
most 65535 octets, and less than `2 ^ 31` octets in all: `emit` succeeds, and
a reader over the certificate counts for each id the calls that named it,
returns for each of them, in call order, its serialized value, and knows no
other ids. -/
theorem certificate_round_trip {C : Vccert} (hC : C.Lawful) (start : BuilderStart)
    (calls : List AddCall) (hne : start.defaults ++ calls ≠ [])
    (hids : ∀ c ∈ calls, c.fieldId.toNat ≤ 0xFFFF)
    (hfits : ∀ c ∈ calls, c.serialized.length ≤ 65535)
    (htotal : totalSize (start.defaults ++ calls) < 2 ^ 31) (b : CertificateBuilder)
    (hcalls : callAll start.builder calls = .ok b) :
    ∃ cert r, b.emit C = .ok cert ∧ CertificateReader.new C (.new cert) = .ok r ∧
      (∀ f, r.count f = (named (start.defaults ++ calls) f).length) ∧
      (∀ f i, i < r.count f → ∃ fr, r.get f i = .ok fr ∧
        ((named (start.defaults ++ calls) f)[i]?).map serialized = some fr.asByteArray) ∧
      r.getFields = { f | ∃ c ∈ start.defaults ++ calls, c.fieldId = f } := by
  have hfields : b.fields = (start.defaults ++ calls).map stored := by
    rw [callAll_fields hcalls, start.builder_fields, List.map_append]
  have hok : ∀ c ∈ start.defaults ++ calls,
      c.fieldId.toNat ≤ 0xFFFF ∧ c.serialized.length ≤ 65535 := by
    intro c hc
    rcases List.mem_append.mp hc with hc | hc
    · exact start.defaults_ok c hc
    · exact ⟨hids c hc, hfits c hc⟩
  obtain ⟨cert, r, hemit, -, hread, hmap⟩ := reader_of_emit hC hfields hne hok htotal
  refine ⟨cert, r, hemit, hread, ?_, ?_, ?_⟩
  · intro f
    rw [CertificateReader.count_eq hmap, valuesOf_entries, List.length_map]
  · intro f i hi
    rw [CertificateReader.count_eq hmap] at hi
    refine ⟨_, CertificateReader.get_eq hmap hi, ?_⟩
    show _ = some (valuesOf ((start.defaults ++ calls).map fun c => (c.fieldId, c.serialized)) f)[i]
    rw [← List.getElem?_eq_getElem hi, valuesOf_entries, List.getElem?_map]
  · ext f
    rw [CertificateReader.mem_getFields hmap]
    constructor
    · rintro ⟨field, hfield, rfl⟩
      obtain ⟨c, hc, rfl⟩ := List.mem_map.mp hfield
      exact ⟨c, hc, rfl⟩
    · rintro ⟨c, hc, rfl⟩
      exact ⟨_, List.mem_map_of_mem hc, rfl⟩

open AddCall in
/-- A fragment with one id named twice, bit 15 set, around another. -/
theorem certificate_round_trip_twice :
    ∃ cert r, CertificateBuilder.emit BufferCert.lib
        ⟨[(0xFFFF8001, [1]), (0x0400, [2, 3]), (0xFFFF8001, [])]⟩ = .ok cert ∧
      CertificateReader.new BufferCert.lib (.new cert) = .ok r ∧ r.count 0x8001 = 2 ∧
      ∃ fr, r.get 0x8001 1 = .ok fr ∧ fr.asByteArray = [] := by
  obtain ⟨cert, r, hemit, hread, hcount, hget, -⟩ := certificate_round_trip BufferCert.lib_lawful
    .fragment [.addByte 0x8001 1, .addByteArray 0x0400 [2, 3], .addByteArray 0x8001 []]
    (by decide) (by decide) (by decide) (by decide)
    ⟨[(0xFFFF8001, [1]), (0x0400, [2, 3]), (0xFFFF8001, [])]⟩ rfl
  have htwo : r.count 0x8001 = 2 := (hcount 0x8001).trans (by decide)
  obtain ⟨fr, hfr, hvalue⟩ := hget 0x8001 1 (by omega)
  exact ⟨cert, r, hemit, hread, htwo, fr, hfr, (Option.some.inj hvalue).symm⟩

end VjBlockchain
