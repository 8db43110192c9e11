import VjBlockchain.Cert.Emit
/-!
# No damaged certificate

`emit` and `sign` add up the sizes of all fields in 32 bits. The sum may have
lost a multiple of `2 ^ 32`, or be negative; it is then the capacity of the
library's builder, and the size the result is compared with. A negative
capacity is refused when it is widened, and one that is too small runs out
before the last field. What is returned is therefore whole.

`sign` counts its two own fields in advance and has the library append them.
It goes through the list in a loop of its own.
-/

namespace VjBlockchain

open Common Common.Bytes Common.Throwing

namespace Field

def SIGNER_ID : JInt := 0x0050
def SIGNATURE : JInt := 0x0051

end Field

/-- The signing side of the two native libraries: two sizes of the suite, and
`vccert_builder_sign`. -/
structure Signer (C : Vccert) where
  signatureSize : ℕ
  privateKeySize : ℕ
  builderSign : C.Builder → Bytes → Bytes → Option C.Builder

/-- The records a signature adds. -/
def signRecords (signerId signature : Bytes) : List Record :=
  [⟨Field.SIGNER_ID.setWidth 16, signerId⟩, ⟨Field.SIGNATURE.setWidth 16, signature⟩]

/-- **A strict library** refuses what it cannot hold: a capacity beyond memory,
a value beyond its length field, a field beyond the capacity. -/
structure Vccert.Strict (C : Vccert) : Prop where
  builderInit : ∀ {n b}, C.builderInit n = some b →
    n < 2 ^ 63 ∧ C.capacity b = n ∧ C.written b = []
  addShortBuffer : ∀ {b b' tag value}, C.addShortBuffer b tag value = some b' →
    value.length < 65536 ∧ (C.written b).length + (4 + value.length) ≤ C.capacity b ∧
      C.capacity b' = C.capacity b ∧ C.written b' = C.written b ++ Record.encode ⟨tag, value⟩
  builderEmit : ∀ b, C.builderEmit b = C.written b

/-- **A lawful signer** appends the signer's id and a signature, and nothing
else. -/
structure Signer.Lawful {C : Vccert} (G : Signer C) : Prop where
  signatureSize : G.signatureSize < 65536
  builderSign : ∀ {b b' signerId privateKey}, G.builderSign b signerId privateKey = some b' →
    ∃ signature, signature.length = G.signatureSize ∧
      C.written b' = C.written b ++ Record.encodeAll (signRecords signerId signature)

/-- A `SigningPrivateKey`, whose constructor checks nothing. -/
structure SigningPrivateKey where
  rawBytes : Option Bytes

namespace CertificateBuilder

variable (C : Vccert) (G : Signer C)

/-- The loop of `signNative` over the fields, with its message. -/
def appendFields (failure : String) (builder : C.Builder) :
    List (JInt × Bytes) → Except Fault C.Builder
  | [] => .ok builder
  | (fieldType, value) :: fields => do
    let builder ← orThrow (C.addShortBuffer builder (fieldType.setWidth 16) value)
      (.illegalState failure)
    appendFields failure builder fields

variable {C}

/-- `signNative`. -/
def signNative (b : CertificateBuilder) (signerId privateKey : Option Bytes) :
    Except Fault Certificate := do
  let signerId ← orThrow signerId (.java .nullPointerException "signerId")
  let privateKey ← orThrow privateKey (.java .nullPointerException "privateKey")
  check (signerId.length = 16)
    (.java .illegalArgumentException "Signer ID is the wrong size")
  let lst := b.fields.take (LinkedList.size b.fields).toNat
  let certSize := certSize lst + BitVec.ofNat 32 (2 * 2 + 2 * 2 + 16 + G.signatureSize)
  let builder ← orThrow (C.builderInit (certSize.signExtend 64).toNat)
    (.illegalState "general error.")
  let builder ← appendFields C "general error." builder lst
  check (privateKey.length = G.privateKeySize)
    (.java .illegalArgumentException "Private key is the wrong size")
  let builder ← orThrow (G.builderSign builder signerId privateKey)
    (.illegalState "signature error")
  let outbuf := C.builderEmit builder
  check (outbuf.length = certSize.toNat) (.illegalState "emitted_size != cert_size")
  .ok ⟨outbuf⟩

/-- `sign`. -/
def sign (b : CertificateBuilder) (signerId : UUID) (privateKey : SigningPrivateKey) :
    Except Fault Certificate :=
  signNative G b (some (serializeUUID signerId)) privateKey.rawBytes

/-! ## Staying inside -/

/-- The two loops differ in their message only. -/
theorem addFields_eq_appendFields (builder : C.Builder) (fields : List (JInt × Bytes)) :
    addFields C builder fields =
      appendFields C "vccert_builder_add_short_buffer" builder fields := by
  induction fields generalizing builder with
  | nil => rfl
  | cons field fields ih =>
    rw [addFields, appendFields]
    congr 1
    funext builder'
    exact ih builder'

theorem appendFields_inBounds (failure : String) (fields : List (JInt × Bytes)) :
    ∀ builder : C.Builder, InBounds (appendFields C failure builder fields) := by
  induction fields with
  | nil => exact fun builder => .ok builder
  | cons field fields ih => exact fun builder => .bind (.orThrow ..) fun _ _ => ih _

theorem emit_inBounds (b : CertificateBuilder) : InBounds (emit C b) := by
  refine .bind (.check ..) fun _ _ => .bind (.orThrow ..) fun builder _ => .bind ?_ fun _ _ =>
    .bind (.check ..) fun _ _ => .ok _
  rw [addFields_eq_appendFields]
  exact appendFields_inBounds ..

theorem sign_inBounds (b : CertificateBuilder) (signerId : UUID)
    (privateKey : SigningPrivateKey) : InBounds (sign G b signerId privateKey) :=
  .bind (.orThrow ..) fun _ _ => .bind (.orThrow ..) fun _ _ => .bind (.check ..) fun _ _ =>
    .bind (.orThrow ..) fun _ _ => .bind (appendFields_inBounds ..) fun _ _ =>
      .bind (.check ..) fun _ _ => .bind (.orThrow ..) fun _ _ => .bind (.check ..) fun _ _ =>
        .ok _

/-! ## Every wrap-around is caught -/

/-- A size that may be allocated is not negative. -/
theorem signExtend_lt {size : BitVec 32} (h : (size.signExtend 64).toNat < 2 ^ 63) :
    (size.signExtend 64).toNat = size.toNat ∧ size.toNat < 2 ^ 31 := by
  have hmsb : (size.signExtend 64).msb = false := by
    rw [BitVec.msb_eq_decide]
    exact decide_eq_false (by omega)
  rw [BitVec.msb_signExtend] at hmsb
  have hsize : size.msb = false := by simpa using hmsb
  constructor
  · rw [BitVec.signExtend_eq_setWidth_of_msb_false hsize, BitVec.toNat_setWidth]
    omega
  · rw [BitVec.msb_eq_decide, decide_eq_false_iff_not] at hsize
    omega

section Strict

variable (hC : C.Strict)
include hC

/-- **What a loop that returns has appended**: every field, each within its
length field, all within the capacity. -/
theorem appendFields_ok {failure : String} {fields : List (JInt × Bytes)} :
    ∀ {builder builder' : C.Builder}, appendFields C failure builder fields = .ok builder' →
      (∀ field ∈ fields, field.2.length < 65536) ∧ C.capacity builder' = C.capacity builder ∧
      C.written builder' = C.written builder ++ Record.encodeAll (fields.map fieldRecord) ∧
      ((C.written builder).length ≤ C.capacity builder →
        (C.written builder).length + encodedSize fields ≤ C.capacity builder) := by
  induction fields with
  | nil =>
    intro builder builder' h
    obtain rfl := Except.ok.inj h
    exact ⟨List.forall_mem_nil _, rfl, (List.append_nil _).symm, id⟩
  | cons field fields ih =>
    intro builder builder' h
    obtain ⟨fieldType, value⟩ := field
    obtain ⟨builder₁, hadd, hrest⟩ := bind_eq_ok_iff.mp h
    obtain ⟨hvalue, hroom, hcap, hwritten⟩ := hC.addShortBuffer (orThrow_eq_ok_iff.mp hadd)
    obtain ⟨hfit, hcap', hwritten', hroom'⟩ := ih hrest
    refine ⟨List.forall_mem_cons.mpr ⟨hvalue, hfit⟩, hcap'.trans hcap, ?_, fun _ => ?_⟩
    · rw [hwritten', hwritten, List.map_cons, Record.encodeAll_cons, List.append_assoc,
        fieldRecord]
    · have hlen : (C.written builder₁).length =
          (C.written builder).length + (4 + value.length) := by
        rw [hwritten, List.length_append, Record.length_encode]
      have := hroom' (by omega)
      rw [encodedSize_cons]
      dsimp only
      omega

/-- **Two loops that return went through the whole list.** The builder of a
32-bit size holds all fields, in order. -/
theorem loops_ok {failure : String} {size : BitVec 32} {fields : List (JInt × Bytes)}
    {builder builder' : C.Builder} (hinit : C.builderInit (size.signExtend 64).toNat = some builder)
    (hadd : appendFields C failure builder (fields.take (LinkedList.size fields).toNat) =
      .ok builder') :
    (∀ field ∈ fields, field.2.length < 65536) ∧
      C.written builder' = Record.encodeAll (fields.map fieldRecord) := by
  obtain ⟨hmemory, hcap, hempty⟩ := hC.builderInit hinit
  obtain ⟨hfit, -, hwritten, hroom⟩ := appendFields_ok hC hadd
  obtain ⟨hsize, hlt⟩ := signExtend_lt hmemory
  have hroom := hroom (by rw [hempty]; exact Nat.zero_le _)
  rw [hempty, List.length_nil, hcap, hsize] at hroom
  -- a list cut off at the largest int would take more octets than that
  have hshort : fields.length < 2 ^ 31 := by
    have hfour := four_mul_length_le (fields.take (LinkedList.size fields).toNat)
    have hlen : (fields.take (LinkedList.size fields).toNat).length =
        min (min fields.length (2 ^ 31 - 1)) fields.length := by
      rw [List.length_take, LinkedList.size_toNat]
    omega
  rw [LinkedList.take_size hshort] at hfit hwritten
  rw [hempty, List.nil_append] at hwritten
  exact ⟨hfit, hwritten⟩

/-- What `emit` returns. -/
theorem emit_ok {b : CertificateBuilder} {cert : Certificate} (h : emit C b = .ok cert) :
    (∀ field ∈ b.fields, field.2.length < 65536) ∧
      cert.byteArray = Record.encodeAll (b.fields.map fieldRecord) := by
  obtain ⟨_, -, h⟩ := bind_eq_ok_iff.mp h
  obtain ⟨builder, hinit, h⟩ := bind_eq_ok_iff.mp h
  obtain ⟨builder', hadd, h⟩ := bind_eq_ok_iff.mp h
  obtain ⟨_, -, h⟩ := bind_eq_ok_iff.mp h
  obtain rfl := Except.ok.inj h
  rw [addFields_eq_appendFields] at hadd
  obtain ⟨hfit, hwritten⟩ := loops_ok hC (orThrow_eq_ok_iff.mp hinit) hadd
  exact ⟨hfit, (hC.builderEmit builder').trans hwritten⟩

/-- What `sign` returns. -/
theorem sign_ok {G : Signer C} (hG : G.Lawful) {b : CertificateBuilder} {signerId : UUID}
    {privateKey : SigningPrivateKey} {cert : Certificate}
    (h : sign G b signerId privateKey = .ok cert) :
    (∀ field ∈ b.fields, field.2.length < 65536) ∧
      ∃ signature, signature.length = G.signatureSize ∧
        cert.byteArray = Record.encodeAll (b.fields.map fieldRecord) ++
          Record.encodeAll (signRecords (serializeUUID signerId) signature) := by
  obtain ⟨_, hid, h⟩ := bind_eq_ok_iff.mp h
  obtain ⟨_, -, h⟩ := bind_eq_ok_iff.mp h
  obtain ⟨_, -, h⟩ := bind_eq_ok_iff.mp h
  obtain ⟨builder, hinit, h⟩ := bind_eq_ok_iff.mp h
  obtain ⟨builder', hadd, h⟩ := bind_eq_ok_iff.mp h
  obtain ⟨_, -, h⟩ := bind_eq_ok_iff.mp h
  obtain ⟨signed, hsign, h⟩ := bind_eq_ok_iff.mp h
  obtain ⟨_, -, h⟩ := bind_eq_ok_iff.mp h
  obtain rfl := Except.ok.inj h
  obtain rfl := Option.some.inj (orThrow_eq_ok_iff.mp hid)
  obtain ⟨hfit, hwritten⟩ := loops_ok hC (orThrow_eq_ok_iff.mp hinit) hadd
  obtain ⟨signature, hlen, happended⟩ := hG.builderSign (orThrow_eq_ok_iff.mp hsign)
  refine ⟨hfit, signature, hlen, ?_⟩
  rw [← hwritten, ← happended]
  exact hC.builderEmit signed

end Strict

/-- **No certificate is damaged.** Over whatever fields, `emit` throws or
returns all of them as records, in order; `sign` throws or returns the same
records, the signer's id and a signature. Each record's value fits its length
field. -/
theorem emit_sign_whole {C : Vccert} (hC : C.Strict) {G : Signer C} (hG : G.Lawful)
    (b : CertificateBuilder) :
    InBounds (emit C b) ∧
    (∀ cert, emit C b = .ok cert → (∀ field ∈ b.fields, field.2.length < 65536) ∧
      cert.byteArray = Record.encodeAll (b.fields.map fieldRecord)) ∧
    ∀ (signerId : UUID) (privateKey : SigningPrivateKey),
      InBounds (sign G b signerId privateKey) ∧
      ∀ cert, sign G b signerId privateKey = .ok cert →
        (∀ field ∈ b.fields, field.2.length < 65536) ∧
        ∃ signature, signature.length = G.signatureSize ∧
          cert.byteArray = Record.encodeAll (b.fields.map fieldRecord) ++
            Record.encodeAll (signRecords (serializeUUID signerId) signature) := by
  refine ⟨emit_inBounds b, fun cert h => emit_ok hC h, fun signerId privateKey => ?_⟩
  exact ⟨sign_inBounds G b signerId privateKey, fun cert h => sign_ok hC hG h⟩

end CertificateBuilder

namespace BufferCert

/-- The library with a builder that looks at the length field too. -/
def strictLib : Vccert :=
  { lib with
    addShortBuffer := fun b f v =>
      if v.length < 65536 ∧ b.2.length + (4 + v.length) ≤ b.1 then
        some (b.1, b.2 ++ Record.encode ⟨f, v⟩)
      else none }

theorem strictLib_strict : strictLib.Strict where
  builderInit := by
    intro n b h
    obtain ⟨hn, hb⟩ := Option.ite_none_right_eq_some.mp h
    obtain rfl := Option.some.inj hb
    exact ⟨hn.trans (by decide), rfl, rfl⟩
  addShortBuffer := by
    intro b b' tag value h
    obtain ⟨⟨hvalue, hroom⟩, hb⟩ := Option.ite_none_right_eq_some.mp h
    obtain rfl := Option.some.inj hb
    exact ⟨hvalue, hroom, rfl, rfl⟩
  builderEmit := fun _ => rfl

/-- A signer of 64 octets, all of them zero. -/
def signer : Signer strictLib where
  signatureSize := 64
  privateKeySize := 64
  builderSign b signerId _ :=
    if b.2.length + 88 ≤ b.1 then
      some (b.1, b.2 ++ Record.encodeAll (signRecords signerId (zeros 64)))
    else none

theorem signer_lawful : signer.Lawful where
  signatureSize := by decide
  builderSign := by
    intro b b' signerId privateKey h
    obtain ⟨-, hb⟩ := Option.ite_none_right_eq_some.mp h
    obtain rfl := Option.some.inj hb
    exact ⟨zeros 64, rfl, rfl⟩

end BufferCert

namespace CertificateBuilder

/-- In the open a certificate of one field is signed: the field, the signer, the
signature. -/
theorem emit_sign_whole_open :
    ∃ cert signature, sign BufferCert.signer ⟨[(0x0400, [1, 2, 3])]⟩ ⟨0, 0⟩ ⟨some (zeros 64)⟩ =
        .ok cert ∧ signature.length = 64 ∧
      cert.byteArray = Record.encodeAll [⟨0x0400, [1, 2, 3]⟩] ++
        Record.encodeAll (signRecords (zeros 16) signature) := by
  obtain ⟨-, -, hsign⟩ := emit_sign_whole BufferCert.strictLib_strict BufferCert.signer_lawful
    ⟨[(0x0400, [1, 2, 3])]⟩
  have hreturns : ∃ cert, sign BufferCert.signer ⟨[(0x0400, [1, 2, 3])]⟩ ⟨0, 0⟩
      ⟨some (zeros 64)⟩ = .ok cert := ⟨_, rfl⟩
  obtain ⟨cert, hcert⟩ := hreturns
  obtain ⟨-, signature, hlen, hbytes⟩ := (hsign ⟨0, 0⟩ ⟨some (zeros 64)⟩).2 cert hcert
  exact ⟨cert, signature, hcert, hlen, hbytes⟩

end CertificateBuilder

end VjBlockchain
