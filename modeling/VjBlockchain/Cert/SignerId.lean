import VjBlockchain.Cert.FieldReader
import VjBlockchain.Cert.Sign
import VjBlockchain.Cert.SignedPrefix
import VjBlockchain.Util.UuidConv
/-!
# The signer's id — one UUID on both sides

`sign` writes the signer's id with a Java `ByteBuffer`; when the certificate
is attested, native code puts the id together that the delegate is asked to
resolve. The two meet in the sixteen octets of a field, which the library
carries from one to the other.
-/

namespace VjBlockchain

open Common Common.Bytes Common.Throwing

/-- **A library that asks for the signer.** Of a certificate that ends with a
signer's id and a signature, as signing leaves it, the attestation asks for
that entity. -/
structure Attester.AsksSigner {C : Vccert} (A : Attester C) : Prop where
  entityId : ∀ {p height validate fields signerId signature q},
    (∀ r ∈ fields, r.Fits) → signerId.length = 16 → signature.length < 65536 →
    C.buffer p = Record.encodeAll fields ++ Record.encodeAll (signRecords signerId signature) →
    Dialogue.Asked q (A.attest p height validate) → q.entityId = signerId

/-- **The attestation asks its delegate for `u`**: two delegates that differ in
what they say of `u`, and in nothing else, make a difference to it. -/
def Resolves {C : Vccert} (A : Attester C) (a : Attempt) (p : ParserObject) (u : UUID) : Prop :=
  ∃ delegate delegate' : CertificateParserDelegate,
    (∀ n v height, v ≠ u →
      delegate.resolveEntity n v height = delegate'.resolveEntity n v height) ∧
    ParserObject.attest A { a with delegate := some delegate } p ≠
      ParserObject.attest A { a with delegate := some delegate' } p

/-! ## Readers and writers -/

/-- Every writer of a UUID writes the same octets. -/
theorem serializeUUID_eq_uuidToBytes (u : UUID) :
    CertificateBuilder.serializeUUID u = UuidConv.uuidToBytes u :=
  (UuidConv.uuidToBytes_eq u).symm

/-- **Every reader reads the same UUID** of sixteen octets, the one that writes
them. -/
theorem readers_agree {bytes : Bytes} (h : bytes.length = 16) :
    ∃ u, UuidConv.uuidFromBytes bytes = .ok u ∧ UuidUtil.getUUIDFromBytes bytes = .ok u ∧
      FieldReader.fresh FieldReader.asUUID bytes = .ok u ∧ UuidConv.uuidToBytes u = bytes := by
  refine ⟨UuidUtil.halves bytes, UuidConv.uuidFromBytes_eq h.ge, UuidUtil.getUUIDFromBytes_eq h.ge,
    ?_, ?_⟩
  · rw [FieldReader.asUUID_eq_fixedWidth, FieldReader.fresh_fixedWidth h]
  · rw [UuidConv.uuidToBytes_eq, UuidUtil.getBytesFromUUID_halves h]

/-- What the native writer wrote the native reader reads. -/
theorem uuidFromBytes_uuidToBytes (u : UUID) :
    UuidConv.uuidFromBytes (UuidConv.uuidToBytes u) = .ok u := by
  rw [UuidConv.uuidToBytes_eq, UuidConv.uuidFromBytes_eq (UuidUtil.length_getBytesFromUUID u).ge,
    UuidUtil.halves_getBytesFromUUID]

/-! ## From signing to attestation -/

section Strict

variable {C : Vccert} (hC : C.Strict) {G : Signer C}
include hC

/-- A certificate that is signed has the size that was counted. -/
theorem length_of_sign {b : CertificateBuilder} {signerId : UUID} {privateKey : SigningPrivateKey}
    {cert : Certificate} (h : b.sign G signerId privateKey = .ok cert) :
    cert.byteArray.length < 2 ^ 31 := by
  obtain ⟨_, -, h⟩ := bind_eq_ok_iff.mp h
  obtain ⟨_, -, h⟩ := bind_eq_ok_iff.mp h
  obtain ⟨_, -, h⟩ := bind_eq_ok_iff.mp h
  obtain ⟨builder, hinit, h⟩ := bind_eq_ok_iff.mp h
  obtain ⟨_, -, h⟩ := bind_eq_ok_iff.mp h
  obtain ⟨_, -, h⟩ := bind_eq_ok_iff.mp h
  obtain ⟨_, -, h⟩ := bind_eq_ok_iff.mp h
  obtain ⟨_, hcount, h⟩ := bind_eq_ok_iff.mp h
  obtain rfl := Except.ok.inj h
  obtain ⟨hmemory, -, -⟩ := hC.builderInit (orThrow_eq_ok_iff.mp hinit)
  obtain ⟨-, hlt⟩ := CertificateBuilder.signExtend_lt hmemory
  have hlen := check_eq_ok_iff.mp hcount
  dsimp only at hlen ⊢
  omega

variable (hL : C.Lawful) (hG : G.Lawful) {A : Attester C} (hA : A.AsksSigner)
  {b : CertificateBuilder} {signerId : UUID} {privateKey : SigningPrivateKey}
  {cert : Certificate} (hsign : b.sign G signerId privateKey = .ok cert)
include hL hG hA hsign

/-- **The library asks with the octets it was given for the signer.** -/
theorem entityId_of_asked {buffer : Bytes} {parser : C.Parser} {height : BitVec 64}
    {validate : Bool} {q : EntityQuery}
    (hbuffer : ParserObject.nativeBuffer cert.byteArray (ParserObject.new cert).rawSize =
      .ok buffer)
    (hparser : C.parserInit buffer = some parser)
    (hasked : Dialogue.Asked q (A.attest parser height validate)) :
    q.entityId = UuidUtil.getBytesFromUUID signerId := by
  obtain ⟨hfit, signature, hsignature, hbytes⟩ := CertificateBuilder.sign_ok hC hG hsign
  have hsize := toNat_signExtend_size (length_of_sign hC hsign)
  have hwhole : buffer = cert.byteArray := by
    rw [ParserObject.nativeBuffer, ParserObject.new, hsize, if_pos le_rfl,
      List.take_length] at hbuffer
    exact (Except.ok.inj hbuffer).symm
  obtain ⟨parser', hparser', hread⟩ := hL.parserInit buffer
  obtain rfl := Option.some.inj (hparser.symm.trans hparser')
  exact hA.entityId (List.forall_mem_map.mpr hfit) (UuidUtil.length_getBytesFromUUID signerId)
    (hsignature ▸ hG.signatureSize) (hread.trans (hwhole.trans hbytes)) hasked

/-- **The delegate counts only for what it says of the signer.** -/
theorem attest_congr_signer {a : Attempt} {delegate delegate' : CertificateParserDelegate}
    (h : ∀ n height, delegate.resolveEntity n signerId height =
      delegate'.resolveEntity n signerId height) :
    ParserObject.attest A { a with delegate := some delegate } (.new cert) =
      ParserObject.attest A { a with delegate := some delegate' } (.new cert) := by
  have hexamine : ParserObject.examine A { a with delegate := some delegate } cert.byteArray
        (ParserObject.new cert).rawSize =
      ParserObject.examine A { a with delegate := some delegate' } cert.byteArray
        (ParserObject.new cert).rawSize := by
    unfold ParserObject.examine
    dsimp only [orThrow_some, ok_bind]
    refine congrArg (_ >>= ·) (funext fun _ => congrArg (_ >>= ·) (funext fun _ => ?_))
    cases hbuffer : ParserObject.nativeBuffer cert.byteArray (ParserObject.new cert).rawSize with
    | error e => rfl
    | ok buffer =>
      rw [ok_bind, ok_bind]
      cases hparser : C.parserInit buffer with
      | none => rfl
      | some parser =>
        refine Dialogue.run_congr fun q env hasked => ?_
        have hid := entityId_of_asked hC hL hG hA hsign hbuffer hparser hasked
        have hnative : UuidConv.uuidFromBytes q.entityId = .ok signerId := by
          rw [hid, ← UuidConv.uuidToBytes_eq, uuidFromBytes_uuidToBytes]
        simp only [attestEntityKeyResolver, hnative, ok_bind, h]
  show (Effect.lift (ParserObject.examine A _ cert.byteArray _) >>= _ : EStateM _ _ _) _ = _
  rw [hexamine]
  rfl

/-- **The delegate is asked for the signer**, and for nobody else. -/
theorem Resolves.eq_signer {a : Attempt} {u : UUID} (h : Resolves A a (.new cert) u) :
    u = signerId := by
  obtain ⟨delegate, delegate', hothers, hdiffer⟩ := h
  by_contra hne
  exact hdiffer (attest_congr_signer hC hL hG hA hsign
    fun n height => hothers n signerId height (Ne.symm hne))

end Strict

/-- **The UUID codecs agree.** Whoever writes a UUID writes the same sixteen
octets; whoever reads sixteen octets reads the same UUID, the one that writes
them. So when a signed certificate is attested the delegate is asked for the
signer and for nobody else: what it says of others makes no difference. -/
theorem uuid_codecs_agree {C : Vccert} (hC : C.Strict) (hL : C.Lawful) {G : Signer C}
    (hG : G.Lawful) {A : Attester C} (hA : A.AsksSigner) :
    (∀ u, UuidUtil.getBytesFromUUID u = UuidConv.uuidToBytes u ∧
      CertificateBuilder.serializeUUID u = UuidConv.uuidToBytes u ∧
      (UuidConv.uuidToBytes u).length = 16 ∧
      UuidConv.uuidFromBytes (UuidConv.uuidToBytes u) = .ok u) ∧
    (∀ bytes : Bytes, bytes.length = 16 → ∃ u, UuidConv.uuidFromBytes bytes = .ok u ∧
      UuidUtil.getUUIDFromBytes bytes = .ok u ∧
      FieldReader.fresh FieldReader.asUUID bytes = .ok u ∧ UuidConv.uuidToBytes u = bytes) ∧
    ∀ (b : CertificateBuilder) (signerId : UUID) (privateKey : SigningPrivateKey)
      (cert : Certificate), b.sign G signerId privateKey = .ok cert →
      ∀ a : Attempt, (∀ u, Resolves A a (.new cert) u → u = signerId) ∧
        ∀ delegate delegate' : CertificateParserDelegate,
          (∀ n height, delegate.resolveEntity n signerId height =
            delegate'.resolveEntity n signerId height) →
          ParserObject.attest A { a with delegate := some delegate } (.new cert) =
            ParserObject.attest A { a with delegate := some delegate' } (.new cert) := by
  refine ⟨fun u => ⟨(UuidConv.uuidToBytes_eq u).symm, serializeUUID_eq_uuidToBytes u, ?_,
    uuidFromBytes_uuidToBytes u⟩, fun bytes h => readers_agree h, ?_⟩
  · rw [UuidConv.uuidToBytes_eq, UuidUtil.length_getBytesFromUUID]
  · intro b signerId privateKey cert hsign a
    exact ⟨fun u hresolves => hresolves.eq_signer hC hL hG hA hsign,
      fun delegate delegate' h => attest_congr_signer hC hL hG hA hsign h⟩

namespace BufferCert

theorem strictLib_lawful : strictLib.Lawful :=
  { lib_lawful with
    addShortBuffer := by
      intro b r hr hroom
      rw [Record.length_encode] at hroom
      exact ⟨_, if_pos ⟨hr, hroom⟩, rfl, rfl⟩ }

/-- It asks for the entity of the record in front of the last. -/
def attester : Attester strictLib where
  attest p height _ :=
    match (Record.walk p.1).1.reverse with
    | _ :: signer :: _ =>
      if h : signer.value.length = 16 then
        .ask ⟨height, signer.value, h⟩ fun keys =>
          .done (if keys = none then .missingSigningCert else .success, p.1.length)
      else .done (.missingSignerUuid, p.1.length)
    | _ => .done (.missingSignature, p.1.length)

/-- What it does with a signed certificate. -/
theorem attest_signed {p : strictLib.Parser} {fields : List Record} {signerId signature : Bytes}
    (hfields : ∀ r ∈ fields, r.Fits) (hid : signerId.length = 16)
    (hsignature : signature.length < 65536)
    (hp : strictLib.buffer p =
      Record.encodeAll fields ++ Record.encodeAll (signRecords signerId signature))
    (height : BitVec 64) (validate : Bool) :
    attester.attest p height validate = .ask ⟨height, signerId, hid⟩ fun keys =>
      .done (if keys = none then .missingSigningCert else .success, p.1.length) := by
  have hfits : ∀ r ∈ fields ++ signRecords signerId signature, r.Fits := by
    rw [List.forall_mem_append]
    refine ⟨hfields, ?_⟩
    simp [signRecords, Record.Fits, hid, hsignature]
  have hwalk : (Record.walk p.1).1 = fields ++ signRecords signerId signature := by
    have hbuffer : p.1 = Record.encodeAll (fields ++ signRecords signerId signature) := by
      rw [Record.encodeAll_append]
      exact hp
    rw [hbuffer, Record.walk_encodeAll hfits]
  have hreverse : (Record.walk p.1).1.reverse = ⟨Field.SIGNATURE.setWidth 16, signature⟩ ::
      ⟨Field.SIGNER_ID.setWidth 16, signerId⟩ :: fields.reverse := by
    rw [hwalk, List.reverse_append]
    rfl
  simp only [attester, hreverse, hid, dite_true]

theorem attester_asksSigner : attester.AsksSigner where
  entityId := by
    intro p height validate fields signerId signature q hfields hid hsignature hp hasked
    rw [attest_signed hfields hid hsignature hp] at hasked
    obtain _ | ⟨_, hrest⟩ := hasked
    · rfl
    · cases hrest

end BufferCert

def openSigner : UUID := ⟨0x2300000000000000, 0x8000000000000012⟩

/-- A delegate that knows nobody. -/
def knowsNobody : CertificateParserDelegate := ⟨fun _ _ _ => .ok none⟩

/-- A delegate that knows the signer. -/
def knowsSigner : CertificateParserDelegate :=
  ⟨fun _ u _ => .ok (if u = openSigner then some ⟨some (zeros 32), some (zeros 32)⟩ else none)⟩

/-- In the open a certificate is signed, its attestation asks for one entity, and
that is the signer. -/
theorem uuid_codecs_agree_open :
    ∃ cert, CertificateBuilder.sign BufferCert.signer ⟨[(0x0400, [1, 2, 3])]⟩ openSigner
        ⟨some (zeros 64)⟩ = .ok cert ∧
      Resolves BufferCert.attester (openAttempt none) (.new cert) openSigner ∧
      (∀ u, Resolves BufferCert.attester (openAttempt none) (.new cert) u → u = openSigner) ∧
      ∃ u, UuidConv.uuidFromBytes (zeros 16) = .ok u ∧ UuidConv.uuidToBytes u = zeros 16 := by
  obtain ⟨-, hread, hasked⟩ := uuid_codecs_agree BufferCert.strictLib_strict
    BufferCert.strictLib_lawful BufferCert.signer_lawful BufferCert.attester_asksSigner
  have hrun : (CertificateBuilder.sign BufferCert.signer ⟨[(0x0400, [1, 2, 3])]⟩ openSigner
        ⟨some (zeros 64)⟩ >>= fun cert => .ok
      ((Effect.outcome (ParserObject.attest BufferCert.attester
          { openAttempt none with delegate := some knowsNobody }) (.new cert)).1.toBool,
        (Effect.outcome (ParserObject.attest BufferCert.attester
          { openAttempt none with delegate := some knowsSigner }) (.new cert)).1.toBool)) =
      .ok (false, true) := by
    decide +kernel
  obtain ⟨cert, hcert, hrun⟩ := bind_eq_ok_iff.mp hrun
  obtain ⟨hnobody, hsigner⟩ := Prod.mk.inj (Except.ok.inj hrun)
  obtain ⟨u, hu, -, -, hwrite⟩ := hread (zeros 16) (length_zeros 16)
  refine ⟨cert, hcert, ⟨knowsNobody, knowsSigner, ?_, fun hsame => ?_⟩,
    (hasked _ _ _ cert hcert (openAttempt none)).1, u, hu, hwrite⟩
  · intro n v height hne
    show Except.ok none = Except.ok _
    rw [if_neg hne]
  · rw [Effect.outcome_congr hsame, hsigner] at hnobody
    cases hnobody

end VjBlockchain
