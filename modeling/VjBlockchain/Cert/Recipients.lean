import VjBlockchain.Cert.Encrypted
/-!
# Every recipient recovers the key

A call on an encrypted builder amounts to a plain call: a masked value is an
array behind its vector, and the secret key for a recipient is an array that
is a certificate. `Leaves` says which plain call; what is known of plain
calls then gives the reader.

The fragments are scanned in the order of the calls that made them, and the
scan ends at the first one for the reader's entity. Those for others are read
up to their entity and no further.
-/

namespace VjBlockchain

open Common Common.Bytes Common.Throwing CertificateParser

variable {V : Vccrypt} {C : Vccert}

namespace EncryptedCertificateBuilder

/-! ## What a call leaves -/

/-- **The fragment made for a recipient.** -/
def Wraps (C : Vccert) (keyPair : EncryptionKeyPair V) (secretKey : Bytes) (s : SharedSecret)
    (fragment : Bytes) : Prop :=
  ∃ encryptedKey cert,
    encryptKey V keyPair.privateKey s.publicKey secretKey s.wrapIv = .ok encryptedKey ∧
    (fragmentBuilder s.entityId encryptedKey).emit C = .ok cert ∧ fragment = cert.byteArray

/-- **The plain call a call amounts to.** -/
def Leaves (C : Vccert) (keyPair : EncryptionKeyPair V) (secretKey : Bytes) :
    EncryptedCall → AddCall → Prop
  | .add c, made => made = c
  | .addEncrypted c, made => ∃ iv : Bytes, iv.length = 8 ∧
      made = .addByteArray c.fieldId
        (iv ++ xorAt (V.stream.keystream secretKey iv) 0 c.serialized)
  | .addEncryptedSharedSecret s, made => ∃ fragment, Wraps C keyPair secretKey s fragment ∧
      made = .addByteArray Field.VELO_ENCRYPTED_SHARED_SECRET_FRAGMENT fragment

theorem Leaves.fieldId {keyPair : EncryptionKeyPair V} {secretKey : Bytes} {c : EncryptedCall}
    {made : AddCall} (h : Leaves C keyPair secretKey c made) : made.fieldId = c.fieldId := by
  cases c with
  | add c => exact congrArg AddCall.fieldId h
  | addEncrypted c =>
    obtain ⟨_, -, rfl⟩ := h
    rfl
  | addEncryptedSharedSecret s =>
    obtain ⟨_, -, rfl⟩ := h
    rfl

/-- A masked value lies behind its vector. -/
theorem encryptData_eq (hV : V.Lawful) {key iv input : Bytes} (hkey : key.length = 32)
    (hiv : iv.length = 8) (hinput : IV_SIZE + input.length < 2 ^ 31) :
    encryptData V key iv input = .ok (iv ++ xorAt (V.stream.keystream key iv) 0 input) := by
  obtain ⟨stream₀, stream₁, stream₂, hinit, hstart, hheader, hencrypt⟩ :=
    startEncryption_streamEncrypt hV hkey hiv input [] 0 0 "could not encrypt input data." rfl
  simp only [List.nil_append] at hheader hencrypt
  rw [encryptData, orThrow_bind (Buffer.read_all hkey), orThrow_bind hinit, newByteArray_eq hinput,
    ok_bind, orThrow_bind (Buffer.read_all hiv), orThrow_bind hstart]
  dsimp only
  rw [IV_SIZE, ← Nat.add_zero input.length, orThrow_bind hheader, hiv, bind_ok hencrypt, zeros_zero,
    List.append_nil]

/-- A wrapped key is as long as its vector and the key. -/
theorem length_encryptKey {localPrivateKey peerPublicKey inputKey iv encryptedKey : Bytes}
    (hkey : inputKey.length = 32)
    (h : encryptKey V localPrivateKey peerPublicKey inputKey iv = .ok encryptedKey) :
    encryptedKey.length = 48 := by
  rw [encryptKey, EncryptedDocumentBuilder.encryptKey, hkey, newByteArray_eq (by decide)] at h
  obtain ⟨_, -, h⟩ := bind_eq_ok_iff.mp h
  rw [ok_bind] at h
  obtain ⟨_, -, h⟩ := bind_eq_ok_iff.mp h
  obtain ⟨out, hiv, h⟩ := bind_eq_ok_iff.mp h
  obtain ⟨out₁, hblock₁, hblock₂⟩ := bind_eq_ok_iff.mp h
  have hlen := Buffer.length_write (orThrow_eq_ok_iff.mp hiv)
  have hlen₁ := length_blockEncrypt hblock₁
  have hlen₂ := length_blockEncrypt hblock₂
  rw [hlen₂, hlen₁, hlen, length_zeros]

/-! ## A fragment -/

/-- The calls that fill a fragment. -/
def fragmentCalls (entityId : UUID) (encryptedKey : Bytes) : List AddCall :=
  [.addUUID Field.VELO_ENCRYPTED_SHARED_SECRET_ENTITY_UUID entityId,
    .addByteArray Field.VELO_ENCRYPTED_SHARED_SECRET_KEY encryptedKey]

theorem length_serializeUUID (u : UUID) : (CertificateBuilder.serializeUUID u).length = 16 := by
  simp [CertificateBuilder.serializeUUID]

theorem asUUID_serializeUUID (u : UUID) :
    (CertificateFieldReader.new (CertificateBuilder.serializeUUID u)).asUUID = .ok u := by
  have hremaining : (CertificateFieldReader.new (CertificateBuilder.serializeUUID u)).remaining =
      16 := length_serializeUUID u
  rw [FieldReader.asUUID_eq, if_pos hremaining]
  exact congrArg Except.ok (UuidUtil.halves_getBytesFromUUID u)

/-- **A fragment is a certificate** that shows its entity and its key. -/
theorem emit_fragmentBuilder (hC : C.Lawful) (entityId : UUID) {encryptedKey : Bytes}
    (h : encryptedKey.length = 48) :
    ∃ cert r, (fragmentBuilder entityId encryptedKey).emit C = .ok cert ∧
      cert.byteArray.length = 72 ∧ CertificateReader.new C (.new cert) = .ok r ∧
      r.getFirst Field.VELO_ENCRYPTED_SHARED_SECRET_ENTITY_UUID =
        .ok (.new (CertificateBuilder.serializeUUID entityId)) ∧
      r.getFirst Field.VELO_ENCRYPTED_SHARED_SECRET_KEY = .ok (.new encryptedKey) := by
  have huuid := length_serializeUUID entityId
  have hfields : (fragmentBuilder entityId encryptedKey).fields =
      (fragmentCalls entityId encryptedKey).map AddCall.stored := rfl
  have hok : ∀ c ∈ fragmentCalls entityId encryptedKey,
      c.fieldId.toNat ≤ 0xFFFF ∧ c.serialized.length ≤ 65535 := by
    intro c hc
    rcases List.mem_pair.mp hc with rfl | rfl
    · exact ⟨by show (0x00A1 : JInt).toNat ≤ 0xFFFF; decide, by rw [AddCall.serialized]; omega⟩
    · exact ⟨by show (0x00A2 : JInt).toNat ≤ 0xFFFF; decide, by rw [AddCall.serialized]; omega⟩
  have htotal : AddCall.totalSize (fragmentCalls entityId encryptedKey) = 72 := by
    simp only [AddCall.totalSize, fragmentCalls, AddCall.serialized, List.map_cons, List.map_nil,
      List.sum_cons, List.sum_nil, huuid, h, Nat.reduceAdd]
  obtain ⟨cert, r, hemit, hlen, hnew, hmap⟩ :=
    reader_of_emit hC hfields (by simp [fragmentCalls]) hok (by rw [htotal]; decide)
  refine ⟨cert, r, hemit, hlen.trans htotal, hnew, ?_, ?_⟩
  · exact CertificateReader.getFirst_eq hmap rfl
  · exact CertificateReader.getFirst_eq hmap rfl

/-- The value a call stores is as long as it says. -/
theorem Leaves.size (hC : C.Lawful) {keyPair : EncryptionKeyPair V} {secretKey : Bytes}
    (hkey : secretKey.length = 32) {c : EncryptedCall} {made : AddCall}
    (h : Leaves C keyPair secretKey c made) : made.serialized.length = c.size := by
  cases c with
  | add c => exact congrArg (fun made => made.serialized.length) h
  | addEncrypted c =>
    obtain ⟨iv, hiv, rfl⟩ := h
    rw [AddCall.serialized, List.length_append, hiv, length_xorAt]
    rfl
  | addEncryptedSharedSecret s =>
    obtain ⟨_, ⟨encryptedKey, cert, hencrypt, hemit, rfl⟩, rfl⟩ := h
    obtain ⟨cert', -, hemit', hlen, -⟩ :=
      emit_fragmentBuilder hC s.entityId (length_encryptKey hkey hencrypt)
    obtain rfl := Except.ok.inj (hemit.symm.trans hemit')
    exact hlen

/-! ## A run of calls -/

/-- **The plain call `made` takes `b` to `b'`**: one field more, and the keys as
they were. -/
structure Stores (b : EncryptedCertificateBuilder V) (made : AddCall)
    (b' : EncryptedCertificateBuilder V) : Prop where
  fields : b'.fields = b.fields ++ [made.stored]
  keyPair : b'.keyPair = b.keyPair
  secretKey : b'.secretKey = b.secretKey

/-- An inherited `add` that returns has touched only what it inherits. -/
theorem add_eq_ok {b b' : EncryptedCertificateBuilder V} {c : AddCall} {u : Unit}
    (h : add c b = .ok u b') : ∃ added, AddCall.call b.toCertificateBuilder c = .ok added ∧
      b' = { b with toCertificateBuilder := added } := by
  rw [add, Effect.get_bind] at h
  obtain ⟨added, _, hcall, h⟩ := Effect.bind_eq_ok h
  obtain ⟨hcall, rfl⟩ := Effect.lift_eq_ok_iff.mp hcall
  cases h
  exact ⟨added, hcall, rfl⟩

/-- One that throws has touched nothing. -/
theorem add_eq_error {b b' : EncryptedCertificateBuilder V} {c : AddCall} {f : Fault}
    (h : add c b = .error f b') : b' = b := by
  rw [add, Effect.get_bind] at h
  rcases Effect.bind_eq_error h with hcall | ⟨_, _, _, hset⟩
  · exact (Effect.lift_eq_error_iff.mp hcall).2
  · cases hset

theorem add_stores {b b' : EncryptedCertificateBuilder V} {c : AddCall} (h : add c b = .ok () b') :
    Stores b c b' := by
  obtain ⟨added, hcall, rfl⟩ := add_eq_ok h
  exact ⟨AddCall.call_fields hcall, rfl, rfl⟩

/-- **A call that returns has left its field.** -/
theorem call_stores (hV : V.Lawful) {b b' : EncryptedCertificateBuilder V} {c : EncryptedCall}
    (hsize : c.size ≤ 65535) (h : c.call C b = .ok () b') :
    ∃ made, Leaves C b.keyPair b.secretKey c made ∧ Stores b made b' := by
  cases c with
  | add c => exact ⟨c, rfl, add_stores h⟩
  | addEncrypted c =>
    rw [EncryptedCall.call, EncryptedAdd.call_eq, addEncryptedByteArray, Effect.get_bind,
      Effect.set_bind] at h
    obtain ⟨value, _, hlift, hadd⟩ := Effect.bind_eq_ok h
    obtain ⟨hencrypt, rfl⟩ := Effect.lift_eq_ok_iff.mp hlift
    have hiv : (CertificateBuilder.serializeLong b.iv).length = 8 := length_toBE ..
    have hinput : IV_SIZE + c.serialized.length < 2 ^ 31 := lt_of_le_of_lt hsize (by decide)
    obtain rfl := Except.ok.inj
      (hencrypt.symm.trans (encryptData_eq hV b.length_secretKey hiv hinput))
    obtain ⟨hfields, hkeyPair, hsecretKey⟩ := add_stores hadd
    exact ⟨_, ⟨_, hiv, rfl⟩, hfields, hkeyPair, hsecretKey⟩
  | addEncryptedSharedSecret s =>
    rw [EncryptedCall.call, addEncryptedSharedSecret, Effect.get_bind] at h
    obtain ⟨encryptedKey, _, hlift, hrest⟩ := Effect.bind_eq_ok h
    obtain ⟨hencrypt, rfl⟩ := Effect.lift_eq_ok_iff.mp hlift
    obtain ⟨cert, _, hlift', hadd⟩ := Effect.bind_eq_ok hrest
    obtain ⟨hemit, rfl⟩ := Effect.lift_eq_ok_iff.mp hlift'
    exact ⟨_, ⟨_, ⟨encryptedKey, cert, hencrypt, hemit, rfl⟩, rfl⟩, add_stores hadd⟩

/-- **A run of calls that returns has left their fields**, in order. -/
theorem callAll_leaves (hV : V.Lawful) {calls : List EncryptedCall}
    (hsize : ∀ c ∈ calls, c.size ≤ 65535) : ∀ {b b' : EncryptedCertificateBuilder V},
    EncryptedCall.callAll C calls b = .ok () b' →
      ∃ made, List.Forall₂ (Leaves C b.keyPair b.secretKey) calls made ∧
        b'.fields = b.fields ++ made.map AddCall.stored := by
  induction calls with
  | nil =>
    intro b b' h
    cases h
    exact ⟨[], .nil, (List.append_nil _).symm⟩
  | cons c calls ih =>
    intro b b' h
    obtain ⟨⟨⟩, b₁, hcall, hrest⟩ := Effect.bind_eq_ok h
    obtain ⟨made, hmade, hstores⟩ := call_stores hV (hsize c (List.mem_cons_self ..)) hcall
    obtain ⟨rest, hleaves, hfields⟩ := ih (fun c hc => hsize c (List.mem_cons_of_mem _ hc)) hrest
    rw [hstores.keyPair, hstores.secretKey] at hleaves
    refine ⟨made :: rest, .cons hmade hleaves, ?_⟩
    rw [hfields, hstores.fields, List.map_cons, List.append_assoc, List.singleton_append]

end EncryptedCertificateBuilder

/-! ## What the reader finds -/

namespace EncryptedCall

/-- The recipient a call adds, if it adds one. -/
def recipient : EncryptedCall → Option SharedSecret
  | addEncryptedSharedSecret s => some s
  | _ => none

theorem eq_of_recipient {c : EncryptedCall} {s : SharedSecret} (h : c.recipient = some s) :
    c = addEncryptedSharedSecret s := by
  cases c with
  | addEncryptedSharedSecret s' => rw [Option.some.inj h]
  | _ => cases h

/-- The recipients added, in call order. -/
def recipients (calls : List EncryptedCall) : List SharedSecret := calls.filterMap recipient

/-- **Calls that fit a certificate**: ids of sixteen bits, values of at most
65535 octets as they are stored, less than `2 ^ 31` octets with the default
fields, and no other field under the id of the fragments. -/
structure Fit (certificateType : UUID) (calls : List EncryptedCall) : Prop where
  ids : ∀ c ∈ calls, c.fieldId.toNat ≤ 0xFFFF
  sizes : ∀ c ∈ calls, c.size ≤ 65535
  total : AddCall.totalSize (BuilderStart.certificate certificateType).defaults +
    (calls.map fun c => 4 + c.size).sum < 2 ^ 31
  others : ∀ c ∈ calls, c.recipient = none →
    c.fieldId ≠ Field.VELO_ENCRYPTED_SHARED_SECRET_FRAGMENT

end EncryptedCall

open EncryptedCall EncryptedCertificateBuilder

section Reader

variable {keyPair : EncryptionKeyPair V} {secretKey : Bytes} {calls : List EncryptedCall}
  {made : List AddCall}

/-- Ids and sizes of the fields are those of the calls. -/
theorem map_of_leaves (hC : C.Lawful) (hkey : secretKey.length = 32)
    (h : List.Forall₂ (Leaves C keyPair secretKey) calls made) :
    made.map (fun m => (m.fieldId, m.serialized.length)) =
      calls.map fun c => (c.fieldId, c.size) := by
  induction h with
  | nil => rfl
  | cons hc _ ih => rw [List.map_cons, List.map_cons, ih, hc.fieldId, hc.size hC hkey]

/-- **The reader of a certificate** holds the fields the calls left, behind the
default ones. -/
theorem reader_of_calls (hV : V.Lawful) (hC : C.Lawful) {certificateType : UUID}
    (hkey : secretKey.length = 32) (hfit : Fit certificateType calls)
    {b : EncryptedCertificateBuilder V}
    (hcalls : callAll C calls (createCertificateBuilder keyPair certificateType secretKey hkey) =
      .ok () b) :
    ∃ cert r made, b.emit C = .ok cert ∧ CertificateReader.new C (.new cert) = .ok r ∧
      List.Forall₂ (Leaves C keyPair secretKey) calls made ∧
      r.certFields = group (((BuilderStart.certificate certificateType).defaults ++ made).map
        fun c => (c.fieldId, c.serialized)) := by
  obtain ⟨made, hleaves, hfields⟩ := callAll_leaves hV hfit.sizes hcalls
  have hmap := map_of_leaves hC hkey hleaves
  have hstored : b.fields =
      ((BuilderStart.certificate certificateType).defaults ++ made).map AddCall.stored := by
    rw [hfields, List.map_append, ← BuilderStart.builder_fields]
    rfl
  have hok : ∀ c ∈ (BuilderStart.certificate certificateType).defaults ++ made,
      c.fieldId.toNat ≤ 0xFFFF ∧ c.serialized.length ≤ 65535 := by
    intro m hm
    rcases List.mem_append.mp hm with hm | hm
    · exact BuilderStart.defaults_ok _ m hm
    · obtain ⟨c, hc, heq⟩ := List.mem_map.mp (hmap ▸ List.mem_map_of_mem hm)
      obtain ⟨hid, hsize⟩ := Prod.mk.inj heq
      exact ⟨hid ▸ hfit.ids c hc, hsize ▸ hfit.sizes c hc⟩
  have htotal : AddCall.totalSize ((BuilderStart.certificate certificateType).defaults ++ made) <
      2 ^ 31 := by
    have hsum : AddCall.totalSize made = (calls.map fun c => 4 + c.size).sum := by
      have h := congrArg (fun l => (l.map fun p : JInt × ℕ => 4 + p.2).sum) hmap
      rwa [List.map_map, List.map_map] at h
    have htotal := hfit.total
    rw [← hsum] at htotal
    simpa [AddCall.totalSize] using htotal
  obtain ⟨cert, r, hemit, -, hnew, hgroup⟩ :=
    reader_of_emit hC hstored (by simp [BuilderStart.defaults]) hok htotal
  exact ⟨cert, r, made, hemit, hnew, hleaves, hgroup⟩

/-- The fragments, among the values of the fields. -/
theorem wraps_values (h : List.Forall₂ (Leaves C keyPair secretKey) calls made)
    (hothers : ∀ c ∈ calls, c.recipient = none →
      c.fieldId ≠ Field.VELO_ENCRYPTED_SHARED_SECRET_FRAGMENT) :
    List.Forall₂ (Wraps C keyPair secretKey) (recipients calls)
      (valuesOf (made.map fun c => (c.fieldId, c.serialized))
        Field.VELO_ENCRYPTED_SHARED_SECRET_FRAGMENT) := by
  induction h with
  | nil => exact .nil
  | @cons c m calls made hc _ ih =>
    have hrest := ih fun c' hc' => hothers c' (List.mem_cons_of_mem _ hc')
    rw [List.map_cons, valuesOf_cons]
    cases hrecipient : c.recipient with
    | none =>
      have hid := hothers c (List.mem_cons_self ..) hrecipient
      rw [recipients, List.filterMap_cons_none hrecipient, if_neg (by rwa [hc.fieldId])]
      exact hrest
    | some s =>
      obtain rfl := eq_of_recipient hrecipient
      obtain ⟨fragment, hwraps, rfl⟩ := hc
      rw [recipients, List.filterMap_cons_some hrecipient]
      exact .cons hwraps hrest

/-- **The fragments the reader scans**; the default fields are none. -/
theorem fragments_of_reader {certificateType : UUID} {r : CertificateReader}
    (h : List.Forall₂ (Leaves C keyPair secretKey) calls made)
    (hothers : ∀ c ∈ calls, c.recipient = none →
      c.fieldId ≠ Field.VELO_ENCRYPTED_SHARED_SECRET_FRAGMENT)
    (hgroup : r.certFields = group
      (((BuilderStart.certificate certificateType).defaults ++ made).map
        fun c => (c.fieldId, c.serialized))) :
    ∃ fields, List.Forall₂ (Wraps C keyPair secretKey) (recipients calls) fields ∧
      r.certFields Field.VELO_ENCRYPTED_SHARED_SECRET_FRAGMENT = present fields := by
  refine ⟨_, wraps_values h hothers, ?_⟩
  rw [hgroup, group_eq, List.map_append, valuesOf_append]
  rfl

end Reader

/-! ## The scan -/

namespace EncryptedCertificateReader

section Scan

variable (hC : C.Lawful) {keyPair : EncryptionKeyPair V} {secretKey : Bytes}
  (hkey : secretKey.length = 32) {uuid : UUID} {localPrivateKey peerPublicKey : Bytes}
include hC hkey

/-- **One turn of the scan**: a fragment for another entity is passed over. -/
theorem scan_cons {s : SharedSecret} {fragment : Bytes}
    (h : Wraps C keyPair secretKey s fragment) (fields : List Bytes) :
    ∃ encryptedKey,
      encryptKey V keyPair.privateKey s.publicKey secretKey s.wrapIv = .ok encryptedKey ∧
      scan V C uuid localPrivateKey peerPublicKey (fragment :: fields) =
        if s.entityId = uuid then do
          let key ← decryptSecretNative V localPrivateKey peerPublicKey encryptedKey
          .ok (some key)
        else scan V C uuid localPrivateKey peerPublicKey fields := by
  obtain ⟨encryptedKey, cert, hencrypt, hemit, rfl⟩ := h
  obtain ⟨cert', r, hemit', -, hnew, hentity, hwrapped⟩ :=
    emit_fragmentBuilder hC s.entityId (length_encryptKey hkey hencrypt)
  obtain rfl := Except.ok.inj (hemit.symm.trans hemit')
  refine ⟨encryptedKey, hencrypt, ?_⟩
  rw [scan, hnew, ok_bind, hentity, ok_bind, asUUID_serializeUUID, ok_bind]
  by_cases hid : s.entityId = uuid
  · rw [if_pos hid, if_pos hid, hwrapped, ok_bind]
    rfl
  · rw [if_neg hid, if_neg hid]

/-- No fragment for the entity, no key. -/
theorem scan_none {secrets : List SharedSecret} {fields : List Bytes}
    (h : List.Forall₂ (Wraps C keyPair secretKey) secrets fields)
    (hnone : ∀ s ∈ secrets, s.entityId ≠ uuid) :
    scan V C uuid localPrivateKey peerPublicKey fields = .ok none := by
  induction h with
  | nil => rfl
  | cons hw _ ih =>
    obtain ⟨_, -, hstep⟩ := scan_cons hC hkey hw _
    rw [hstep, if_neg (hnone _ (List.mem_cons_self ..))]
    exact ih fun s hs => hnone s (List.mem_cons_of_mem _ hs)

/-- **The first fragment for the entity gives the key.** -/
theorem scan_first {secrets : List SharedSecret} {fields : List Bytes}
    (h : List.Forall₂ (Wraps C keyPair secretKey) secrets fields) {s : SharedSecret} {key : Bytes}
    (hfirst : secrets.find? (fun s => s.entityId = uuid) = some s)
    (hdecrypt : ∀ encryptedKey,
      encryptKey V keyPair.privateKey s.publicKey secretKey s.wrapIv = .ok encryptedKey →
      decryptSecretNative V localPrivateKey peerPublicKey encryptedKey = .ok key) :
    scan V C uuid localPrivateKey peerPublicKey fields = .ok (some key) := by
  induction h with
  | nil => cases hfirst
  | @cons s' fragment secrets fields hw _ ih =>
    obtain ⟨encryptedKey, hencrypt, hstep⟩ := scan_cons hC hkey hw fields
    rw [hstep]
    by_cases hid : s'.entityId = uuid
    · rw [List.find?_cons_of_pos (by simpa using hid)] at hfirst
      obtain rfl := Option.some.inj hfirst
      rw [if_pos hid, hdecrypt encryptedKey hencrypt, ok_bind]
    · rw [List.find?_cons_of_neg (by simpa using hid)] at hfirst
      rw [if_neg hid]
      exact ih hfirst

end Scan

/-! ## Loading the key -/

theorem new_eq {r : CertificateReader} {parser : CertificateParser}
    (h : CertificateReader.new C parser = .ok r) (uuid : UUID)
    (localPrivateKey peerPublicKey : Bytes) :
    EncryptedCertificateReader.new C uuid localPrivateKey peerPublicKey parser =
      .ok ⟨r, uuid, localPrivateKey, peerPublicKey, none⟩ := by
  rw [EncryptedCertificateReader.new, h, ok_bind]

variable {r : EncryptedCertificateReader}

theorem loadSecretKey_found {fields : List Bytes} {key : Bytes}
    (hfields : r.certFields Field.VELO_ENCRYPTED_SHARED_SECRET_FRAGMENT = some fields)
    (hscan : scan V C r.uuid r.localPrivateKey r.peerPublicKey fields = .ok (some key)) :
    loadSecretKey V C r = .ok () { r with secretKey := some key } := by
  rw [loadSecretKey, Effect.get_bind, hfields, orThrow_some,
    Effect.bind_ok (Effect.lift_ok fields r), hscan, Effect.bind_ok (Effect.lift_ok _ r)]
  rfl

theorem loadSecretKey_no_fields
    (hfields : r.certFields Field.VELO_ENCRYPTED_SHARED_SECRET_FRAGMENT = none) :
    loadSecretKey V C r = .error (.java .missingFieldException "Missing secret key field.") r := by
  rw [loadSecretKey, Effect.get_bind, hfields]
  rfl

theorem loadSecretKey_no_fragment {fields : List Bytes} (hnone : r.secretKey = none)
    (hfields : r.certFields Field.VELO_ENCRYPTED_SHARED_SECRET_FRAGMENT = some fields)
    (hscan : scan V C r.uuid r.localPrivateKey r.peerPublicKey fields = .ok none) :
    loadSecretKey V C r = .error (.java .missingFieldException "Missing secret key.") r := by
  rw [loadSecretKey, Effect.get_bind, hfields, orThrow_some,
    Effect.bind_ok (Effect.lift_ok fields r), hscan, Effect.bind_ok (Effect.lift_ok _ r)]
  dsimp only
  rw [if_pos hnone]
  rfl

/-- **A recipient loads the key**, from the first fragment for its entity. -/
theorem loadSecretKey_of_wraps (hV : V.Lawful) (hC : C.Lawful)
    {creator recipient : EncryptionKeyPair V} {secretKey : Bytes} (hkey : secretKey.length = 32)
    {secrets : List SharedSecret} {fields : List Bytes} {r : CertificateReader} {uuid : UUID}
    {s : SharedSecret} (hwraps : List.Forall₂ (Wraps C creator secretKey) secrets fields)
    (hfields : r.certFields Field.VELO_ENCRYPTED_SHARED_SECRET_FRAGMENT = present fields)
    (hfirst : secrets.find? (fun s => s.entityId = uuid) = some s)
    (hpublic : s.publicKey = recipient.publicKey) :
    loadSecretKey V C ⟨r, uuid, recipient.privateKey, creator.publicKey, none⟩ =
      .ok () ⟨r, uuid, recipient.privateKey, creator.publicKey, some secretKey⟩ := by
  have hne : fields ≠ [] := by
    rintro rfl
    rw [List.forall₂_nil_right_iff.mp hwraps] at hfirst
    cases hfirst
  rw [present, if_neg hne] at hfields
  refine loadSecretKey_found (r := ⟨r, _, _, _, none⟩) hfields
    (scan_first hC hkey hwraps hfirst ?_)
  -- what the creator wrapped under the agreed secret is unwrapped under it
  intro encryptedKey hencrypt
  obtain ⟨wrapped, hwrapped, hunwrap⟩ :=
    decryptKey_encryptKey hV creator recipient hkey s.length_wrapIv
  rw [← hpublic] at hwrapped
  obtain rfl := Except.ok.inj (hencrypt.symm.trans hwrapped)
  exact hunwrap

/-- **Nobody else does.** -/
theorem loadSecretKey_of_no_wraps (hC : C.Lawful) {creator : EncryptionKeyPair V}
    {secretKey : Bytes} (hkey : secretKey.length = 32) {secrets : List SharedSecret}
    {fields : List Bytes} (hwraps : List.Forall₂ (Wraps C creator secretKey) secrets fields)
    (hloaded : r.secretKey = none)
    (hfields : r.certFields Field.VELO_ENCRYPTED_SHARED_SECRET_FRAGMENT = present fields)
    (hnone : ∀ s ∈ secrets, s.entityId ≠ r.uuid) :
    ∃ message, loadSecretKey V C r = .error (.java .missingFieldException message) r := by
  by_cases hempty : fields = []
  · rw [present, if_pos hempty] at hfields
    exact ⟨_, loadSecretKey_no_fields hfields⟩
  · rw [present, if_neg hempty] at hfields
    exact ⟨_, loadSecretKey_no_fragment hloaded hfields (scan_none hC hkey hwraps hnone)⟩

end EncryptedCertificateReader

open EncryptedCertificateReader in
/-- **Every recipient recovers the key.** Take any calls on an encrypted
builder that return and fit a certificate. A reader for an entity among the
recipients, with the private key to the public key its first call names, and
the creator's public key, loads exactly the builder's secret key, whoever
else was added, before or after. A reader for any other entity is told that
its field is missing, and has no key. -/
theorem every_recipient_recovers (hV : V.Lawful) (hC : C.Lawful) (creator : EncryptionKeyPair V)
    (certificateType : UUID) {secretKey : Bytes} (hkey : secretKey.length = 32)
    {calls : List EncryptedCall} (hfit : Fit certificateType calls)
    {b : EncryptedCertificateBuilder V}
    (hcalls : callAll C calls (createCertificateBuilder creator certificateType secretKey hkey) =
      .ok () b) :
    ∃ cert, b.emit C = .ok cert ∧
      (∀ (recipient : EncryptionKeyPair V) (uuid : UUID) (s : SharedSecret),
        (recipients calls).find? (fun s => s.entityId = uuid) = some s →
        s.publicKey = recipient.publicKey →
        ∃ r, EncryptedCertificateReader.new C uuid recipient.privateKey creator.publicKey
            (.new cert) = .ok r ∧
          loadSecretKey V C r = .ok () { r with secretKey := some secretKey }) ∧
      ∀ (uuid : UUID) (localPrivateKey peerPublicKey : Bytes),
        (∀ s ∈ recipients calls, s.entityId ≠ uuid) →
        ∃ r message, EncryptedCertificateReader.new C uuid localPrivateKey peerPublicKey
            (.new cert) = .ok r ∧
          loadSecretKey V C r = .error (.java .missingFieldException message) r ∧
          r.secretKey = none := by
  obtain ⟨cert, r₀, made, hemit, hnew, hleaves, hgroup⟩ := reader_of_calls hV hC hkey hfit hcalls
  obtain ⟨fields, hwraps, hfields⟩ := fragments_of_reader hleaves hfit.others hgroup
  refine ⟨cert, hemit, ?_, ?_⟩
  · intro recipient uuid s hfirst hpublic
    exact ⟨_, new_eq hnew .., loadSecretKey_of_wraps hV hC hkey hwraps hfields hfirst hpublic⟩
  · intro uuid localPrivateKey peerPublicKey hnone
    obtain ⟨message, hload⟩ := loadSecretKey_of_no_wraps hC hkey hwraps
      (r := ⟨r₀, uuid, localPrivateKey, peerPublicKey, none⟩) rfl hfields hnone
    exact ⟨_, message, new_eq hnew .., hload, rfl⟩

/-- A recipient, its key wrapped under a vector of zeros. -/
def firstRecipient : SharedSecret := ⟨⟨0, 1⟩, List.replicate 32 1, zeros 16, rfl⟩

/-- A fresh builder with a key of nines. -/
def freshBuilder : EncryptedCertificateBuilder XorSuite.suite :=
  createCertificateBuilder (XorSuite.keyPair 0) ⟨0, 0⟩ (List.replicate 32 9) rfl

/-- Two recipients around a plain field, the second one added twice. -/
def twoRecipients : List EncryptedCall :=
  [.addEncryptedSharedSecret firstRecipient,
    .add (.addInt 0x0400 7),
    .addEncryptedSharedSecret ⟨⟨0, 2⟩, List.replicate 32 2, zeros 16, rfl⟩,
    .addEncryptedSharedSecret ⟨⟨0, 2⟩, List.replicate 32 3, zeros 16, rfl⟩]

/-- What the calls do to the fresh builder. -/
def twoRecipientsRun : Except Fault Unit × EncryptedCertificateBuilder XorSuite.suite :=
  Effect.outcome (callAll BufferCert.lib twoRecipients) freshBuilder

open EncryptedCertificateReader in
/-- In the open: the second recipient recovers the key with the key pair named
first, and a third one does not. -/
theorem every_recipient_recovers_open :
    ∃ (cert : Certificate) (r r' : EncryptedCertificateReader) (message : String),
      twoRecipientsRun.2.emit BufferCert.lib = .ok cert ∧
      EncryptedCertificateReader.new BufferCert.lib ⟨0, 2⟩ (XorSuite.keyPair 2).privateKey
        (XorSuite.keyPair 0).publicKey (.new cert) = .ok r ∧
      loadSecretKey XorSuite.suite BufferCert.lib r =
        .ok () { r with secretKey := some (List.replicate 32 9) } ∧
      EncryptedCertificateReader.new BufferCert.lib ⟨0, 3⟩ (XorSuite.keyPair 2).privateKey
        (XorSuite.keyPair 0).publicKey (.new cert) = .ok r' ∧
      loadSecretKey XorSuite.suite BufferCert.lib r' =
        .error (.java .missingFieldException message) r' := by
  have hreturns : twoRecipientsRun.1 = .ok () := by decide +kernel
  have hcalls : callAll BufferCert.lib twoRecipients freshBuilder = .ok () twoRecipientsRun.2 :=
    Effect.ok_of_outcome hreturns
  have hfit : Fit ⟨0, 0⟩ twoRecipients := ⟨by decide, by decide, by decide, by decide⟩
  obtain ⟨cert, hemit, hrecipient, hother⟩ := every_recipient_recovers XorSuite.suite_lawful
    BufferCert.lib_lawful (XorSuite.keyPair 0) ⟨0, 0⟩ rfl hfit hcalls
  obtain ⟨r, hnew, hload⟩ := hrecipient (XorSuite.keyPair 2) ⟨0, 2⟩ _ rfl rfl
  obtain ⟨r', message, hnew', hload', -⟩ := hother ⟨0, 3⟩ (XorSuite.keyPair 2).privateKey
    (XorSuite.keyPair 0).publicKey (by decide)
  exact ⟨cert, r, r', message, hemit, hnew, hload, hnew', hload'⟩

/-- An empty array under the id of the fragments, in front of a recipient. -/
def strayFragment : List EncryptedCall :=
  [.add (.addByteArray Field.VELO_ENCRYPTED_SHARED_SECRET_FRAGMENT []),
    .addEncryptedSharedSecret firstRecipient]

def strayFragmentRun : Except Fault Unit × EncryptedCertificateBuilder XorSuite.suite :=
  Effect.outcome (callAll BufferCert.lib strayFragment) freshBuilder

open EncryptedCertificateReader in
/-- **A stray fragment stops the scan.** The array is no certificate, and the
recipient behind it is not reached. -/
theorem recipient_not_reached :
    (recipients strayFragment).find? (fun s => s.entityId = ⟨0, 1⟩) = some firstRecipient ∧
      firstRecipient.publicKey = (XorSuite.keyPair 1).publicKey ∧
      strayFragmentRun.1 = .ok () ∧
      ∃ (cert : Certificate) (r r' : EncryptedCertificateReader),
        strayFragmentRun.2.emit BufferCert.lib = .ok cert ∧
        EncryptedCertificateReader.new BufferCert.lib ⟨0, 1⟩ (XorSuite.keyPair 1).privateKey
          (XorSuite.keyPair 0).publicKey (.new cert) = .ok r ∧
        loadSecretKey XorSuite.suite BufferCert.lib r =
          .error (.java .illegalArgumentException "certificate has no valid fields.") r' ∧
        r'.secretKey = none := by
  have hrun : (strayFragmentRun.2.emit BufferCert.lib >>= fun cert =>
      EncryptedCertificateReader.new BufferCert.lib ⟨0, 1⟩ (XorSuite.keyPair 1).privateKey
        (XorSuite.keyPair 0).publicKey (.new cert) >>= fun r =>
      .ok ((Effect.outcome (loadSecretKey XorSuite.suite BufferCert.lib) r).1,
        (Effect.outcome (loadSecretKey XorSuite.suite BufferCert.lib) r).2.secretKey)) =
      .ok (.error (.java .illegalArgumentException "certificate has no valid fields."), none) := by
    decide +kernel
  obtain ⟨cert, hemit, hrun⟩ := bind_eq_ok_iff.mp hrun
  obtain ⟨r, hnew, hrun⟩ := bind_eq_ok_iff.mp hrun
  obtain ⟨hload, hnone⟩ := Prod.mk.inj (Except.ok.inj hrun)
  exact ⟨rfl, rfl, by decide +kernel, cert, r, _, hemit, hnew, Effect.error_of_outcome hload, hnone⟩

end VjBlockchain
